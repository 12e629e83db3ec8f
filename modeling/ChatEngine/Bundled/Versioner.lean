import ChatEngine.Plugin.Basic

/-!
# The version command

The plugin that tells who the bot is and which version it runs.
-/
namespace ChatEngine.Versioner

variable {σ : Type}

def pluginName : String := "versioner"

def isRequest (text : String) : Bool :=
  Text.dropWord? "version".toList text.toList == some []

def plugin (botName version : String) : Plugin σ where
  name := pluginName
  commands := [{
    isMatch := fun m => .ok (isRequest m.normalizedText)
    answer := fun _ _ =>
      pure (some { text := "I'm `" ++ botName ++ "`, version `" ++ version ++ "`" })
    usage := "version"
    description := "Reply with the name and version of this slackscot instance" }]

end ChatEngine.Versioner
