import ChatEngine.Plugin.Basic

/-!
# Help

The help of a bot: what it introduces itself with, and one line for every action that is not
hidden, grouped by kind.
-/
namespace ChatEngine

variable {σ : Type}

namespace Help

def pluginName : String := "help"

def isRequest (message : IncomingMessage) : Bool :=
  Text.lower (Text.trim message.normalizedText) == pluginName

def bullet (usage description : String) : String :=
  if usage.isEmpty then "\t• " ++ description else "\t• `" ++ usage ++ "` - " ++ description

def introduction (botName version : String) : String :=
  "I'm `" ++ botName ++ "` (engine version `" ++ version
    ++ "`) that listens to the team's chat and provides automated functions."

def commandLines (p : Plugin σ) : List String :=
  (p.commands.filter (!·.hidden)).map fun c => bullet (p.shownUsage c.usage) c.description

def hearLines (p : Plugin σ) : List String :=
  (p.hearActions.filter (!·.hidden)).map fun h => bullet h.usage h.description

def scheduledLines (location : String) (p : Plugin σ) : List String :=
  (p.scheduledActions.filter (!·.hidden)).map fun s =>
    "\t• [`" ++ p.name ++ "`] `" ++ s.wording ++ "` (`" ++ location ++ "`) - "
      ++ s.description

/-- A titled group of lines after a blank line; nothing when there are no lines. -/
def group (title : String) (lines : List String) : List String :=
  if lines.isEmpty then [] else "" :: title :: lines

def lines (botName version location : String) (plugins : List (Plugin σ)) : List String :=
  introduction botName version
    :: group "I currently support the following commands:" (plugins.flatMap commandLines)
    ++ group "And listen for the following:" (plugins.flatMap hearLines)
    ++ group "And do those things periodically:" (plugins.flatMap (scheduledLines location))

def render (botName version location : String) (plugins : List (Plugin σ)) : String :=
  Text.join "\n" (lines botName version location plugins) ++ "\n"

def plugin (botName version location : String) (plugins : List (Plugin σ)) : Plugin σ :=
  let text := render botName version location plugins
  { name := pluginName
    commands := [{
      isMatch := fun m => .ok (isRequest m)
      answer := fun _ _ => pure (some { text })
      usage := pluginName
      description := "Reply with usage instructions" }] }

end Help

end ChatEngine
