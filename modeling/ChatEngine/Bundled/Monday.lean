import ChatEngine.Plugin.Basic

/-!
# The Monday greeting

The plugin that starts the week with a picture, on the channels that its configuration names.
-/
namespace ChatEngine.Monday

variable {σ : Type}

def pluginName : String := "ohMonday"

def channelsKey : String := "channelIDs"

def timeKey : String := "atTime"

def pictures : List String :=
  ["https://media.giphy.com/media/3og0IHx11gZBccA98c/giphy-downsized.gif",
   "https://media.giphy.com/media/vguRpQzGag7M5h4UVt/giphy-downsized.gif",
   "https://media.giphy.com/media/9GI7UlOQ6uU95v82q7/giphy-downsized.gif",
   "https://media.giphy.com/media/hu3Z1fwuOZh3a/giphy-downsized.gif",
   "https://media.giphy.com/media/5ZZSYqvcH6QppFQGI5/giphy-downsized.gif",
   "https://media.giphy.com/media/7mMRX7gWzDVwA/giphy-downsized.gif",
   "https://media.giphy.com/media/Mv6t9sASpgTEA/giphy.gif",
   "https://media.giphy.com/media/GGFMa2baxgoLK/giphy.gif",
   "https://media.giphy.com/media/WET6Ed65VUkuY/giphy-downsized.gif",
   "https://media.giphy.com/media/26wkRxKJ9yUZzlorK/giphy-downsized.gif"]

/-- The channels of a configuration value: a list, or a text with commas between them. -/
def readChannels (value : Value) : Except Fault (List String) :=
  match value with
  | .str s =>
    .ok (((Text.split ',' s).filter fun c => Text.trim c != "").map Text.trim)
  | .list items | .tuple items => .ok (items.map Value.text)
  | _ => .error (ConfigurationError.invalidKey channelsKey pluginName value).fault

def greet (choose : Effect (Host σ) Nat) (channels : List String) (sender : Sender (Host σ)) :
    Effect (Host σ) Unit := do
  let picture := pictures[(← choose) % pictures.length]?.getD ""
  channels.forM fun channel => do
    Effect.lift (Host.record .debug "monday_greeting_sending"
      [("channel_id", .str channel), ("picture", .str picture)])
    let _ ← sender picture channel

/-- The plugin of a configuration; `choose` picks the picture of each run. -/
def plugin (config : List (String × Value)) (choose : Effect (Host σ) Nat) :
    Except Fault (Plugin σ) := do
  let some value := Entries.get? channelsKey config
    | throw (ConfigurationError.missingKey channelsKey pluginName).fault
  let channels ← readChannels value
  let time := ((Entries.get? timeKey config).map Value.text).getD "10:00"
  let schedule : Schedule := { weekday := some "Monday", atTime := some time }
  schedule.validate.mapError ScheduleError.fault
  let greeting ← ScheduledAction.build? schedule (some (greet choose channels))
    "Start the week off with a nice greeting" false
  return { name := pluginName, scheduledActions := [greeting] }

end ChatEngine.Monday
