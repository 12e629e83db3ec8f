import ChatEngine.Entries
import ChatEngine.Fault

/-!
# Configurations

The configuration of a bot.
-/
namespace ChatEngine

/-- Where the log file is, and whether it is written. -/
structure FileLogging where
  enabled : Bool := false
  path : String := "slackscot.log"
  deriving DecidableEq, Repr

/-- How the bot logs. -/
structure LoggingConfig where
  level : String := "INFO"
  format : String := "json"
  file : FileLogging := {}
  deriving DecidableEq, Repr

def localLocation : String := "Local"

/-- The configuration of a bot. -/
structure BotConfig where
  token : String
  appToken : Option String := none
  debug : Bool := false
  responseCacheSize : Int := 5000
  timeLocation : String := localLocation
  threadedReplies : Bool := false
  broadcastThreadedReplies : Bool := true
  userInfoCacheSize : Int := 0
  messagePartitionCount : Int := 1
  messageQueueBufferSize : Int := 100
  plugins : List (String × List (String × Value)) := []
  logging : LoggingConfig := {}

namespace BotConfig

def plugin (c : BotConfig) (name : String) : Except ConfigurationError (List (String × Value)) :=
  match Entries.get? name c.plugins with
  | some config => .ok config
  | none => .error (.missingPlugin name)

/-- The token of the socket, which may not be empty. -/
def socketToken (c : BotConfig) : Except ConfigurationError String :=
  match c.appToken with
  | none | some "" => .error .missingAppToken
  | some token => .ok token

end BotConfig

end ChatEngine
