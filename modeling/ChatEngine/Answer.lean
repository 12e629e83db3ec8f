import ChatEngine.Entries
import ChatEngine.Text.Trim
import ChatEngine.Value

/-!
# Answers and their options

Answers and the options that shape how they are sent. An option is a small map of settings;
options are merged in order, a later setting of a key replacing an earlier one.
-/
namespace ChatEngine

abbrev AnswerOption := List (String × String)

namespace AnswerOption

def threadedKey : String := "threadedReply"

def threadKey : String := "existingThreadTimestamp"

def broadcastKey : String := "broadcast"

/-- The key that names the only user to see the answer. -/
def ephemeralKey : String := "ephemeralToUser"

def knownKeys : List String := [threadedKey, threadKey, broadcastKey, ephemeralKey]

def inThread : AnswerOption := [(threadedKey, "true")]

def inThreadWithBroadcast : AnswerOption := [(threadedKey, "true"), (broadcastKey, "true")]

def inThreadWithoutBroadcast : AnswerOption := [(threadedKey, "true"), (broadcastKey, "false")]

def withoutThreading : AnswerOption := [(threadedKey, "false")]

def inExistingThread (timestamp : String) : AnswerOption :=
  [(threadedKey, "true"), (threadKey, timestamp)]

def ephemeral (userId : String) : AnswerOption := [(ephemeralKey, userId)]

def setting (key value : String) : AnswerOption := [(key, value)]

def merge (options : List AnswerOption) : AnswerOption := options.foldl Entries.update []

end AnswerOption

def saysYes (value : String) : Bool := ["true", "1", "yes"].contains (Text.lower (Text.trim value))

/-- The options of an answer after merging; none means that the default applies. -/
structure ReplyOptions where
  threaded : Option Bool := none
  existingThread : Option String := none
  broadcast : Option Bool := none
  ephemeralTo : Option String := none
  extra : List (String × String) := []
  deriving DecidableEq, Repr

namespace ReplyOptions

def ofSettings (settings : AnswerOption) : ReplyOptions :=
  { threaded := (Entries.get? AnswerOption.threadedKey settings).map saysYes
    existingThread := (Entries.get? AnswerOption.threadKey settings).filter (!·.isEmpty)
    broadcast := (Entries.get? AnswerOption.broadcastKey settings).map saysYes
    ephemeralTo := (Entries.get? AnswerOption.ephemeralKey settings).filter (!·.isEmpty)
    extra := settings.filter fun e => !AnswerOption.knownKeys.contains e.1 }

def resolve (options : List AnswerOption) : ReplyOptions := ofSettings (AnswerOption.merge options)

end ReplyOptions

/-- What an action replies with. -/
structure Answer where
  text : String := ""
  blocks : Option (List Value) := none
  options : List AnswerOption := []

namespace Answer

/-- An answer without text and without content blocks is dropped. -/
def isEmpty (a : Answer) : Bool := a.text.isEmpty && (a.blocks.getD []).isEmpty

def resolveOptions (a : Answer) (extra : List AnswerOption) : ReplyOptions :=
  ReplyOptions.resolve (a.options ++ extra)

end Answer

end ChatEngine
