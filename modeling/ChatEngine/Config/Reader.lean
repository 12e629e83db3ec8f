import ChatEngine.Config.Conversion
import ChatEngine.Value.Field
import ChatEngine.Value.Key

/-!
# Reading configurations

Reading a configuration from a map of dynamic values. Keys may be written with capitals inside
(`responseCacheSize`) or with underscores (`response_cache_size`). All issues are reported, in the
order of the fields.
-/
namespace ChatEngine.Config

/-- An issue and where in the configuration it is. -/
structure Problem where
  location : List String
  issue : Issue
  deriving DecidableEq, Repr

def Problem.place (p : Problem) : String := Text.join "." p.location

/-- A part read from a configuration, with the problems met; with problems the part means
nothing. -/
structure Checked (α : Type) where
  value : α
  problems : List Problem := []

namespace Checked

def within {α : Type} (key : String) (c : Checked α) : Checked α :=
  { c with problems := c.problems.map fun p => { p with location := key :: p.location } }

end Checked

/-- Converts a value, with a stand-in for one that does not fit. -/
def convert {α : Type} (conversion : Conversion α) (standIn : α) (v : Value) : Checked α :=
  match conversion v with
  | .ok a => ⟨a, []⟩
  | .error issue => ⟨standIn, [⟨[], issue⟩]⟩

def field {α : Type} (entries : List (String × Value)) (key : String) (conversion : Conversion α)
    (default : α) : Checked α :=
  match Entries.get? key entries with
  | some v => (convert conversion default v).within key
  | none => ⟨default, []⟩

def requiredText (entries : List (String × Value)) (key : String) : Checked String :=
  match Entries.get? key entries with
  | some v => (convert text "" v).within key
  | none => ⟨"", [⟨[key], .missing⟩]⟩

/-- The entries of a map or table whose keys are texts. -/
def textEntries? (v : Value) : Option (List (String × Value)) :=
  v.pairs?.map fun pairs => pairs.filterMap fun e => match e.1 with
    | .str key => some (key, e.2)
    | _ => none

/-- Reads a group of fields; keys that are no texts belong to none of them. -/
def group {α : Type} (entries : List (String × Value)) (key name : String) (default : α)
    (read : List (String × Value) → Checked α) : Checked α :=
  match Entries.get? key entries with
  | none => ⟨default, []⟩
  | some v => match textEntries? v with
    | some fields => (read fields).within key
    | none => ⟨default, [⟨[key], .notGroup name⟩]⟩

def readFileLogging (entries : List (String × Value)) : Checked FileLogging :=
  let standard : FileLogging := {}
  let enabled := field entries "enabled" truth standard.enabled
  let path := field entries "path" path standard.path
  ⟨⟨enabled.value, path.value⟩, enabled.problems ++ path.problems⟩

def levelNames : List String := ["DEBUG", "INFO", "WARNING", "ERROR", "CRITICAL"]

def readLogging (entries : List (String × Value)) : Checked LoggingConfig :=
  let standard : LoggingConfig := {}
  let level := field entries "level" (oneOf levelNames) standard.level
  let format := field entries "format" (oneOf ["json", "console"]) standard.format
  let file := group entries "file" "FileLoggingConfig" standard.file readFileLogging
  ⟨⟨level.value, format.value, file.value⟩, level.problems ++ format.problems ++ file.problems⟩

/-- A key as part of a location: a truth value is a number there. -/
def keyPlace : Value → String
  | .bool b => if b then "1" else "0"
  | .str s => s
  | v => v.quoted

def readKey (key : Value) : Checked String :=
  ((convert text "" key).within "[key]").within (keyPlace key)

/-- Reads the entries of a map; the keys have to be texts. -/
def readEntries {α : Type} (read : Value → Checked α) :
    List (Value × Value) → Checked (List (String × α))
  | [] => ⟨[], []⟩
  | (k, v) :: rest =>
    let key := readKey k
    let content := (read v).within (keyPlace k)
    let others := readEntries read rest
    ⟨(key.value, content.value) :: others.value,
      key.problems ++ content.problems ++ others.problems⟩

def readMap {α : Type} (read : Value → Checked α) (v : Value) : Checked (List (String × α)) :=
  match v.pairs? with
  | some pairs => readEntries read pairs
  | none => ⟨[], [⟨[], .notMapping⟩]⟩

/-- Reads the configurations of the plugins: a map for each, of any values. -/
def readPlugins : Value → Checked (List (String × List (String × Value))) :=
  readMap (readMap fun v => ⟨v, []⟩)

def pluginsField (entries : List (String × Value)) :
    Checked (List (String × List (String × Value))) :=
  match Entries.get? "plugins" entries with
  | none => ⟨[], []⟩
  | some v => (readPlugins v).within "plugins"

def readFields (entries : List (String × Value)) : Except (List Problem) BotConfig :=
  let standard : BotConfig := { token := "" }
  let token := requiredText entries "token"
  let appToken := field entries "app_token" optionalText standard.appToken
  let debug := field entries "debug" truth standard.debug
  let cacheSize := field entries "response_cache_size" (integerFrom 1) standard.responseCacheSize
  let location := field entries "time_location" timeLocation standard.timeLocation
  let threaded := field entries "threaded_replies" truth standard.threadedReplies
  let broadcast :=
    field entries "broadcast_threaded_replies" truth standard.broadcastThreadedReplies
  let users := field entries "user_info_cache_size" integer standard.userInfoCacheSize
  let partitions :=
    field entries "message_partition_count" partitionCount standard.messagePartitionCount
  let buffer :=
    field entries "message_queue_buffer_size" (integerFrom 1) standard.messageQueueBufferSize
  let plugins := pluginsField entries
  let logging := group entries "logging" "LoggingConfig" standard.logging readLogging
  let problems := token.problems ++ appToken.problems ++ debug.problems ++ cacheSize.problems
    ++ location.problems ++ threaded.problems ++ broadcast.problems ++ users.problems
    ++ partitions.problems ++ buffer.problems ++ plugins.problems ++ logging.problems
  if problems.isEmpty then
    .ok {
      token := token.value
      appToken := appToken.value
      debug := debug.value
      responseCacheSize := cacheSize.value
      timeLocation := location.value
      threadedReplies := threaded.value
      broadcastThreadedReplies := broadcast.value
      userInfoCacheSize := users.value
      messagePartitionCount := partitions.value
      messageQueueBufferSize := buffer.value
      plugins := plugins.value
      logging := logging.value }
  else .error problems

def fieldNames : List String :=
  ["token", "app_token", "debug", "response_cache_size", "time_location", "threaded_replies",
   "broadcast_threaded_replies", "user_info_cache_size", "message_partition_count",
   "message_queue_buffer_size", "plugins", "logging"]

/-- The characters of a key with an underscore before every capital but one that comes first. -/
def separateWords : (first : Bool) → List Char → List Char
  | _, [] => []
  | first, c :: cs =>
    if c.isUpper && !first then '_' :: c :: separateWords false cs else c :: separateWords false cs

def fieldKey (key : String) : String :=
  Text.lower (String.ofList (separateWords true key.toList))

/-- The entries of a map with the keys of fields; of entries for one field the last counts. -/
def keyed (entries : List (String × Value)) : List (String × Value) :=
  Entries.ofList (entries.map fun (k, v) => (fieldKey k, v))

def named? (field : String) (entries : List (String × Value)) : Option (String × Value) :=
  entries.find? fun e => Text.lower e.1 == field

/-- The entries given for a configuration, those that name a field outright last. -/
def arranged (entries : List (String × Value)) : List (String × Value) :=
  let direct := fieldNames.filterMap fun f => (named? f entries).map fun e => (f, e.2)
  entries.filter (fun e => !fieldNames.contains (Text.lower e.1)) ++ direct

def mergeDepth : Nat := 64

/-- What is given and, where nothing is given, the defaults of the surroundings, by the keys of the
fields. -/
def combined (surroundings given : List (String × Value)) : List (String × Value) :=
  keyed ((Value.merge mergeDepth (.map surroundings) (.map (arranged given))).entries)

end ChatEngine.Config
