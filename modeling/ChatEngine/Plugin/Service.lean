import ChatEngine.Effect

/-!
# Services for plugins

The services that plugins are given: user look-ups, reactions, uploads, messages outside of any
reply, and a log of their own.
-/
namespace ChatEngine

/-- What to upload and where. -/
structure Upload where
  channels : List String := []
  content : Option String := none
  filePath : Option String := none
  filename : Option String := none
  filetype : Option String := none
  title : Option String := none
  initialComment : Option String := none
  threadTimestamp : Option String := none
  deriving DecidableEq, Repr

namespace Upload

def pathParts (path : String) : Bool × List String :=
  (Text.startsWith path "/", (Text.split '/' path).filter fun p => p != "" && p != ".")

/-- A path in its normal form; exactly two leading slashes are kept. -/
def normalPath (path : String) : String :=
  let (absolute, parts) := pathParts path
  let root := if !absolute then ""
    else if Text.startsWith path "//" && !Text.startsWith path "///" then "//" else "/"
  let text := root ++ Text.join "/" parts
  if text.isEmpty then "." else text

end Upload

abbrev UploadOption := Upload → Upload

namespace UploadOption

def inThread (message : IncomingMessage) : UploadOption := fun upload =>
  match message.thread? with
  | some thread => { upload with threadTimestamp := some thread }
  | none => upload

def inChannels (channels : List String) : UploadOption := fun upload => { upload with channels }

def apply (options : List UploadOption) (upload : Upload) : Upload :=
  options.foldl (fun u option => option u) upload

end UploadOption

/-- A log that plugins write to with format strings. Debug entries are only written when the bot
runs with debugging on. -/
structure PluginLogger where
  debug : Bool := false
  context : List (String × Value) := []

namespace PluginLogger

variable {σ : Type}

def bind (l : PluginLogger) (context : List (String × Value)) : PluginLogger :=
  { l with context := Entries.update l.context context }

/-- The text of an entry: without arguments the format string is the text. -/
def render (fmt : String) (args : List Value) : Except Fault String :=
  if args.isEmpty then .ok fmt
  else (Text.format fmt (.positional args)).mapError Text.FormatError.fault

def write (l : PluginLogger) (level : LogLevel) (event fmt : String) (args : List Value) :
    Effect (Host σ) Unit :=
  match render fmt args with
  | .ok message =>
    Effect.lift (Host.record level event (Entries.put "message" (.str message) l.context))
  | .error fault => throw fault

def printf (l : PluginLogger) (fmt : String) (args : List Value) : Effect (Host σ) Unit :=
  l.write .info "plugin_log" fmt args

def debugf (l : PluginLogger) (fmt : String) (args : List Value) : Effect (Host σ) Unit :=
  if l.debug then l.write .debug "plugin_debug" fmt args else pure ()

end PluginLogger

abbrev Sender (σ : Type) := (text channel : String) → Effect σ MessageId

abbrev UserFinder (σ : Type) := (userId : String) → Effect σ UserProfile

abbrev Reactor (σ : Type) := (name : String) → (item : MessageId) → Effect σ Unit

abbrev Uploader (σ : Type) := Upload → Effect σ Unit

/-- The services a plugin was given. -/
structure Services (σ : Type) where
  userFinder : Option (UserFinder σ) := none
  logger : Option PluginLogger := none
  reactor : Option (Reactor σ) := none
  uploader : Option (Uploader σ) := none
  sender : Option (Sender σ) := none

namespace Services

variable {σ : Type}

def getUser (s : Services σ) (userId : String) : Effect σ UserProfile :=
  match s.userFinder with
  | some find => find userId
  | none => throw (.missingService "get_user")

def react (s : Services σ) (name : String) (item : MessageId) : Effect σ Unit :=
  match s.reactor with
  | some add => add name item
  | none => throw (.missingService "add_reaction")

def upload (s : Services σ) (params : Upload) (options : List UploadOption) : Effect σ Unit :=
  match s.uploader with
  | some send => send (UploadOption.apply options params)
  | none => throw (.missingService "upload_file")

def say (s : Services σ) (text channel : String) : Effect σ MessageId :=
  match s.sender with
  | some send => send text channel
  | none => throw (.missingService "send_new_message")

end Services

end ChatEngine
