import ChatEngine.Text.Format
import ChatEngine.Trigger

/-!
# Faults

Faults: what an operation run on someone else's behalf (a plugin's code, a service, the chat
platform) fails with. A fault has a kind and a wording; the library's own causes of error become
faults when they cross such a boundary.
-/
namespace ChatEngine

/-- What kind of failure a fault is. -/
inductive FaultKind where
  | runtime
  | invalidValue
  | wrongType
  | missingKey
  | missingAttribute
  | badIndex
  | overflow
  | memory
  | jobConflict
  | partitionCount
  | schedule
  | registration
  | configuration
  | malformedEvent
  | userNotFound
  | redaction
  | assertion
  | adapter
  | connection
  | send
  | reaction
  | upload
  | timeout
  | lostConnection
  | fileNotFound
  | isDirectory
  | system
  | platform
  | settings
  | unprintable
  | scanning
  | parsing
  | composing
  | constructing
  | generic
  deriving DecidableEq, Repr

def FaultKind.text : FaultKind → String
  | .runtime => "RuntimeError"
  | .invalidValue => "ValueError"
  | .wrongType => "TypeError"
  | .missingKey => "KeyError"
  | .missingAttribute => "AttributeError"
  | .badIndex => "IndexError"
  | .overflow => "OverflowError"
  | .memory => "MemoryError"
  | .jobConflict => "ConflictingIdError"
  | .partitionCount => "PartitionCountError"
  | .schedule => "ScheduleError"
  | .registration => "RegistrationError"
  | .configuration => "ConfigurationError"
  | .malformedEvent => "MalformedEventError"
  | .userNotFound => "UserNotFoundError"
  | .redaction => "RedactionError"
  | .assertion => "AssertionError"
  | .adapter => "SlackAdapterError"
  | .connection => "ConnectionError"
  | .send => "SendError"
  | .reaction => "ReactionError"
  | .upload => "UploadError"
  | .timeout => "TimeoutError"
  | .lostConnection => "ClientConnectionError"
  | .fileNotFound => "FileNotFoundError"
  | .isDirectory => "IsADirectoryError"
  | .system => "OSError"
  | .platform => "SlackApiError"
  | .settings => "SettingsError"
  | .unprintable => "ReaderError"
  | .scanning => "ScannerError"
  | .parsing => "ParserError"
  | .composing => "ComposerError"
  | .constructing => "ConstructorError"
  | .generic => "Exception"

def FaultKind.all : List FaultKind :=
  [.runtime, .invalidValue, .wrongType, .missingKey, .missingAttribute, .badIndex, .overflow,
   .memory, .jobConflict, .partitionCount, .schedule, .registration, .configuration,
   .malformedEvent, .userNotFound,
   .redaction, .assertion, .adapter, .connection, .send, .reaction, .upload, .timeout,
   .lostConnection, .fileNotFound, .isDirectory, .system, .platform, .settings,
   .unprintable, .scanning, .parsing, .composing, .constructing, .generic]

/-- A failure that an operation ends with. -/
structure Fault where
  kind : FaultKind
  message : String
  deriving DecidableEq, Repr

namespace Fault

/-- The fault as it shows inside another text: a missing key is quoted. -/
def text (f : Fault) : String :=
  if f.kind = .missingKey then Text.quote f.message else f.message

def runtime (message : String) : Fault := ⟨.runtime, message⟩

def invalidValue (message : String) : Fault := ⟨.invalidValue, message⟩

def missingKey (key : String) : Fault := ⟨.missingKey, key⟩

/-- A place in a list that the list does not have. -/
def badIndex : Fault := ⟨.badIndex, "list index out of range"⟩

def missingText : Fault := ⟨.missingAttribute, "'NoneType' object has no attribute 'strip'"⟩

/-- A service that a plugin uses without having been given it. -/
def missingService (operation : String) : Fault :=
  ⟨.missingAttribute, s!"'NoneType' object has no attribute '{operation}'"⟩

def userNotFound (userId : String) : Fault := ⟨.userNotFound, s!"User [{userId}] not found"⟩

def isDirectory (path : String) : Fault :=
  ⟨.isDirectory, "[Errno 21] Is a directory: " ++ Text.quote path⟩

def nameTooLong (path : String) : Fault :=
  ⟨.system, "[Errno 36] File name too long: " ++ Text.quote path⟩

/-- A fault whose wording tells a number. A number that has no text leaves nothing to raise: the
failure to write it is the fault then. -/
def worded (kind : FaultKind) : Except Decimal.IntegerError String → Fault
  | .ok message => ⟨kind, message⟩
  | .error cause => .invalidValue cause.message

end Fault

def ScheduleError.fault (e : ScheduleError) : Fault := .worded .schedule e.message

def TriggerError.fault (e : TriggerError) : Fault :=
  let kind : FaultKind := match e with
    | .schedule _ => .schedule
    | .tooManyDays _ | .daysBeyondRange | .dateRange => .overflow
    | .yearRange _ => .invalidValue
    | .lastSecond => .badIndex
  .worded kind e.message

def Text.FormatError.fault (e : Text.FormatError) : Fault :=
  let kind : FaultKind := match e with
    | .incomplete | .incompleteKey | .unsupported .. => .invalidValue
    | .tooManyDigits | .notNumber | .widthTooBig | .precisionTooBig => .invalidValue
    | .missingKey _ => .missingKey
    | .characterRange | .beyondFloats | .infinite | .precisionTooLarge | .sizeRange _ => .overflow
    | .outOfMemory => .memory
    | _ => .wrongType
  ⟨kind, e.message⟩

/-- Why a bot is configured wrongly. -/
inductive ConfigurationError where
  | missingPlugin (name : String)
  | unknownZone (name : String)
  | missingKey (key plugin : String)
  | invalidKey (key plugin : String) (value : Value)
  | missingAppToken

namespace ConfigurationError

def message : ConfigurationError → String
  | .missingPlugin name =>
    s!"Missing configuration for plugin [{name}] at key [plugins." ++ name ++ "]"
  | .unknownZone name => s!"Unknown time zone [{name}] for key [timeLocation]"
  | .missingKey key plugin => s!"Missing [{key}] configuration key for plugin [{plugin}]"
  | .invalidKey key plugin value =>
    s!"Invalid [{key}] configuration for plugin [{plugin}]: " ++ value.quoted
  | .missingAppToken => "Missing Socket Mode application token at key [appToken]"

def fault (e : ConfigurationError) : Fault := ⟨.configuration, e.message⟩

end ConfigurationError

end ChatEngine
