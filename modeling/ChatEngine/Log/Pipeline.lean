import ChatEngine.Fault
import ChatEngine.Json.Writer
import ChatEngine.Log
import ChatEngine.Redaction.Sanitize
import ChatEngine.Text.Trim

/-!
# The log pipeline

The way of a log entry to its sink: context is merged in, entries below the threshold are dropped,
the event text is formatted, secrets are removed, and what is left is written as one line.
-/
namespace ChatEngine

/-- How entries are written. -/
inductive LogFormat where
  | json
  | console
  deriving DecidableEq, Repr

namespace LogFormat

def text : LogFormat → String
  | json => "json"
  | console => "console"

def ofText? (name : String) : Option LogFormat := [json, console].find? fun f => f.text == name

end LogFormat

/-- Why logging cannot be set up. -/
inductive LoggingError where
  | badLevel (name : String)
  | badFormat (name : String)
  deriving DecidableEq, Repr

def LoggingError.fault : LoggingError → Fault
  | .badLevel name => .invalidValue (Text.quote name ++ " is not a valid LogLevel")
  | .badFormat name => .invalidValue (Text.quote name ++ " is not a valid LogFormat")

def loggedService : String := "slackscot"

/-- A set-up log. -/
structure LogPipeline where
  threshold : LogLevel
  format : LogFormat
  logger : String
  version : String
  /-- What every entry carries unless it says otherwise itself. -/
  context : List (String × Value) := []

namespace LogPipeline

/-- Sets logging up; names of levels and formats may be written in either case. -/
def create (level format logger version : String) : Except LoggingError LogPipeline := do
  let levelName := Text.upper level
  let some threshold := LogLevel.all.find? fun l => Text.upper l.text == levelName
    | throw (.badLevel levelName)
  let formatName := Text.lower format
  let some format := LogFormat.ofText? formatName | throw (.badFormat formatName)
  return { threshold, format, logger, version }

def bind (p : LogPipeline) (fields : List (String × Value)) : LogPipeline :=
  { p with context := Entries.update p.context fields }

def unbind (p : LogPipeline) (keys : List String) : LogPipeline :=
  { p with context := p.context.filter fun e => !keys.contains e.1 }

def clear (p : LogPipeline) : LogPipeline := { p with context := [] }

/-- Why an entry cannot be written. -/
inductive EmitError where
  /-- A field has the name of something else that the call of a method is given. -/
  | takenName (method name : String)
  /-- Arguments are given as a value that has no length. -/
  | noLength (typeName : String)
  /-- Arguments are given as a map of one entry, which has no first item. -/
  | noFirstItem
  | noEvent
  /-- The event is no text, so nothing can be put into it. -/
  | noFormat (event args : String)
  | format (e : Text.FormatError)

def EmitError.fault : EmitError → Fault
  | .takenName method name =>
    ⟨.wrongType, s!"BoundLogger.{method}() got multiple values for argument '{name}'"⟩
  | .noLength name => ⟨.wrongType, s!"object of type '{name}' has no len()"⟩
  | .noFirstItem => .missingKey "0"
  | .noEvent => .missingKey "event"
  | .noFormat event args =>
    ⟨.wrongType, s!"unsupported operand type(s) for %=: '{event}' and '{args}'"⟩
  | .format e => e.fault

/-- Fields that steer the writing of an entry and are not written themselves. -/
def controlFields : List String := ["timestamp", "stack_info", "exc_info"]

def argumentsField : String := "positional_args"

/-- The first field whose name is already taken by the call that writes an entry. -/
def checkNames (method : String) (fields : List (String × Value)) : Except EmitError Unit :=
  match fields.find? fun e => ["event", "self"].contains e.1 with
  | some (name, _) => .error (.takenName method name)
  | none =>
    if Entries.has "method_name" fields then .error (.takenName "_proxy_to_logger" "method_name")
    else .ok ()

def argumentCount : Value → Except EmitError Nat
  | .str s => .ok s.length
  | .list items | .tuple items => .ok items.length
  | .map entries => .ok entries.length
  | v => .error (.noLength v.typeName)

/-- The arguments that a format string is applied to: a single map that is not empty gives named
ones. -/
def formatArguments (args : Value) : Except EmitError Value := do
  if (← argumentCount args) = 1 then
    match args with
    | .list [.map entries] | .tuple [.map entries] =>
      return if entries.isEmpty then args else .map entries
    | .map _ => throw .noFirstItem
    | _ => return args
  return args

def formatEvent (event : Option Value) (args : Value) : Except EmitError Value := do
  let args ← formatArguments args
  match event with
  | none => throw .noEvent
  | some (.str text) =>
    let formatArgs := match args with
      | .tuple items => Text.FormatArgs.positional items
      | v => .single v
    return .str (← (Text.format text formatArgs).mapError .format)
  | some v => throw (.noFormat v.typeName args.typeName)

/-- What is written of an entry, if it is not below the threshold. A null event is none, and the
one of the context counts. -/
def emit (p : LogPipeline) (level : LogLevel) (event : Value) (args : List Value)
    (fields : List (String × Value)) : Except EmitError (Option (List (String × Value))) := do
  checkNames level.text fields
  if level.rank < p.threshold.rank then return none
  let given : List (String × Value) := match event with
    | .null => []
    | v => [("event", v)]
  let arguments : List (String × Value) :=
    if args.isEmpty then [] else [(argumentsField, .tuple args)]
  let entry := Entries.update p.context (Entries.update (fields ++ given) arguments)
  let entry ← match Entries.get? argumentsField entry with
    | none | some .null => pure entry
    | some args =>
      let rest := Entries.erase argumentsField entry
      if !args.isTruthy then pure rest
      else pure (Entries.put "event" (← formatEvent (Entries.get? "event" entry) args) rest)
  let own := entry.filter fun e => !controlFields.contains e.1
  let fixed : List (String × Value) :=
    [("service", .str loggedService), ("version", .str p.version),
     ("logger", .str p.logger), ("level", .str level.text)]
  return some (Redaction.sanitizeEntries (Entries.update own fixed))

/-- The fields that a console line begins with, in order; their names are not shown. -/
def consoleColumns : List String := ["level", "event", "logger", "logger_name"]

/-- The fields that stand on lines of their own at the end of an entry. -/
def consoleTrailers : List String := ["stack", "exception"]

/-- A value on a console line: a text is quoted only if it has a blank, a quote or an equality
sign in it. -/
def consoleText : Value → String
  | .str s =>
    if s.toList.any [' ', '\t', '=', '\r', '\n', '"', '\''].contains then Text.quote s else s
  | v => v.quoted

/-- An entry as shown on a console; it goes over several lines when a text in it does. -/
def consoleForm (entry : List (String × Value)) : String :=
  let columns := consoleColumns.filterMap fun k => (Entries.get? k entry).map Value.text
  let others := entry.filter fun e => !(consoleColumns ++ consoleTrailers).contains e.1
  let pairs := others.map fun (k, v) => k ++ "=" ++ consoleText v
  let trailers := consoleTrailers.filterMap fun k => (Entries.get? k entry).map Value.text
  let rule := "\n\n" ++ String.ofList (List.replicate 79 '=') ++ "\n"
  Text.join " " (columns ++ pairs) ++ Text.join rule (trailers.map ("\n" ++ ·))

def line (p : LogPipeline) (entry : List (String × Value)) : String :=
  match p.format with
  | .json => Json.form (.map entry)
  | .console => consoleForm entry

end LogPipeline

end ChatEngine
