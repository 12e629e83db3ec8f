import ChatEngine.Log.Pipeline
import ChatEngine.Plugin.Service

/-!
# The command line

The command line of the program: its flags, how an argument is read by its shape alone, and what
the arguments ask for together.
-/
namespace ChatEngine.CommandLine

/-- The format of the log that was asked for. -/
inductive FormatChoice where
  | unset
  /-- The flag came with the end mark in place of a value. -/
  | nothing
  | chosen (format : LogFormat)
  deriving DecidableEq, Repr

def FormatChoice.format? : FormatChoice → Option LogFormat
  | chosen f => some f
  | _ => none

/-- What the arguments ask for. A flag whose value is the end mark sets nothing at all. -/
structure Settings where
  config : Option String := some "config/config.yaml"
  debug : Bool := false
  dryRun : Bool := false
  format : FormatChoice := .unset
  name : Option String := some "slackscot"
  deriving DecidableEq, Repr

/-- The flags of the program. -/
inductive Flag where
  | help
  | version
  | config
  | debug
  | dryRun
  | format
  | name
  deriving DecidableEq, Repr

namespace Flag

def all : List Flag := [help, version, config, debug, dryRun, format, name]

def word : Flag → String
  | help => "help"
  | version => "version"
  | config => "config"
  | debug => "debug"
  | dryRun => "dry-run"
  | format => "format"
  | name => "name"

/-- The letter of a flag, written after one dash, if it has one. -/
def letter? : Flag → Option Char
  | help => some 'h'
  | config => some 'c'
  | debug => some 'd'
  | _ => none

def takesValue : Flag → Bool
  | config | format | name => true
  | _ => false

def ofLetter? (c : Char) : Option Flag := all.find? fun f => f.letter? == some c

/-- The flags that a word may stand for: the flag of that word, or else all flags whose words
begin with it. -/
def candidates (word : String) : List Flag :=
  match all.find? fun f => f.word == word with
  | some f => [f]
  | none => all.filter fun f => Text.startsWith f.word word

end Flag

/-- Why the arguments cannot be used. -/
inductive Misuse where
  | ambiguous (argument : String)
  | missingValue (flag : Flag)
  | unwantedValue (flag : Flag)
  | unknownFormat (name : String)
  | unrecognized (arguments : List String)
  deriving DecidableEq, Repr

def Misuse.message : Misuse → String
  | ambiguous argument => "ambiguous option: " ++ argument
  | missingValue flag => "argument --" ++ flag.word ++ ": expected one argument"
  | unwantedValue flag => "argument --" ++ flag.word ++ ": takes no value"
  | unknownFormat name => "argument --format: invalid choice: " ++ Text.quote name
  | unrecognized arguments => "unrecognized arguments: " ++ Text.join " " arguments

/-- Why the program ends before it begins. -/
inductive Ending where
  | help
  | version
  | misuse (cause : Misuse)
  deriving DecidableEq, Repr

def Ending.exitCode : Ending → Nat
  | help | version => 0
  | misuse _ => 2

/-- What an argument is by its shape. -/
inductive Token where
  | plain (argument : String)
  | long (flag : Flag) (value : Option String)
  | short (flag : Flag) (rest : Option (List Char))
  | unknown (argument : String)
  | ambiguous (argument : String)
  deriving DecidableEq, Repr

namespace Token

/-- Whether the text after a dash is a number: digits, perhaps after digits and a point. -/
def isNumber (s : List Char) : Bool :=
  let s := if s.getLast? = some '\n' then s.dropLast else s
  let fraction := s.dropWhile Text.isDigit
  match fraction with
  | [] => !s.isEmpty
  | '.' :: digits => !digits.isEmpty && digits.all Text.isDigit
  | _ => false

/-- An argument that is no flag of the program: a negative number or a text with a space is plain,
and anything else a flag that is not known. -/
def strange (argument : String) (afterDash : List Char) : Token :=
  if isNumber afterDash || argument.toList.contains ' ' then .plain argument
  else .unknown argument

def ofArgument (argument : String) : Token :=
  match argument.toList with
  | '-' :: '-' :: body =>
    let word := String.ofList (body.takeWhile (· ≠ '='))
    let value := match body.dropWhile (· ≠ '=') with
      | [] => none
      | _ :: v => some (String.ofList v)
    match Flag.candidates word with
    | [] => strange argument ('-' :: body)
    | [f] => .long f value
    | _ => .ambiguous argument
  | '-' :: c :: rest =>
    match Flag.ofLetter? c with
    | some f => .short f <| match rest with
      | [] => none
      | '=' :: value => some value
      | _ => some rest
    | none => strange argument (c :: rest)
  | _ => .plain argument

end Token

/-- The flags written as letters in one argument, in order; only the last one may have a value. -/
abbrev Bundle := List (Flag × Option String)

/-- Reads the letters that follow a flag in one argument. A flag with a value takes all of them; a
flag without one is followed by the letter of another. -/
def Bundle.read (flag : Flag) : List Char → Except Misuse Bundle
  | [] => .ok [(flag, none)]
  | c :: rest =>
    if flag.takesValue then .ok [(flag, some (String.ofList (c :: rest)))]
    else match Flag.ofLetter? c with
      | none => .error (.unwantedValue flag)
      | some next => (Bundle.read next rest).map ((flag, none) :: ·)

/-- Reads a flag written as a letter with what follows it; an empty value is still one. -/
def Bundle.ofShort (flag : Flag) : Option (List Char) → Except Misuse Bundle
  | none => .ok [(flag, none)]
  | some [] => if flag.takesValue then .ok [(flag, some "")] else .error (.unwantedValue flag)
  | some letters => Bundle.read flag letters

/-- The mark after which no argument is a flag; as the value of a flag it is left out. -/
def endMark : String := "--"

/-- What was read so far: the settings, and the arguments that no flag wanted. -/
structure Progress where
  settings : Settings := {}
  strays : List String := []
  deriving DecidableEq, Repr

namespace Progress

def leave (p : Progress) (argument : String) : Progress :=
  { p with strays := p.strays ++ [argument] }

def take (p : Progress) (flag : Flag) (value : String) : Except Ending Progress :=
  let given : Option String := if value = endMark then none else some value
  let put (settings : Settings) : Except Ending Progress := .ok { p with settings }
  match flag with
  | .help => .error .help
  | .version => .error .version
  | .config => put { p.settings with config := given.map Upload.normalPath }
  | .debug => put { p.settings with debug := true }
  | .dryRun => put { p.settings with dryRun := true }
  | .format =>
    match given, LogFormat.ofText? value with
    | none, _ => put { p.settings with format := .nothing }
    | _, some format => put { p.settings with format := .chosen format }
    | _, none => .error (.misuse (.unknownFormat value))
  | .name => put { p.settings with name := given }

def takeAll (p : Progress) : List (Flag × Option String) → Except Ending Progress
  | [] => .ok p
  | (flag, value) :: rest => do (← p.take flag (value.getD "")).takeAll rest

end Progress

/-- An argument with its shape; `cut` is the mark after which no argument is a flag. -/
inductive Piece where
  | token (t : Token)
  | cut
  deriving DecidableEq, Repr

def pieces : List String → List Piece
  | [] => []
  | "--" :: rest => .cut :: rest.map fun a => .token (.plain a)
  | a :: rest => .token (Token.ofArgument a) :: pieces rest

/-- Reads the pieces in order. A flag that still needs a value takes the plain argument after
it. -/
def follow (p : Progress) : List Piece → Except Ending Progress
  | [] => .ok p
  | .cut :: rest => follow (p.leave "--") rest
  | .token (.plain a) :: rest => follow (p.leave a) rest
  | .token (.unknown a) :: rest | .token (.ambiguous a) :: rest => follow (p.leave a) rest
  | .token (.long flag value) :: rest =>
    match flag.takesValue, value, rest with
    | true, none, .token (.plain a) :: rest => do follow (← p.take flag a) rest
    | true, none, _ => .error (.misuse (.missingValue flag))
    | false, some _, _ => .error (.misuse (.unwantedValue flag))
    | _, value, rest => do follow (← p.take flag (value.getD "")) rest
  | .token (.short flag letters) :: rest =>
    match Bundle.ofShort flag letters with
    | .error cause => .error (.misuse cause)
    | .ok flags =>
      let wanting := flags.getLast?.bind fun (f, value) =>
        if f.takesValue && value.isNone then some f else none
      match wanting, rest with
      | some f, .token (.plain a) :: rest => do
        follow (← (← p.takeAll flags.dropLast).take f a) rest
      | some f, _ => .error (.misuse (.missingValue f))
      | none, rest => do follow (← p.takeAll flags) rest

def firstAmbiguous? (ps : List Piece) : Option String :=
  ps.findSome? fun
    | .token (.ambiguous a) => some a
    | _ => none

/-- What the arguments ask for. An ambiguous argument is refused before anything is done, and
arguments that are left over only after everything was. -/
def read (arguments : List String) : Except Ending Settings := do
  let ps := pieces arguments
  if let some a := firstAmbiguous? ps then throw (.misuse (.ambiguous a))
  let p ← follow {} ps
  if p.strays ≠ [] then throw (.misuse (.unrecognized p.strays))
  return p.settings

def usage : String :=
  "usage: slackscot [-h] [--version] [-c CONFIG] [-d] [--dry-run] [--format \x7bjson,console\x7d] "
    ++ "[--name NAME]"

end ChatEngine.CommandLine
