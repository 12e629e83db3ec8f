import ChatEngine.Answer
import ChatEngine.Fault
import ChatEngine.Message

/-!
# Expectations

Expectations of tests: what was expected and what came instead.
-/
namespace ChatEngine.Testing

/-- An expectation that was not met. -/
inductive Unmet where
  | noAnswer
  | text (expected actual : String)
  | textPart (part actual : String)
  | options (expected actual : AnswerOption)
  | noMatch (text : String)
  | unwantedMatch (text : String)
  | noRun (schedule : Schedule)
  | unwantedRun (schedule : Schedule) (description : String)
  | reactionsElsewhere (expected : MessageId) (actual : List MessageId)
  | reactions (expected actual : List String)

namespace Unmet

def message : Unmet → Except Decimal.IntegerError String
  | noAnswer => .ok "Expected an answer but got None"
  | text expected actual => .ok s!"Answer text expected to be [{expected}] but was [{actual}]"
  | textPart part actual =>
    .ok s!"Answer expected to have text containing [{part}] but its text [{actual}] didn't"
  | options expected actual =>
    .ok ("Answer options expected " ++ quotedMap expected ++ " but were " ++ quotedMap actual)
  | noMatch t => .ok s!"Message [{t}] expected to match but the action didn't"
  | unwantedMatch t => .ok s!"Message [{t}] shouldn't match but the action did"
  | noRun schedule => schedule.text.map fun words =>
    s!"Expected an action to run on schedule [{words}] but none did"
  | unwantedRun schedule description => schedule.text.map fun words =>
    s!"Expected no action on schedule [{words}] but [{description}] would run"
  | reactionsElsewhere expected actual =>
    .ok (s!"Expected reactions on [{expected.text}] but got them on ["
      ++ Text.join ", " (actual.map MessageId.described) ++ "]")
  | reactions expected actual =>
    .ok ("Expected reactions " ++ quotedList expected ++ " but got " ++ quotedList actual)

def fault (u : Unmet) : Fault := .worded .assertion u.message

end Unmet

def checkText (answer : Option Answer) (expected : String) : Except Unmet Unit :=
  match answer with
  | none => .error .noAnswer
  | some a => if a.text = expected then .ok () else .error (.text expected a.text)

def checkTextPart (answer : Option Answer) (part : String) : Except Unmet Unit :=
  match answer with
  | none => .error .noAnswer
  | some a => if Text.contains a.text part then .ok () else .error (.textPart part a.text)

/-- Whether two maps have the same entries, in whatever order. -/
def sameEntries (a b : List (String × String)) : Bool :=
  a.length = b.length && a.all fun e => Entries.get? e.1 b = some e.2

def checkOptions (answer : Option Answer) (expected : AnswerOption) : Except Unmet Unit :=
  match answer with
  | none => .error .noAnswer
  | some a =>
    let settings := AnswerOption.merge a.options
    if sameEntries settings expected then .ok () else .error (.options expected settings)

end ChatEngine.Testing
