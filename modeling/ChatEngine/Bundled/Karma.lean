import ChatEngine.Plugin.Basic
import ChatEngine.Store

/-!
# Karma

The karma plugin keeps a score for everything: `thing++` raises it and `thing--` lowers it, and two
commands list the highest and the lowest scores. Nobody can change their own.
-/
namespace ChatEngine.Karma

open Text

variable {σ : Type}

def pluginName : String := "karma"

/-- What happens to a score. -/
inductive Change where
  | gain
  | loss
  deriving DecidableEq, Repr

def readChange? : List Char → Option Change
  | '+' :: '+' :: _ => some .gain
  | '-' :: '-' :: _ => some .loss
  | _ => none

def readMention? (cs : List Char) : Option (List Char × List Char) := do
  let rest ← dropLead? ['<', '@'] cs
  let name := rest.takeWhile isWord
  match name, rest.dropWhile isWord with
  | _ :: _, '>' :: rest => some ('<' :: '@' :: name ++ ['>'], rest)
  | _, _ => none

def readWord? (cs : List Char) : Option (List Char × List Char) :=
  match cs.takeWhile isWord with
  | [] => none
  | word => some (word, cs.dropWhile isWord)

def changeAt? (cs : List Char) : Option (List Char × Change) := do
  let cs := cs.dropWhile isBlank
  let (thing, rest) ← (readMention? cs).or (readWord? cs)
  let change ← readChange? rest
  return (thing, change)

def findChange? : List Char → Option (List Char × Change)
  | [] => none
  | c :: cs => (changeAt? (c :: cs)).or (findChange? cs)

def find? (text : String) : Option (String × Change) :=
  (findChange? text.toList).map fun (thing, change) => (String.ofList thing, change)

/-- The digits of the number of things asked for: they follow a word and blanks. -/
def countDigits? (word : String) (text : String) : Option (List Char) := do
  let rest ← dropWord? word.toList text.toList
  let digits := (rest.dropWhile isBlank).takeWhile isDigit
  if rest.head?.any isBlank && !digits.isEmpty then digits else none

/-- Things with the texts of their scores, one a line, the scores in a column of their own. -/
def layOut (pairs : List (String × String)) : String :=
  let width := pairs.foldl (fun w p => max w (p.2.length + 1)) 5
  let row (p : String × String) : String :=
    p.2 ++ String.ofList (List.replicate (width - p.2.length) ' ') ++ p.1 ++ "\n"
  "```" ++ Text.join "" (pairs.map row) ++ "```\n"

/-- A table of things with their scores. A score that is too large to be written leaves no table. -/
def formatList (pairs : List (String × Int)) : Except Decimal.IntegerError String :=
  (pairs.mapM fun p => (Decimal.writeInt p.2).map fun score => (p.1, score)).map layOut

/-- Whether a thing with a score comes before another: the better score first, or the worse when
the worst are listed, and among equals by code points. -/
def before (worst : Bool) (a b : String × Int) : Bool :=
  (if worst then a.2 < b.2 else b.2 < a.2) || (a.2 == b.2 && !(b.1 < a.1))

def rank (worst : Bool) (count : Nat) (scores : List (String × Int)) : List (String × Int) :=
  (scores.mergeSort (before worst)).take count

/-- A number that is not read or not written, as a fault. -/
def numberFault (e : Decimal.IntegerError) : Fault := .invalidValue e.message

/-- The scores in a store's content, all of which have to be integers. -/
def readScores (entries : List (String × String)) : Except Fault (List (String × Int)) :=
  entries.mapM fun (thing, raw) =>
    ((Decimal.readInt raw).map fun n => (thing, n)).mapError numberFault

def selfRefusal : String := "Nice try but karma can only be given by others :wink:"

/-- Whether a thing is the user or a mention of the user. -/
def isSelf (thing : String) (userId : Option String) : Bool :=
  some thing == userId || thing == "<@" ++ userId.getD "None" ++ ">"

/-- The score of a thing; none is stored, or no integer, counts as zero. -/
def current (store : StringStore (Host σ)) (thing : String) : Effect (Host σ) Int := do
  match ← Effect.lift (store.get thing).attempt with
  | .error fault => if fault.kind = .missingKey then return 0 else throw fault
  | .ok raw => match Decimal.parseInt? raw with
    | some n => return n
    | none =>
      Effect.lift (Host.record .warning "karma_value_reset"
        [("thing", .str thing), ("value", .str raw)])
      return 0

def Change.apply (change : Change) (score : Int) : Int :=
  match change with
  | .gain => score + 1
  | .loss => score - 1

def Change.announce (change : Change) (thing score : String) : String :=
  match change with
  | .gain => s!"`{thing}` just gained a level (`{thing}`: {score})"
  | .loss => s!"`{thing}` just lost a life (`{thing}`: {score})"

/-- Stores a score, unless it is too large to be written. -/
def save (store : StringStore (Host σ)) (thing : String) (score : Int) : Effect (Host σ) Unit :=
  match Decimal.writeInt score with
  | .ok text => store.put thing text
  | .error e => throw (numberFault e)

def answerChange (store : StringStore (Host σ)) (services : Services (Host σ))
    (message : IncomingMessage) : Effect (Host σ) (Option Answer) := do
  let some (thing, change) := find? message.normalizedText | return none
  if isSelf thing message.userId then
    return some { text := selfRefusal
                  options := [AnswerOption.ephemeral (message.userId.getD "")] }
  let score := change.apply (← current store thing)
  if let .error _ ← Effect.lift (save store thing score).attempt then
    Effect.lift (Host.record .error "karma_persist_failed" [("thing", .str thing)])
  if let some logger := services.logger then
    logger.debugf "Karma of [%s] is now [%d]" [.str thing, .int score]
  match Decimal.writeInt score with
  | .ok text => return some { text := change.announce thing text }
  | .error e => throw (numberFault e)

def ranking (store : StringStore (Host σ)) (worst : Bool) (count : Nat) :
    Effect (Host σ) (List (String × Int)) := do
  match readScores (← store.scan) with
  | .ok scores => return rank worst count scores
  | .error fault => throw fault

def rankingWord (worst : Bool) : String := if worst then "worst" else "top"

def answerRanking (store : StringStore (Host σ)) (worst : Bool) (message : IncomingMessage) :
    Effect (Host σ) (Option Answer) := do
  let some digits := countDigits? (rankingWord worst) message.normalizedText | return none
  let count ← match Decimal.readInt (String.ofList digits) with
    | .ok n => pure n.toNat
    | .error e => throw (numberFault e)
  let number := Decimal.intText count
  match ← Effect.lift (ranking store worst count).attempt with
  | .error fault =>
    Effect.lift (Host.record .warning "karma_scan_failed" [("error", .str fault.text)])
    return some { text := "Sorry, I couldn't get the " ++ rankingWord worst ++ " [" ++ number
      ++ "] things for you. If you must know, thing happened: " ++ fault.text }
  | .ok pairs =>
    let header := if worst then "Here are the " ++ number ++ " worst things: \n"
      else "Here are the top " ++ number ++ " things: \n"
    match formatList pairs with
    | .ok table => return some { text := header ++ table }
    | .error e => throw (numberFault e)

def changeAction (store : StringStore (Host σ)) : Action σ where
  isMatch m := .ok (find? m.normalizedText).isSome
  answer services m := answerChange store services m
  usage := "thing++ or thing--"
  description := "Keep track of karma"

def rankingCommand (store : StringStore (Host σ)) (worst : Bool) : Action σ where
  isMatch m := .ok (countDigits? (rankingWord worst) m.normalizedText).isSome
  answer _ m := answerRanking store worst m
  usage := rankingWord worst ++ " <howMany>"
  description := "Return the X " ++ rankingWord worst ++ " things ever"

def plugin (store : StringStore (Host σ)) : Plugin σ where
  name := pluginName
  commands := [rankingCommand store false, rankingCommand store true]
  hearActions := [changeAction store]
  namespaced := true

end ChatEngine.Karma
