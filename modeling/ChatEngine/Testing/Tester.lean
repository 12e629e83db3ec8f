import ChatEngine.Mention
import ChatEngine.Plugin.Registry
import ChatEngine.Testing.Expectation

/-!
# The plugin tester

A tester drives the actions of one plugin as a bot would, without a bot. Services that capture
what the plugin does with them stand in for those of a workspace, and faults are not caught.
-/
namespace ChatEngine.Testing

/-- What a plugin did with capturing services. -/
structure Captured where
  reactions : List (String × MessageId) := []
  uploads : List Upload := []
  sent : List (String × List String) := []
  sentCount : Nat := 0

/-- A world that keeps what capturing services were used for. -/
class Capturing (σ : Type) where
  captured : σ → Captured
  setCaptured : Captured → σ → σ

/-- What a plugin produced for one message. -/
structure Produced where
  answers : List Answer
  emojis : List String
  uploads : List Upload

variable {σ : Type} [Capturing σ]

def capture (f : Captured → Captured) : Effect (Host σ) Unit :=
  Effect.change fun h =>
    { h with world := Capturing.setCaptured (f (Capturing.captured h.world)) h.world }

def captured : Effect (Host σ) Captured := do return Capturing.captured (← get).world

def reactor : Reactor (Host σ) := fun name item =>
  capture fun c => { c with reactions := c.reactions ++ [(name, item)] }

def uploader : Uploader (Host σ) := fun params =>
  capture fun c => { c with uploads := c.uploads ++ [params] }

/-- Keeps the texts sent, by channel; messages get increasing timestamps. -/
def sender : Sender (Host σ) := fun text channel => do
  capture fun c =>
    { c with
      sent := Entries.put channel ((Entries.get? channel c.sent).getD [] ++ [text]) c.sent
      sentCount := c.sentCount + 1 }
  return ⟨channel, Decimal.intText (← captured).sentCount ++ ".0"⟩

/-- The services that a plugin is tested with: capturing ones beside those it was given. -/
def services (p : Plugin σ) : Services (Host σ) :=
  { p.services with
    logger := some { debug := true, context := [("plugin", .str p.name)] }
    reactor := some reactor
    uploader := some uploader }

def inject (p : Plugin σ) : Plugin σ := { p with services := services p }

def incoming (identity : Identity) (text : String) (channel : String := "C1")
    (user : String := "U1") (timestamp : String := "100.0") (thread : Option String := none) :
    IncomingMessage :=
  let id : MessageId := ⟨channel, timestamp⟩
  { msgId := id
    originId := id
    userId := some user
    channel
    rawText := text
    normalizedText := (stripMention text (some identity)).2
    threadTimestamp := thread }

/-- The actions that a message goes to, with their identities: the commands if it is for the bot,
and else the hear actions. -/
def candidates (identity : Identity) (p : Plugin σ) (m : IncomingMessage) :
    List (RegisteredAction σ) :=
  let (kind, actions) : ActionKind × List (Action σ) :=
    if (stripMention m.rawText (some identity)).1 || m.isDirect then (.command, p.commands)
    else (.hear, p.hearActions)
  actions.mapIdx fun i action => ⟨p, action, ⟨p.name, kind, i⟩⟩

def answerOf (m : IncomingMessage) (r : RegisteredAction σ) :
    Effect (Host σ) (Option Answer) := do
  match r.prepare m with
  | none => return none
  | some view =>
    if ← Effect.ofResult (r.action.isMatch view) then r.action.answer r.plugin.services view
    else return none

def answersOf (m : IncomingMessage) : List (RegisteredAction σ) → Effect (Host σ) (List Answer)
  | [] => return []
  | r :: rest => do
    let answer ← answerOf m r
    return answer.toList ++ (← answersOf m rest)

def answersAndReacts (identity : Identity) (p : Plugin σ) (text : String)
    (channel : String := "C1") (user : String := "U1") : Effect (Host σ) Produced := do
  let p := inject p
  capture fun _ => {}
  let m := incoming identity text channel user
  let answers ← answersOf m (candidates identity p m)
  let c ← captured
  return ⟨answers, c.reactions.map (·.1), c.uploads⟩

/-- Runs the scheduled actions of a schedule, at least one; the result is what they sent. -/
def runsOnSchedule (p : Plugin σ) (schedule : Schedule) :
    Effect (Host σ) (List (String × List String)) := do
  capture fun _ => {}
  let due := p.scheduledActions.filter fun s => s.schedule = schedule
  due.forM fun s => s.run sender
  if due.isEmpty then throw (Unmet.noRun schedule).fault
  return (← captured).sent

def doesNotRunOnSchedule (p : Plugin σ) (schedule : Schedule) : Except Unmet Unit :=
  match p.scheduledActions.find? fun s => s.schedule = schedule with
  | some s => .error (.unwantedRun schedule s.description)
  | none => .ok ()

def matchesAndAnswers (services : Services (Host σ)) (action : Action σ) (m : IncomingMessage) :
    Effect (Host σ) (Option Answer) := do
  if ← Effect.ofResult (action.isMatch m) then action.answer services m
  else throw (Unmet.noMatch m.normalizedText).fault

def doesNotMatch (action : Action σ) (m : IncomingMessage) : Except Fault Unit := do
  if ← action.isMatch m then throw (Unmet.unwantedMatch m.normalizedText).fault

def sorted (texts : List String) : List String := texts.mergeSort fun a b => !(b < a)

/-- Checks that an action matches a message and reacts to it with the given emojis, in any
order. -/
def matchesAndReacts (p : Plugin σ) (action : Action σ) (m : IncomingMessage)
    (emojis : List String) : Effect (Host σ) Unit := do
  capture fun c => { c with reactions := [] }
  let _ ← matchesAndAnswers { p.services with reactor := some reactor } action m
  let reactions := (← captured).reactions
  if reactions.any fun r => r.2 != m.originId then
    throw (Unmet.reactionsElsewhere m.originId (reactions.map (·.2))).fault
  let names := reactions.map (·.1)
  if sorted names != sorted emojis then throw (Unmet.reactions emojis names).fault

end ChatEngine.Testing
