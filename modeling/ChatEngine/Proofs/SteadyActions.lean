import ChatEngine.Proofs.OutboxCalls
import ChatEngine.Processor
import ChatEngine.Simulation.Workspace

/-!
# Steady actions

Actions that keep no state and do not look at how a message arrived. What they reply to a message
depends on its content alone, whatever the world is like.
-/

namespace ChatEngine
open Outbox

variable {σ : Type}

/-- Two views of a message that differ in how it arrived, and in nothing else. -/
def IncomingMessage.Alike (m m' : IncomingMessage) : Prop :=
  ∃ msgId subtype payload, m' = { m with msgId, subtype, payload }

/-- An action that keeps no state and does not look at how a message arrived. -/
def RegisteredAction.Steady (r : RegisteredAction σ) : Prop :=
  ∀ m m' : IncomingMessage, m.Alike m' → r.action.isMatch m = r.action.isMatch m' ∧
    ∀ h h' : Host σ, ((r.action.answer r.plugin.services m).attempt h).1 =
      ((r.action.answer r.plugin.services m').attempt h').1

/-- The answer that comes of an action's result: none of a fault, and no empty one. -/
def RegisteredAction.accepted : Except Fault (Option Answer) → Option Answer
  | .ok (some answer) => if answer.isEmpty then none else some answer
  | _ => none

/-- Evaluating gives the same where matching and answering give the same. -/
lemma RegisteredAction.evaluate_congr {r : RegisteredAction σ} {m m' : IncomingMessage}
    (hmatch : r.action.isMatch m = r.action.isMatch m')
    (hanswer : ∀ h h' : Host σ, ((r.action.answer r.plugin.services m).attempt h).1 =
      ((r.action.answer r.plugin.services m').attempt h').1) (h h' : Host σ) :
    ((r.evaluate m).attempt h).1 = ((r.evaluate m').attempt h').1 := by
  unfold RegisteredAction.evaluate
  rw [hmatch]
  cases r.action.isMatch m' with
  | error fault => rfl
  | ok matched =>
    cases matched with
    | false => rfl
    | true => exact hanswer h h'

lemma RegisteredAction.Steady.evaluate {r : RegisteredAction σ} (hr : r.Steady)
    {m m' : IncomingMessage} (ha : m.Alike m') (h h' : Host σ) :
    ((r.evaluate m).attempt h).1 = ((r.evaluate m').attempt h').1 := by
  obtain ⟨hmatch, hanswer⟩ := hr m m' ha
  exact evaluate_congr hmatch hanswer h h'

section
variable [Clocked σ]

lemma RegisteredAction.tryAnswer_fst (r : RegisteredAction σ) (message : IncomingMessage)
    (h : Host σ) :
    (r.tryAnswer message h).1 =
      (r.prepare message).bind fun view => accepted ((r.evaluate view).attempt h).1 := by
  unfold tryAnswer
  cases r.prepare message with
  | none => rfl
  | some view =>
    rw [Option.bind_some]
    have hattempt : ∃ result host, (r.evaluate view).attempt h = (result, host) := ⟨_, _, rfl⟩
    obtain ⟨result, host, hresult⟩ := hattempt
    simp only [bind_apply, get_apply, pure_apply, Host.timed, hresult]
    rcases result with fault | (_ | answer)
    · rfl
    · rfl
    · simp only [pure_apply, accepted]
      split <;> rfl

lemma RegisteredAction.Steady.tryAnswer {r : RegisteredAction σ} (hr : r.Steady)
    {m m' : IncomingMessage} (ha : m.Alike m') (h h' : Host σ) :
    (r.tryAnswer m h).1 = (r.tryAnswer m' h').1 := by
  obtain ⟨msgId, subtype, payload, rfl⟩ := ha
  rw [r.tryAnswer_fst, r.tryAnswer_fst]
  unfold prepare
  dsimp only
  split
  · cases Text.dropStart? (r.plugin.name ++ " ") m.normalizedText with
    | none => rfl
    | some rest => exact congrArg accepted (hr.evaluate ⟨msgId, subtype, payload, rfl⟩ h h')
  · exact congrArg accepted (hr.evaluate ⟨msgId, subtype, payload, rfl⟩ h h')

lemma Dialog.gather_fst {actions : List (RegisteredAction σ)} (hs : ∀ r ∈ actions, r.Steady)
    {m m' : IncomingMessage} (ha : m.Alike m') (h h' : Host σ) :
    (gather m actions h).1 = (gather m' actions h').1 := by
  induction actions generalizing h h' with
  | nil => rfl
  | cons r rest ih =>
    have hfirst := (hs r List.mem_cons_self).tryAnswer ha h h'
    have hrest := ih (fun q hq => hs q (List.mem_cons_of_mem _ hq))
      (r.tryAnswer m h).2 (r.tryAnswer m' h').2
    obtain ⟨msgId, subtype, payload, rfl⟩ := ha
    unfold gather
    simp only [bind_apply]
    rw [← hfirst]
    cases (r.tryAnswer m h).1 with
    | none => exact hrest
    | some answer => exact congrArg (PendingReply.ofAnswer r.id answer m :: ·) hrest

/-- Steady actions reply alike to messages that differ in how they arrived. -/
theorem Dialog.replies_fst {d : Dialog σ} {m m' : IncomingMessage}
    (hs : ∀ r ∈ d.candidates m, r.Steady) (ha : m.Alike m') (h h' : Host σ) :
    (d.replies m h).1 = (d.replies m' h').1 := by
  have hgather := gather_fst hs ha h h'
  obtain ⟨msgId, subtype, payload, rfl⟩ := ha
  have hcandidates : d.candidates { m with msgId, subtype, payload } = d.candidates m := rfl
  have hcommand : d.isCommand { m with msgId, subtype, payload } = d.isCommand m := rfl
  unfold replies
  simp only [bind_apply]
  rw [hcandidates, hcommand, ← hgather]
  split <;> rfl

end

/-! ### A plugin of steady actions -/

namespace Echo
open Simulation

/-- A plugin that repeats what it hears, and says something else to a greeting. -/
def plugin : Plugin Workspace where
  name := "echo"
  hearActions := [
    { answer := fun _ m => pure (some { text := m.rawText }) },
    { answer := fun _ m => pure (if m.rawText = "hi" then some { text := "hello" } else none) }]

def registry : PluginRegistry Workspace := { botName := "bot", version := "1", plugins := [plugin] }

def identity : Option Identity := some { userId := some "B" }

def said (timestamp text : String) : MessageEvent :=
  { channel := some "C", timestamp := some timestamp, userId := some "U", text := some text }

def changed (timestamp text : String) : MessageEvent :=
  { channel := some "C", timestamp := some "9", userId := some "U"
    subtype := some "message_changed"
    edited := some { timestamp := some timestamp, text := some text } }

lemma hearActions_steady {r : RegisteredAction Workspace} (hr : r ∈ registry.hearActions) :
    r.Steady := by
  have hactions : registry.hearActions = plugin.registeredHearActions := rfl
  rw [hactions] at hr
  rintro m m' ⟨_, _, _, rfl⟩
  rcases List.mem_cons.mp hr with rfl | hr
  · exact ⟨rfl, fun _ _ => rfl⟩
  · rw [List.mem_singleton.mp hr]
    exact ⟨rfl, fun _ _ => rfl⟩

lemma commands_steady {r : RegisteredAction Workspace} (hr : r ∈ registry.commands) :
    r.Steady := by
  have hactions : registry.commands =
      (Help.plugin "bot" "1" "Local" [plugin]).registeredCommands := rfl
  rw [hactions] at hr
  rintro m m' ⟨_, _, _, rfl⟩
  rw [List.mem_singleton.mp hr]
  exact ⟨rfl, fun _ _ => rfl⟩

end Echo

end ChatEngine
