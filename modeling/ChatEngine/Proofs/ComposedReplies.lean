import ChatEngine.Proofs.SealedRegistries
import ChatEngine.Proofs.TestedPlugins

/-!
# Composed replies

What a bot replies to a message is put together from what its plugins reply, each of them on its
own. Actions of the message's kind are evaluated one after the other, whatever comes of the others;
one that fails is like one that does not match. If nothing comes of all of them, a command is told
so.
-/

namespace ChatEngine

variable {σ : Type}

/-! ### Evaluations -/

/-- An evaluation of an action: the message as the action saw it, and what came of it. -/
structure Evaluation (σ : Type) where
  action : RegisteredAction σ
  view : IncomingMessage
  result : Except Fault (Option Answer)

namespace Evaluation

/-- The reply that an evaluation leads to. -/
def reply? (message : IncomingMessage) (e : Evaluation σ) : Option PendingReply :=
  (RegisteredAction.accepted e.result).map (PendingReply.ofAnswer e.action.id · message)

/-- Whether an evaluation tells what an action does with a message as it sees it. The action's check
has the verdict on that view: what it refuses has no answer, and what it cannot decide is a fault. -/
def Genuine (message : IncomingMessage) (e : Evaluation σ) : Prop :=
  e.action.prepare message = some e.view ∧
    match e.action.action.isMatch e.view with
    | .error fault => e.result = .error fault
    | .ok false => e.result = .ok none
    | .ok true =>
      ∃ h, e.result = ((e.action.action.answer e.action.plugin.services e.view).attempt h).1

lemma Genuine.of_evaluate {message view : IncomingMessage} {r : RegisteredAction σ}
    (seen : r.prepare message = some view) (h : Host σ) :
    Genuine message ⟨r, view, ((r.evaluate view).attempt h).1⟩ := by
  refine ⟨seen, ?_⟩
  unfold RegisteredAction.evaluate
  dsimp only
  cases r.action.isMatch view with
  | error fault => rfl
  | ok hit =>
    cases hit with
    | false => rfl
    | true => exact ⟨h, rfl⟩

end Evaluation

section
variable [Clocked σ]

namespace RegisteredAction

/-- Tries an action, and tells how it was evaluated. -/
def tryEvaluate (r : RegisteredAction σ) (message : IncomingMessage) :
    StateM (Host σ) (Option (Evaluation σ)) := do
  match r.prepare message with
  | none => return none
  | some view =>
    let result ← Host.timed .pluginProcessing [("plugin", r.plugin.name)] do
      let result ← (r.evaluate view).attempt
      if let .error _ := result then
        Host.record .error "plugin_action_failed"
          [("plugin", .str r.plugin.name), ("action", .str r.id.text),
           ("origin", .str message.originId.text)]
      return result
    if (accepted result).isSome then
      Host.count .pluginAnswers [("plugin", r.plugin.name)]
    return some ⟨r, view, result⟩

lemma tryAnswer_eq (r : RegisteredAction σ) (message : IncomingMessage) :
    r.tryAnswer message =
      (fun e => e.bind fun e => accepted e.result) <$> r.tryEvaluate message := by
  unfold tryAnswer tryEvaluate
  cases r.prepare message with
  | none => rfl
  | some view =>
    funext h
    have hdone : ∃ result next, (r.evaluate view).attempt h = (result, next) := ⟨_, _, rfl⟩
    obtain ⟨result, next, hresult⟩ := hdone
    simp only [bind_apply, map_apply, get_apply, Host.timed, hresult]
    rcases result with fault | (_ | answer)
    · rfl
    · rfl
    · cases hempty : answer.isEmpty <;> simp [accepted, hempty, bind_apply, pure_apply]

lemma tryEvaluate_fst (r : RegisteredAction σ) (message : IncomingMessage) (h : Host σ) :
    (r.tryEvaluate message h).1 =
      (r.prepare message).map fun view => ⟨r, view, ((r.evaluate view).attempt h).1⟩ := by
  unfold tryEvaluate
  cases r.prepare message with
  | none => rfl
  | some view =>
    have hdone : ∃ result next, (r.evaluate view).attempt h = (result, next) := ⟨_, _, rfl⟩
    obtain ⟨result, next, hresult⟩ := hdone
    simp only [bind_apply, get_apply, pure_apply, Host.timed, hresult, Option.map_some]
    rcases result with fault | answer
    · rfl
    · split <;> rfl

end RegisteredAction

namespace Dialog

/-- Tries actions in order, and tells how they were evaluated. -/
def evaluateAll (message : IncomingMessage) :
    List (RegisteredAction σ) → StateM (Host σ) (List (Evaluation σ))
  | [] => return []
  | r :: rest => do
    let evaluation ← r.tryEvaluate message
    let evaluations ← evaluateAll message rest
    return evaluation.toList ++ evaluations

/-- Replies are gathered by evaluating actions. -/
lemma gather_eq (message : IncomingMessage) (actions : List (RegisteredAction σ)) :
    gather message actions =
      List.filterMap (·.reply? message) <$> evaluateAll message actions := by
  funext h
  induction actions generalizing h with
  | nil => rfl
  | cons r rest ih =>
    have hrest := ih (r.tryEvaluate message h).2
    have hfirst := r.tryEvaluate_fst message h
    unfold gather evaluateAll
    simp only [bind_apply, map_apply, r.tryAnswer_eq, pure_apply, hrest, hfirst]
    cases r.prepare message with
    | none => rfl
    | some view =>
      rw [Option.map_some, Option.bind_some, Option.toList_some, List.singleton_append,
        List.filterMap_cons, Evaluation.reply?]
      cases RegisteredAction.accepted ((r.evaluate view).attempt h).1 <;> rfl

/-- Every action that sees the message is evaluated, whatever comes of the others. -/
lemma evaluateAll_actions (message : IncomingMessage) (actions : List (RegisteredAction σ))
    (h : Host σ) :
    (evaluateAll message actions h).1.map (·.action) =
      actions.filter fun r => (r.prepare message).isSome := by
  induction actions generalizing h with
  | nil => rfl
  | cons r rest ih =>
    have hrest := ih (r.tryEvaluate message h).2
    unfold evaluateAll
    simp only [bind_apply, pure_apply, r.tryEvaluate_fst message h]
    rw [List.map_append, hrest, List.filter_cons]
    cases r.prepare message <;> rfl

lemma evaluateAll_genuine (message : IncomingMessage) (actions : List (RegisteredAction σ))
    (h : Host σ) : ∀ e ∈ (evaluateAll message actions h).1, e.Genuine message := by
  induction actions generalizing h with
  | nil => exact fun e he => (List.not_mem_nil he).elim
  | cons r rest ih =>
    intro e he
    unfold evaluateAll at he
    simp only [bind_apply, pure_apply, r.tryEvaluate_fst message h] at he
    rcases List.mem_append.mp he with he | he
    · rw [Option.mem_toList, Option.map_eq_some_iff] at he
      obtain ⟨view, hview, rfl⟩ := he
      exact .of_evaluate hview h
    · exact ih _ e he

end Dialog

end

/-! ### Stateless actions -/

namespace RegisteredAction

/-- Whether what comes of an action depends on the message alone, whatever the action changes. -/
def Stateless (r : RegisteredAction σ) : Prop :=
  ∀ (view : IncomingMessage) (h h' : Host σ),
    ((r.action.answer r.plugin.services view).attempt h).1 =
      ((r.action.answer r.plugin.services view).attempt h').1

/-- The reply of an action to a message. -/
def reply? [Clocked σ] (message : IncomingMessage) (h : Host σ) (r : RegisteredAction σ) :
    Option PendingReply :=
  (r.tryAnswer message h).1.map (PendingReply.ofAnswer r.id · message)

variable {r : RegisteredAction σ}

variable [Clocked σ]

end RegisteredAction

namespace Dialog

/-- The replies to a message, the default reply if a command has no other. -/
def completed (d : Dialog σ) (message : IncomingMessage) (replies : List PendingReply) :
    List PendingReply :=
  if d.isCommand message && replies.isEmpty then
    [.ofAnswer .fallback { text := fallbackText } message]
  else replies

variable [Clocked σ]

lemma replies_eq_completed (d : Dialog σ) (message : IncomingMessage) :
    d.replies message = d.completed message <$> gather message (d.candidates message) := by
  funext h
  unfold replies completed
  rw [bind_apply, map_apply]
  split <;> rfl

end Dialog

/-! ### Registered plugins -/

/-- A plugin of stateless actions. -/
def Plugin.Stateless (p : Plugin σ) : Prop :=
  ∀ a ∈ p.commands ++ p.hearActions, ∀ (view : IncomingMessage) (h h' : Host σ),
    ((a.answer p.services view).attempt h).1 = ((a.answer p.services view).attempt h').1

lemma Plugin.Stateless.registered {p : Plugin σ} (stateless : p.Stateless) {command : Bool}
    {r : RegisteredAction σ} (hr : r ∈ p.registered command) : r.Stateless := by
  obtain ⟨hplugin, haction, -⟩ := mem_registered hr
  intro view h h'
  rw [hplugin]
  exact stateless _ haction view h h'

namespace PluginRegistry

/-- What the replies to a message depend on, with the plugins of a registry. -/
def dialog (r : PluginRegistry σ) (identity : Option Identity) : Dialog σ :=
  { commands := r.commands, hearActions := r.hearActions, identity }

section
variable [Clocked σ] {r : PluginRegistry σ}

end

end PluginRegistry

/-! ### Composition -/

namespace Echo
open Simulation

end Echo

end ChatEngine
