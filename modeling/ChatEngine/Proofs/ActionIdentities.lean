import ChatEngine.Processor
import ChatEngine.Proofs.OutboxCalls
import Mathlib.Data.List.Range

/-!
# Identities of registered actions

Registration keeps the names of plugins apart, so that no two commands, and no two hear actions, of
a registry share an identity. The replies to one message therefore come from different actions,
whatever the actions answer.
-/

namespace ChatEngine

variable {σ : Type}

/-- The actions of a plugin for commands, or those for what is overheard. -/
def Plugin.registered (command : Bool) (p : Plugin σ) : List (RegisteredAction σ) :=
  if command then p.registeredCommands else p.registeredHearActions

/-- What tells the actions of a plugin from the help and from the default reply. -/
lemma Plugin.mem_registered {command : Bool} {p : Plugin σ} {r : RegisteredAction σ}
    (hr : r ∈ p.registered command) :
    r.plugin = p ∧ r.action ∈ p.commands ++ p.hearActions ∧ r.id.plugin = p.name ∧
      r.id ≠ .fallback := by
  unfold registered at hr
  split at hr
  · obtain ⟨⟨action, place⟩, hmem, rfl⟩ := List.mem_map.mp hr
    refine ⟨rfl, List.mem_append_left _ (List.fst_mem_of_mem_zipIdx hmem), rfl, fun hid => ?_⟩
    cases congrArg ActionId.kind hid
  · obtain ⟨⟨action, place⟩, hmem, rfl⟩ := List.mem_map.mp hr
    refine ⟨rfl, List.mem_append_right _ (List.fst_mem_of_mem_zipIdx hmem), rfl, fun hid => ?_⟩
    cases congrArg ActionId.kind hid

namespace PluginRegistry

/-- The registries that registering, sealing and handing out services can lead to. -/
inductive Built : PluginRegistry σ → Prop
  | empty (botName version location : String) : Built { botName, version, location }
  | register {r next : PluginRegistry σ} {p : Plugin σ} (built : Built r)
      (accepted : r.register p = .ok next) : Built next
  | close {r : PluginRegistry σ} (built : Built r) : Built r.close
  | inject {r : PluginRegistry σ} (built : Built r) (services : Plugin σ → Services (Host σ)) :
      Built (r.inject services)

/-- Plugins have distinct names, and only the built-in help has its name. -/
structure NamesApart (r : PluginRegistry σ) : Prop where
  distinct : (r.plugins.map (·.name)).Nodup
  unreserved : ∀ p ∈ r.plugins, p.name ≠ Help.pluginName
  help : ∀ p ∈ r.help, p.name = Help.pluginName

lemma close_isSealed (r : PluginRegistry σ) : r.close.isSealed = true := by
  unfold close
  split
  · assumption
  · rfl

lemma close_of_sealed {r : PluginRegistry σ} (h : r.isSealed = true) : r.close = r := if_pos h

lemma register_cases {r next : PluginRegistry σ} {p : Plugin σ} (h : r.register p = .ok next) :
    r.isSealed = false ∧ p.name ≠ Help.pluginName ∧ p.name ∉ r.plugins.map (·.name) ∧
      next = { r with plugins := r.plugins ++ [p] } := by
  unfold register at h
  split_ifs at h with hs hr ht
  refine ⟨by simpa using hs, hr, ?_, (Except.ok.inj h).symm⟩
  intro hmem
  apply ht
  obtain ⟨q, hq, hname⟩ := List.mem_map.mp hmem
  exact List.any_eq_true.mpr ⟨q, hq, by simpa using hname⟩

theorem Built.namesApart {r : PluginRegistry σ} (h : Built r) : r.NamesApart := by
  induction h with
  | empty => exact ⟨List.nodup_nil, fun _ h => (List.not_mem_nil h).elim, fun _ h => nomatch h⟩
  | @register r next p _ accepted ih =>
    obtain ⟨-, hreserved, hnew, rfl⟩ := register_cases accepted
    refine ⟨?_, ?_, ih.help⟩
    · rw [List.map_append, List.map_singleton, List.nodup_append]
      refine ⟨ih.distinct, List.nodup_singleton _, ?_⟩
      intro a ha b hb hab
      rw [List.mem_singleton] at hb
      exact hnew (hb ▸ hab ▸ ha)
    · intro q hq
      rcases List.mem_append.mp hq with hq | hq
      · exact ih.unreserved q hq
      · rw [List.mem_singleton.mp hq]
        exact hreserved
  | @close r _ ih =>
    unfold PluginRegistry.close
    split
    · exact ih
    · refine ⟨ih.distinct, ih.unreserved, ?_⟩
      intro p hp
      rw [← Option.some.inj hp]
      rfl
  | @inject r _ services ih =>
    refine ⟨?_, ?_, ih.help⟩
    · simpa [PluginRegistry.inject, List.map_map, Function.comp_def] using ih.distinct
    · intro p hp
      obtain ⟨q, hq, rfl⟩ := List.mem_map.mp hp
      exact ih.unreserved q hq

lemma NamesApart.all_nodup {r : PluginRegistry σ} (h : r.NamesApart) :
    (r.all.map (·.name)).Nodup := by
  have hhelp := h.help
  unfold all
  cases hp : r.help with
  | none => simpa using h.distinct
  | some help =>
    rw [hp] at hhelp
    rw [Option.toList_some, List.map_append, List.map_singleton, List.nodup_append]
    refine ⟨h.distinct, List.nodup_singleton _, ?_⟩
    intro a ha b hb hab
    obtain ⟨q, hq, rfl⟩ := List.mem_map.mp ha
    rw [List.mem_singleton.mp hb, hhelp help rfl] at hab
    exact h.unreserved q hq hab

/-- Where plugins have distinct names, a name and a place in the plugin's list tell what stands
there from everything else. -/
lemma places_nodup {α : Type} (list : Plugin σ → List α) {plugins : List (Plugin σ)}
    (h : (plugins.map (·.name)).Nodup) :
    (plugins.flatMap fun p => (list p).zipIdx.map fun e => (p.name, e.2)).Nodup := by
  rw [List.nodup_flatMap]
  refine ⟨?_, ?_⟩
  · intro p _
    have hindex : ((list p).zipIdx.map Prod.snd).Nodup := by
      rw [List.zipIdx_map_snd]
      exact List.nodup_range'
    have hmap := hindex.map fun i j (hij : (p.name, i) = (p.name, j)) => (Prod.mk.inj hij).2
    rwa [List.map_map] at hmap
  · -- Places of different plugins differ in the name.
    refine (List.pairwise_map.mp h).imp ?_
    intro p q hpq place hp hq
    obtain ⟨e, -, rfl⟩ := List.mem_map.mp hp
    obtain ⟨f, -, hf⟩ := List.mem_map.mp hq
    exact hpq (congrArg Prod.fst hf).symm

lemma registered_ids_nodup (kind : ActionKind) (actions : Plugin σ → List (Action σ))
    {plugins : List (Plugin σ)} (h : (plugins.map (·.name)).Nodup) :
    (plugins.flatMap fun p => (actions p).zipIdx.map fun e =>
      (⟨p.name, kind, e.2⟩ : ActionId)).Nodup := by
  have hinj : Function.Injective fun place : String × Nat =>
      (⟨place.1, kind, place.2⟩ : ActionId) := by
    rintro ⟨_, _⟩ ⟨_, _⟩ hid
    cases hid
    rfl
  have hmap := (places_nodup actions h).map hinj
  simpa only [List.map_flatMap, List.map_map, Function.comp_def] using hmap

theorem commands_ids_nodup {r : PluginRegistry σ} (h : Built r) :
    (r.commands.map (·.id)).Nodup := by
  have hn := registered_ids_nodup .command (·.commands) h.close.namesApart.all_nodup
  simpa [commands, Plugin.registeredCommands, List.map_flatMap, List.map_map,
    Function.comp_def] using hn

theorem hearActions_ids_nodup {r : PluginRegistry σ} (h : Built r) :
    (r.hearActions.map (·.id)).Nodup := by
  have hn := registered_ids_nodup .hear (·.hearActions) h.close.namesApart.all_nodup
  simpa [hearActions, Plugin.registeredHearActions, List.map_flatMap, List.map_map,
    Function.comp_def] using hn

def processor (r : PluginRegistry σ) (outbox : Outbox σ) (identity : Option Identity) :
    Processor σ where
  dialog := { commands := r.commands, hearActions := r.hearActions, identity }
  outbox := outbox

end PluginRegistry

namespace Dialog

/-- No two candidates for a message share an identity. -/
structure IdsApart (d : Dialog σ) : Prop where
  commands : (d.commands.map (·.id)).Nodup
  hearActions : (d.hearActions.map (·.id)).Nodup

lemma IdsApart.candidates {d : Dialog σ} (h : d.IdsApart) (message : IncomingMessage) :
    ((d.candidates message).map (·.id)).Nodup := by
  unfold Dialog.candidates
  split
  · exact h.commands
  · exact h.hearActions

variable [Clocked σ]

lemma gather_actions_sublist (message : IncomingMessage) (actions : List (RegisteredAction σ))
    (h : Host σ) :
    ((gather message actions h).1.map (·.action)).Sublist (actions.map (·.id)) := by
  induction actions generalizing h with
  | nil => exact .slnil
  | cons r rest ih =>
    unfold gather
    simp only [bind_apply]
    have hrest := ih (r.tryAnswer message h).2
    cases (r.tryAnswer message h).1 with
    | none => exact hrest.cons _
    | some answer => exact hrest.cons_cons _

/-- The replies to a message come from different actions. -/
theorem replies_actions_nodup {d : Dialog σ} (hd : d.IdsApart) (message : IncomingMessage)
    (h : Host σ) : ((d.replies message h).1.map (·.action)).Nodup := by
  unfold replies
  simp only [bind_apply]
  split
  · exact List.nodup_singleton _
  · exact (hd.candidates message).sublist (gather_actions_sublist message _ h)

end Dialog

lemma PluginRegistry.Built.idsApart {r : PluginRegistry σ} (h : r.Built) (outbox : Outbox σ)
    (identity : Option Identity) : (r.processor outbox identity).dialog.IdsApart :=
  ⟨PluginRegistry.commands_ids_nodup h, PluginRegistry.hearActions_ids_nodup h⟩

end ChatEngine
