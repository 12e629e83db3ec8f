import ChatEngine.Proofs.ActionIdentities
import ChatEngine.Proofs.PrintedIdentities

/-!
# Sealed registries

What a registry answers, whatever is asked of it and in whatever order. Registration keeps the names
of plugins apart, and a refused plugin leaves the registry as it was. Whatever else is asked seals
the registry: from then on no request changes it, so the actions that it lists stay the same, and no
two of them share an identity, nor are any two of them printed alike.
-/

namespace ChatEngine.PluginRegistry

variable {σ : Type}

/-! ### Requests -/

/-- What is asked of a registry. -/
inductive Request (σ : Type) where
  | register (p : Plugin σ)
  | close
  | commands
  | hearActions
  | schedules
  | help

/-- What a registry answers. -/
inductive Reply (σ : Type) where
  | done
  | refused (error : RegistrationError)
  | actions (actions : List (RegisteredAction σ))
  | schedules (schedules : List (RegisteredSchedule σ))
  | plugin (p : Plugin σ)

/-- Whether a request asks for a registration. -/
def Request.registers : Request σ → Bool
  | .register _ => true
  | _ => false

/-- The plugin that answers with the help of the registered plugins. -/
def helpPlugin (r : PluginRegistry σ) : Plugin σ :=
  Help.plugin r.botName r.version r.location r.plugins

/-- Answers a request. Whatever is asked but a registration seals the registry. -/
def handle (r : PluginRegistry σ) : Request σ → Reply σ × PluginRegistry σ
  | .register p =>
    match r.register p with
    | .ok next => (.done, next)
    | .error e => (.refused e, r)
  | .close => (.done, r.close)
  | .commands => (.actions r.commands, r.close)
  | .hearActions => (.actions r.hearActions, r.close)
  | .schedules => (.schedules r.schedules, r.close)
  | .help => (.plugin (r.help.getD r.helpPlugin), r.close)

/-- The registry after requests. -/
def handleAll : List (Request σ) → PluginRegistry σ → PluginRegistry σ
  | [], r => r
  | request :: rest, r => handleAll rest (r.handle request).2

/-! ### What a request does -/

lemma handle_of_refused {r : PluginRegistry σ} {p : Plugin σ} {e : RegistrationError}
    (h : r.register p = .error e) : r.handle (.register p) = (.refused e, r) := by
  rw [handle, h]

lemma handle_of_accepted {r next : PluginRegistry σ} {p : Plugin σ}
    (h : r.register p = .ok next) : r.handle (.register p) = (.done, next) := by
  rw [handle, h]

lemma handle_closes (r : PluginRegistry σ) {request : Request σ} (h : request.registers = false) :
    (r.handle request).2 = r.close := by
  cases request <;> first | rfl | cases h

lemma register_of_sealed {r : PluginRegistry σ} (h : r.isSealed = true) (p : Plugin σ) :
    r.register p = .error (.sealed p.name) := by
  rw [register, if_pos h]

/-- What requests keep: the registry is built by registering and sealing, and its help is the help
of its plugins. -/
structure Kept (r : PluginRegistry σ) : Prop where
  built : Built r
  helped : ∀ help ∈ r.help, help = r.helpPlugin

lemma Kept.close {r : PluginRegistry σ} (kept : r.Kept) : r.close.Kept := by
  refine ⟨kept.built.close, ?_⟩
  unfold PluginRegistry.close
  split
  · exact kept.helped
  · exact fun help h => (Option.some.inj h).symm

lemma Kept.handle {r : PluginRegistry σ} (kept : r.Kept) (request : Request σ) :
    (r.handle request).2.Kept := by
  cases hrequest : request.registers with
  | false =>
    rw [handle_closes r hrequest]
    exact kept.close
  | true =>
    cases request with
    | register p =>
      cases h : r.register p with
      | error e =>
        rw [handle_of_refused h]
        exact kept
      | ok next =>
        rw [handle_of_accepted h]
        obtain ⟨hopen, -, -, rfl⟩ := register_cases h
        refine ⟨kept.built.register h, fun help hhelp => ?_⟩
        have hsealed : r.isSealed = true := Option.isSome_iff_exists.mpr ⟨help, hhelp⟩
        rw [hopen] at hsealed
        cases hsealed
    | _ => cases hrequest

lemma Kept.handleAll {r : PluginRegistry σ} (kept : r.Kept) (requests : List (Request σ)) :
    (handleAll requests r).Kept := by
  induction requests generalizing r with
  | nil => exact kept
  | cons request rest ih => exact ih (kept.handle request)

/-! ### What holds whatever was asked -/

/-- What a sealed registry of the given plugins answers. Each action stands with its plugin and its
place in the plugin's own list. -/
structure Settled (r : PluginRegistry σ) (plugins : List (Plugin σ)) : Prop where
  refuses : ∀ p, r.handle (.register p) = (.refused (.sealed p.name), r)
  commands : ∃ answer,
    (Help.plugin r.botName r.version r.location plugins).commands = [answer] ∧
    (r.handle .commands).1 = .actions
      ((plugins.flatMap fun p => p.commands.zipIdx.map fun (c, i) =>
          ⟨p, c, ⟨p.name, .command, i⟩⟩) ++
        [⟨Help.plugin r.botName r.version r.location plugins, answer,
          ⟨Help.pluginName, .command, 0⟩⟩])
  hearActions : (r.handle .hearActions).1 = .actions
    (plugins.flatMap fun p => p.hearActions.zipIdx.map fun (a, i) => ⟨p, a, ⟨p.name, .hear, i⟩⟩)
  schedules : (r.handle .schedules).1 = .schedules
    (plugins.flatMap fun p => p.scheduledActions.zipIdx.map fun (a, i) => ⟨p, a, i⟩)
  help : (r.handle .help).1 = .plugin (Help.plugin r.botName r.version r.location plugins)
  ids : ((r.commands ++ r.hearActions).map (·.id)).Nodup
  fallback : ActionId.fallback ∉ (r.commands ++ r.hearActions).map (·.id)
  jobs : (r.schedules.map (·.jobId)).Nodup

lemma kind_of_mem_commands {r : PluginRegistry σ} {id : ActionId}
    (h : id ∈ r.commands.map (·.id)) : id.kind = .command := by
  obtain ⟨action, haction, rfl⟩ := List.mem_map.mp h
  obtain ⟨p, -, hp⟩ := List.mem_flatMap.mp haction
  obtain ⟨e, -, rfl⟩ := List.mem_map.mp hp
  rfl

lemma kind_of_mem_hearActions {r : PluginRegistry σ} {id : ActionId}
    (h : id ∈ r.hearActions.map (·.id)) : id.kind = .hear := by
  obtain ⟨action, haction, rfl⟩ := List.mem_map.mp h
  obtain ⟨p, -, hp⟩ := List.mem_flatMap.mp haction
  obtain ⟨e, -, rfl⟩ := List.mem_map.mp hp
  rfl

/-- No two commands or hear actions share an identity. -/
theorem action_ids_nodup {r : PluginRegistry σ} (built : Built r) :
    ((r.commands ++ r.hearActions).map (·.id)).Nodup := by
  rw [List.map_append, List.nodup_append]
  refine ⟨commands_ids_nodup built, hearActions_ids_nodup built, ?_⟩
  rintro id hcommand _ hhear rfl
  exact nomatch (kind_of_mem_commands hcommand).symm.trans (kind_of_mem_hearActions hhear)

/-- No registered action has the identity of the default reply. -/
lemma fallback_not_mem (r : PluginRegistry σ) :
    ActionId.fallback ∉ (r.commands ++ r.hearActions).map (·.id) := by
  rw [List.map_append, List.mem_append]
  rintro (hcommand | hhear)
  · exact nomatch kind_of_mem_commands hcommand
  · exact nomatch kind_of_mem_hearActions hhear

/-- No two scheduled actions share a job. -/
theorem jobs_nodup {r : PluginRegistry σ} (built : Built r) :
    (r.schedules.map (·.jobId)).Nodup := by
  have hinj : Function.Injective fun place : String × Nat =>
      ActionId.jobText place.1 place.2 := by
    rintro ⟨p, m⟩ ⟨q, n⟩ h
    obtain ⟨rfl, rfl⟩ := ActionId.jobText_inj h
    rfl
  have hmap := (places_nodup (·.scheduledActions) built.close.namesApart.all_nodup).map hinj
  simpa only [schedules, Plugin.registeredSchedules, RegisteredSchedule.jobId, List.map_flatMap,
    List.map_map, Function.comp_def] using hmap

lemma Kept.settled {r : PluginRegistry σ} (kept : r.Kept) (isSealed : r.isSealed = true) :
    r.Settled r.plugins := by
  obtain ⟨help, hhelp⟩ := Option.isSome_iff_exists.mp isSealed
  have hown : r.help = some r.helpPlugin := by rw [hhelp, kept.helped help hhelp]
  have hall : r.close.all = r.plugins ++ [r.helpPlugin] := by
    rw [close_of_sealed isSealed, all, hown, Option.toList_some]
  have hlist {α : Type} (list : Plugin σ → List α) :
      r.close.all.flatMap list = r.plugins.flatMap list ++ list r.helpPlugin := by
    rw [hall, List.flatMap_append, List.flatMap_singleton]
  refine ⟨?_, ?_, ?_, ?_, ?_, action_ids_nodup kept.built, fallback_not_mem r,
    jobs_nodup kept.built⟩
  · exact fun p => handle_of_refused (register_of_sealed isSealed p)
  · exact ⟨_, rfl, congrArg Reply.actions (hlist Plugin.registeredCommands)⟩
  · exact congrArg Reply.actions
      ((hlist Plugin.registeredHearActions).trans (List.append_nil _))
  · exact congrArg Reply.schedules
      ((hlist Plugin.registeredSchedules).trans (List.append_nil _))
  · rw [PluginRegistry.handle, hown]
    rfl

/-- All that a registry lists, and the default reply, as it is printed. -/
def printedIdentities (r : PluginRegistry σ) : List String :=
  (ActionId.fallback :: (r.commands ++ r.hearActions).map (·.id)).map ActionId.text ++
    r.schedules.map (·.jobId)

lemma printedIdentities_nodup {r : PluginRegistry σ} (built : Built r) :
    r.printedIdentities.Nodup := by
  have hactions : (ActionId.fallback :: (r.commands ++ r.hearActions).map (·.id)).Nodup :=
    List.nodup_cons.mpr ⟨fallback_not_mem r, action_ids_nodup built⟩
  refine List.nodup_append.mpr
    ⟨hactions.map ActionId.text_injective, jobs_nodup built, ?_⟩
  intro text htext job hjob
  obtain ⟨id, -, rfl⟩ := List.mem_map.mp htext
  obtain ⟨schedule, -, rfl⟩ := List.mem_map.mp hjob
  exact ActionId.printed_kind_ne_scheduled

/-- What is printed for an action tells its plugin, its kind and its place, whatever the plugin is
called and whatever number stands for the place, and it is never what is printed for a job. So
whatever was asked of a registry, no two of all that it lists are printed alike. -/
theorem printed_identities_are_unambiguous :
    (∀ (p q : String) (k l : ActionKind) (i j : Int),
      ActionId.printed p k.text i = ActionId.printed q l.text j → p = q ∧ k = l ∧ i = j) ∧
    (∀ (p q : String) (k : ActionKind) (i j : Int),
      ActionId.printed p k.text i ≠ ActionId.printed q "scheduled" j) ∧
    Function.Injective ActionId.text ∧
    (∀ (id : ActionId) (plugin : String) (place : Nat), id.text ≠ ActionId.jobText plugin place) ∧
    ∀ (σ : Type) (botName version location : String) (requests : List (Request σ)),
      (handleAll requests { botName, version, location }).printedIdentities.Nodup := by
  refine ⟨?_, ?_, ActionId.text_injective, ?_, ?_⟩
  · exact fun p q k l i j => ActionId.printed_kind_inj
  · exact fun p q k i j => ActionId.printed_kind_ne_scheduled
  · exact fun id plugin place => ActionId.printed_kind_ne_scheduled
  · intro σ botName version location requests
    have kept := Kept.handleAll ⟨.empty botName version location, nofun⟩ requests
    exact printedIdentities_nodup kept.built

-- A name that looks like an identity itself.
example : (⟨"karma.command[0]", .hear, 12⟩ : ActionId).text = "karma.command[0].hearAction[12]" :=
  rfl

end ChatEngine.PluginRegistry
