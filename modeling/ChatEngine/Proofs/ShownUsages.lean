import ChatEngine.Proofs.ComposedReplies
import ChatEngine.Proofs.EditRevision
import ChatEngine.Proofs.MentionGrammar

/-!
# Usages as shown

What help shows of a command works as typed after a mention of the bot. Help puts the name of its
plugin in front of the usage of a namespaced command; the mention, the name and the blanks after
both are taken off again before the command is evaluated, which so sees its usage and nothing else.
Names and usages are free: all that counts is that there are no blanks around them (`Text.Neat`).
-/

namespace ChatEngine
open Text

variable {σ : Type}

/-! ### Neat texts -/

namespace Text

/-- Whether a text is not empty and has no blanks around it. -/
structure Neat (s : String) : Prop where
  nonempty : s ≠ ""
  trimmed : Trimmed s.toList

/-- The ends of a text decide whether it is neat. -/
lemma Neat.append {first last : String} (hfirst : Neat first) (hlast : Neat last)
    (between : String) : Neat (first ++ between ++ last) := by
  have hstart : first.toList ≠ [] := fun h => hfirst.nonempty (String.toList_eq_nil_iff.mp h)
  have hend : last.toList ≠ [] := fun h => hlast.nonempty (String.toList_eq_nil_iff.mp h)
  refine ⟨fun h => ?_, fun c hc => ?_, fun c hc => ?_⟩
  · have hnil := congrArg String.toList h
    rw [String.toList_append, String.toList_empty, List.append_eq_nil_iff] at hnil
    exact hend hnil.2
  · rw [String.toList_append, String.toList_append, List.append_assoc,
      List.head?_append_of_ne_nil _ hstart] at hc
    exact hfirst.trimmed.first c hc
  · rw [String.toList_append, List.getLast?_append_of_ne_nil _ hend] at hc
    exact hlast.trimmed.last c hc

lemma Neat.trim_eq {s : String} (h : Neat s) : trim s = s := by
  rw [trim, h.trimmed.trimChars_eq, String.ofList_toList]

lemma neat_of_trimChars {s : String} (nonempty : s ≠ "") (h : trimChars s.toList = s.toList) :
    Neat s :=
  ⟨nonempty, h ▸ trimmed_trimChars s.toList⟩

end Text

lemma Identity.neat_mention (i : Identity) : Neat i.mention := by
  have hopen : Neat "<@" := neat_of_trimChars (by decide) (by decide)
  have hclose : Neat ">" := neat_of_trimChars (by decide) (by decide)
  exact hopen.append hclose i.idText

lemma Plugin.neat_shownUsage {p : Plugin σ} (named : Neat p.name) {usage : String}
    (used : Neat usage) : Neat (p.shownUsage usage) := by
  unfold shownUsage
  split
  · exact named.append used " "
  · exact used

/-! ### What is taken off again -/

/-- A mention and a blank in front of a neat text are stripped, whatever the text looks like. -/
lemma stripMention_typed (i : Identity) {said : String} (neat : Neat said) :
    stripMention (i.mention ++ " " ++ said) (some i) = (true, said) := by
  have hblank : Blank [' '] := fun c hc => by
    rw [List.mem_singleton.mp hc]
    decide
  have htyped : (i.mention ++ " " ++ said).toList = i.mention.toList ++ ([' '] ++ said.toList) := by
    rw [String.toList_append, String.toList_append, List.append_assoc]
    rfl
  have hsaid : i.said? (trimChars (i.mention ++ " " ++ said).toList) =
      some ([' '] ++ said.toList) := by
    rw [(i.neat_mention.append neat " ").trimmed.trimChars_eq, Identity.said?,
      dropLead?_eq_some_iff.mpr htyped]
    rfl
  have hrest := trimChars_eq hblank neat.trimmed blank_nil
  rw [List.append_nil] at hrest
  rw [stripMention_eq, hsaid]
  dsimp only
  rw [hrest, String.ofList_toList]

section
variable {d : Dialog σ} {i : Identity} {said : String}

lemma Dialog.incoming_typed (known : d.identity = some i) {event : MessageEvent}
    (kept : event.kind ≠ .delete)
    (text : event.resolvedText = some (i.mention ++ " " ++ said)) (neat : Neat said) :
    ∃ message, d.incoming event = .ok (some message) ∧
      message.rawText = i.mention ++ " " ++ said ∧ message.normalizedText = said := by
  have hstripped := stripMention_typed i neat
  rw [← known] at hstripped
  unfold incoming
  rw [if_neg kept, text]
  exact ⟨_, rfl, rfl, congrArg Prod.snd hstripped⟩

lemma Dialog.isCommand_typed (known : d.identity = some i) {message : IncomingMessage}
    (raw : message.rawText = i.mention ++ " " ++ said) (neat : Neat said) :
    d.isCommand message = true := by
  have hmentioned : (stripMention message.rawText d.identity).1 = true := by
    rw [raw, known, stripMention_typed i neat]
  exact Bool.or_eq_true_iff.mpr (.inr hmentioned)

end

namespace RegisteredAction

/-- A command sees its usage where the usage as shown was typed, with or without the name of the
plugin in front. -/
lemma prepare_typed {r : RegisteredAction σ} {usage : String} (command : r.id.kind = .command)
    (used : Neat usage) {message : IncomingMessage}
    (typed : message.normalizedText = r.plugin.shownUsage usage) :
    r.prepare message = some { message with normalizedText := usage } := by
  unfold prepare
  cases hnamespaced : r.plugin.namespaced with
  | false =>
    have husage : message.normalizedText = usage := by
      rw [typed, Plugin.shownUsage, hnamespaced]
      rfl
    rw [← husage, Bool.and_false, if_neg Bool.false_ne_true]
  | true =>
    have hempty : usage.isEmpty = false := by
      rw [Bool.eq_false_iff, ne_eq, String.isEmpty_iff]
      exact used.nonempty
    have hparts : message.normalizedText.toList =
        (r.plugin.name ++ " ").toList ++ usage.toList := by
      rw [typed, Plugin.shownUsage, hnamespaced, hempty, Bool.not_false, Bool.and_true,
        if_pos rfl, String.toList_append]
    have hrest : dropStart? (r.plugin.name ++ " ") message.normalizedText = some usage := by
      rw [dropStart?, dropLead?_eq_some_iff.mpr hparts, Option.map_some, String.ofList_toList]
    rw [command, hrest, Bool.and_true, if_pos (decide_eq_true rfl), Option.map_some, used.trim_eq]

/-- A namespaced command does not see what is not addressed to its plugin. -/
lemma prepare_apart {r : RegisteredAction σ} (command : r.id.kind = .command)
    (namespaced : r.plugin.namespaced = true) {message : IncomingMessage}
    (apart : ¬∃ rest, message.normalizedText = r.plugin.name ++ " " ++ rest) :
    r.prepare message = none := by
  have hnone : dropStart? (r.plugin.name ++ " ") message.normalizedText = none := by
    rw [dropStart?, Option.map_eq_none_iff]
    refine Option.eq_none_iff_forall_ne_some.mpr fun rest hrest => apart ⟨String.ofList rest, ?_⟩
    apply String.toList_inj.mp
    rw [String.toList_append, String.toList_ofList]
    exact dropLead?_eq_some_iff.mp hrest
  rw [prepare, command, namespaced, hnone]
  rfl

end RegisteredAction

/-! ### What is evaluated -/

lemma Dialog.exists_evaluation [Clocked σ] {message view : IncomingMessage}
    {actions : List (RegisteredAction σ)} {r : RegisteredAction σ} (registered : r ∈ actions)
    (seen : r.prepare message = some view) (h : Host σ) :
    ∃ e ∈ (evaluateAll message actions h).1, e.Genuine message ∧ e.action = r ∧ e.view = view := by
  have hmem : r ∈ (evaluateAll message actions h).1.map (·.action) := by
    rw [evaluateAll_actions]
    exact List.mem_filter.mpr ⟨registered, by rw [seen]; rfl⟩
  obtain ⟨e, he, rfl⟩ := List.mem_map.mp hmem
  have hgenuine := evaluateAll_genuine message actions h e he
  exact ⟨e, he, hgenuine, rfl, Option.some.inj (hgenuine.1.symm.trans seen)⟩

/-- Processing a message that is to be replied to asks for the replies. -/
lemma Processor.Handled.exists_answered [Clocked σ] {p : Processor σ} {event : MessageEvent}
    {t next : ResponseTracker} {u : Transcript} (step : p.Handled event t u next)
    {message : IncomingMessage} (task_eq : p.task event = .answer message) :
    ∃ host, .answered message (p.dialog.replies message host).1 ∈ u := by
  cases step with
  | skipped other => rw [task_eq] at other; cases other
  | unrecorded other => rw [task_eq] at other; cases other
  | withdrawn _ other => rw [task_eq] at other; cases other
  | answered asked _ same =>
    rw [task_eq] at same
    cases same
    exact ⟨asked, .head _⟩

lemma Plugin.mem_registeredCommands {p : Plugin σ} {r : RegisteredAction σ} :
    r ∈ p.registeredCommands ↔
      ∃ k c, p.commands[k]? = some c ∧ r = ⟨p, c, ⟨p.name, .command, k⟩⟩ := by
  unfold registeredCommands
  constructor
  · intro h
    obtain ⟨⟨c, k⟩, hmem, rfl⟩ := List.mem_map.mp h
    exact ⟨k, c, List.mem_zipIdx_iff_getElem?.mp hmem, rfl⟩
  · rintro ⟨k, c, hc, rfl⟩
    exact List.mem_map.mpr ⟨(c, k), List.mem_zipIdx_iff_getElem?.mpr hc, rfl⟩

namespace Help

lemma mem_group {title line : String} {lines : List String} (h : line ∈ lines) :
    line ∈ group title lines := by
  unfold group
  split
  · next hempty =>
    rw [List.isEmpty_iff.mp hempty] at h
    exact absurd h List.not_mem_nil
  · exact List.mem_cons_of_mem _ (List.mem_cons_of_mem _ h)

/-- Help has a line for every visible command, with its usage as shown. -/
lemma shown_mem_lines {plugins : List (Plugin σ)} {p : Plugin σ} (registered : p ∈ plugins)
    (named : Neat p.name) {c : Action σ} (hc : c ∈ p.commands) (visible : c.hidden = false)
    (used : Neat c.usage) (botName version location : String) :
    "\t• `" ++ p.shownUsage c.usage ++ "` - " ++ c.description ∈
      lines botName version location plugins := by
  have hbullet : bullet (p.shownUsage c.usage) c.description =
      "\t• `" ++ p.shownUsage c.usage ++ "` - " ++ c.description := by
    rw [bullet, if_neg]
    rw [String.isEmpty_iff]
    exact (Plugin.neat_shownUsage named used).nonempty
  have hvisible : c ∈ p.commands.filter (!·.hidden) :=
    List.mem_filter.mpr ⟨hc, by rw [visible]; rfl⟩
  have hline : bullet (p.shownUsage c.usage) c.description ∈ plugins.flatMap commandLines :=
    List.mem_flatMap.mpr ⟨p, registered, List.mem_map.mpr ⟨c, hvisible, rfl⟩⟩
  rw [← hbullet, lines]
  exact List.mem_append_left _ (List.mem_append_left _ (List.mem_cons_of_mem _ (mem_group hline)))

end Help

/-- What help shows of a command works as typed: after a mention of the bot it makes a command, on
which this command is evaluated and sees its usage. On messages that do not start with the name of a
plugin with namespaced commands none of these is evaluated. -/
theorem shown_usages_work_as_typed [Clocked σ] (r : PluginRegistry σ) {p : Plugin σ}
    (registered : p ∈ r.close.all) (named : Neat p.name) (identity : Identity) :
    let d := r.dialog (some identity)
    (∀ message, d.replies message =
      (fun evaluations => d.completed message (evaluations.filterMap (·.reply? message))) <$>
        Dialog.evaluateAll message (d.candidates message)) ∧
    (∀ k c, p.commands[k]? = some c → c.hidden = false → Neat c.usage →
      (p ∈ r.plugins → "\t• `" ++ p.shownUsage c.usage ++ "` - " ++ c.description ∈
        Help.lines r.botName r.version r.location r.plugins) ∧
      ∀ event : MessageEvent, event.kind = .new ∨ event.kind = .edit →
        event.resolvedText = some (identity.mention ++ " " ++ p.shownUsage c.usage) →
        ∃ message, d.incoming event = .ok (some message) ∧ d.isCommand message = true ∧
          (∀ host, ∃ e ∈ (Dialog.evaluateAll message (d.candidates message) host).1,
            e.Genuine message ∧ e.action = ⟨p, c, ⟨p.name, .command, k⟩⟩ ∧
              e.view = { message with normalizedText := c.usage }) ∧
          ∀ (outbox : Outbox σ) s, event.validate = .ok () → d.isOwn event message = false →
            ∃ host, .answered message (d.replies message host).1 ∈
              (r.processor outbox (some identity)).transcript event s) ∧
    (p.namespaced = true → ∀ message : IncomingMessage,
      (¬∃ rest, message.normalizedText = p.name ++ " " ++ rest) →
      ∀ host, ∀ e ∈ (Dialog.evaluateAll message (d.candidates message) host).1,
        e.action ∉ p.registeredCommands) := by
  intro d
  refine ⟨fun message => ?_, fun k c hc visible used => ⟨fun listed => ?_, ?_⟩, ?_⟩
  · rw [Dialog.replies_eq_completed, Dialog.gather_eq]
    rfl
  · exact Help.shown_mem_lines listed named (List.mem_of_getElem? hc) visible used _ _ _
  · intro event hkind htext
    have hdelete := ((MessageKind.shown_iff _).mp hkind).2
    obtain ⟨message, hview, hraw, hnormalized⟩ :=
      Dialog.incoming_typed (d := d) rfl hdelete htext (Plugin.neat_shownUsage named used)
    have hcommand := Dialog.isCommand_typed (d := d) rfl hraw (Plugin.neat_shownUsage named used)
    have hregistered : (⟨p, c, ⟨p.name, .command, k⟩⟩ : RegisteredAction σ) ∈ d.commands :=
      List.mem_flatMap.mpr ⟨p, registered, Plugin.mem_registeredCommands.mpr ⟨k, c, hc, rfl⟩⟩
    refine ⟨message, hview, hcommand, fun host => ?_, fun outbox s valid foreign => ?_⟩
    · rw [Dialog.candidates, if_pos hcommand]
      exact Dialog.exists_evaluation hregistered
        (RegisteredAction.prepare_typed rfl used hnormalized) host
    · let processor := r.processor outbox (some identity)
      exact (processor.observe_handled event s).exists_answered
        (Processor.task_of_incoming hkind valid hview foreign)
  · intro namespaced message apart host e he hmem
    obtain ⟨hseen, -⟩ := Dialog.evaluateAll_genuine message _ host e he
    obtain ⟨k, c, -, haction⟩ := Plugin.mem_registeredCommands.mp hmem
    have hnone : e.action.prepare message = none := by
      rw [haction]
      exact RegisteredAction.prepare_apart rfl namespaced apart
    rw [hnone] at hseen
    cases hseen

namespace Echo
open Simulation

/-- A command whose usage looks like a mention. -/
def cry : Action Workspace := { usage := "<@B>: cry out", description := "Cry" }

/-- A plugin with a colon in its name, whose commands are namespaced. -/
def crier : Plugin Workspace where
  name := "town: crier"
  commands := [{ hidden := true }, cry]
  namespaced := true

def town : PluginRegistry Workspace := { botName := "bot", version := "1", plugins := [crier] }

end Echo

/-- The mention of the bot and the name of the plugin are stripped once: what looks like another
mention is left to the command. -/
theorem crier_sees_its_usage :
    Echo.crier ∈ Echo.town.close.all ∧ Neat Echo.crier.name ∧ Neat Echo.cry.usage ∧
      let d := Echo.town.dialog (some { userId := some "B" })
      ∃ message,
        d.incoming (Echo.said "1" "<@B> town: crier <@B>: cry out") = .ok (some message) ∧
        ∀ host, ∃ e ∈ (Dialog.evaluateAll message (d.candidates message) host).1,
          e.action.id = ⟨"town: crier", .command, 1⟩ ∧ e.view.normalizedText = "<@B>: cry out" := by
  have registered : Echo.crier ∈ Echo.town.close.all := .head _
  have named : Neat Echo.crier.name := neat_of_trimChars (by decide) (by decide)
  have used : Neat Echo.cry.usage := neat_of_trimChars (by decide) (by decide)
  obtain ⟨-, htyped, -⟩ :=
    shown_usages_work_as_typed Echo.town registered named { userId := some "B" }
  obtain ⟨message, hview, -, hevaluated, -⟩ := (htyped 1 Echo.cry rfl rfl used).2
    (Echo.said "1" "<@B> town: crier <@B>: cry out") (.inl (by decide)) (by decide)
  refine ⟨registered, named, used, message, hview, fun host => ?_⟩
  obtain ⟨e, he, -, haction, heq⟩ := hevaluated host
  exact ⟨e, he, by rw [haction]; rfl, by rw [heq]; rfl⟩

end ChatEngine
