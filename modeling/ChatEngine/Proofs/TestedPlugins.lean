import ChatEngine.Proofs.ActionIdentities
import ChatEngine.Proofs.BlindActions
import ChatEngine.Testing.Tester

/-!
# Tested plugins

The tester and the bot dispatch a message on separate paths. Given services that a plugin cannot
tell apart, and starting from hosts that it cannot tell apart, both get the same answers from it
(`tester_answers_as_bot`).

What a plugin can tell apart is up to a relation between the hosts of the tester and those of the
bot. It holds whatever the plugin keeps, and leaves out where services note what they did.
-/

namespace ChatEngine

/-! ### Agreement -/

section
variable {σ τ α β : Type} {R : σ → τ → Prop}

/-- From related states, two computations give the same result and end in related states. -/
def Agree (R : σ → τ → Prop) (act : StateM σ α) (act' : StateM τ α) : Prop :=
  ∀ s s', R s s' → (act s).1 = (act' s').1 ∧ R (act s).2 (act' s').2

lemma Agree.pure (a : α) : Agree R (pure a) (pure a) := fun _ _ h => ⟨rfl, h⟩

lemma Agree.attempt_bind {act : Effect σ α} {act' : Effect τ α} {next : α → Effect σ β}
    {next' : α → Effect τ β} (hact : Agree R act.attempt act'.attempt)
    (hnext : ∀ a, Agree R (next a).attempt (next' a).attempt) :
    Agree R (act >>= next).attempt (act' >>= next').attempt := by
  intro s s' h
  obtain ⟨hresult, hstate⟩ := hact s s' h
  rw [Effect.attempt_bind, Effect.attempt_bind, ← hresult]
  cases (act.attempt s).1 with
  | error fault => exact ⟨rfl, hstate⟩
  | ok a => exact hnext a _ _ hstate

end

variable {σ : Type} {R : Host σ → Host σ → Prop}

/-- Loggers that a plugin cannot tell apart, whatever context it gives them. -/
structure PluginLogger.Alike (R : Host σ → Host σ → Prop) (l l' : PluginLogger) : Prop where
  printf : ∀ context fmt args,
    Agree R ((l.bind context).printf fmt args).attempt ((l'.bind context).printf fmt args).attempt
  debugf : ∀ context fmt args,
    Agree R ((l.bind context).debugf fmt args).attempt ((l'.bind context).debugf fmt args).attempt

/-- Services that a plugin cannot tell apart. -/
structure Services.Alike (R : Host σ → Host σ → Prop) (s s' : Services (Host σ)) : Prop where
  userFinder : Option.Rel
    (fun find find' => ∀ userId, Agree R (find userId).attempt (find' userId).attempt)
    s.userFinder s'.userFinder
  logger : Option.Rel (PluginLogger.Alike R) s.logger s'.logger
  reactor : Option.Rel
    (fun add add' => ∀ name item, Agree R (add name item).attempt (add' name item).attempt)
    s.reactor s'.reactor
  uploader : Option.Rel
    (fun send send' => ∀ params, Agree R (send params).attempt (send' params).attempt)
    s.uploader s'.uploader
  sender : Option.Rel
    (fun send send' => ∀ text channel,
      Agree R (send text channel).attempt (send' text channel).attempt)
    s.sender s'.sender

lemma Services.Alike.react {s s' : Services (Host σ)} (alike : s.Alike R s') (name : String)
    (item : MessageId) : Agree R (s.react name item).attempt (s'.react name item).attempt := by
  have hreactor := alike.reactor
  unfold Services.react
  generalize s.reactor = reactor at hreactor ⊢
  generalize s'.reactor = reactor' at hreactor ⊢
  cases hreactor with
  | none => exact .pure _
  | some hadd => exact hadd name item

/-- An action that reaches its surroundings through its services alone: given services that it
cannot tell apart, it does the same. -/
def Action.Confined (R : Host σ → Host σ → Prop) (a : Action σ) : Prop :=
  ∀ s s' : Services (Host σ), s.Alike R s' → ∀ m,
    Agree R (a.answer s m).attempt (a.answer s' m).attempt

namespace RegisteredAction

/-- The action with other services. -/
def given (services : Services (Host σ)) (r : RegisteredAction σ) : RegisteredAction σ :=
  { r with plugin := { r.plugin with services } }

lemma evaluate_agrees {r : RegisteredAction σ} {services : Services (Host σ)}
    (confined : r.action.Confined R) (alike : r.plugin.services.Alike R services)
    (view : IncomingMessage) :
    Agree R (r.evaluate view).attempt ((r.given services).evaluate view).attempt := by
  unfold evaluate given
  cases r.action.isMatch view with
  | error fault => exact .pure _
  | ok matched =>
    cases matched with
    | false => exact .pure _
    | true => exact confined _ _ alike view

section
variable [Clocked σ]

lemma tryAnswer_of_prepare_none {r : RegisteredAction σ} {message : IncomingMessage}
    (h : r.prepare message = none) (host : Host σ) : r.tryAnswer message host = (none, host) := by
  unfold tryAnswer
  rw [h]
  rfl

/-- Besides what the action does, trying it is seen in the metrics and the log alone. -/
lemma tryAnswer_snd {r : RegisteredAction σ} {message view : IncomingMessage}
    (h : r.prepare message = some view) (host : Host σ) :
    ((r.evaluate view).attempt host).2.Alike (r.tryAnswer message host).2 := by
  unfold tryAnswer
  rw [h]
  have hattempt : ∃ result next, (r.evaluate view).attempt host = (result, next) := ⟨_, _, rfl⟩
  obtain ⟨result, next, hresult⟩ := hattempt
  simp only [bind_apply, get_apply, Host.timed, hresult]
  rcases result with fault | (_ | answer)
  · exact ⟨rfl, rfl⟩
  · exact ⟨rfl, rfl⟩
  · simp only [pure_apply]
    split <;> exact ⟨rfl, rfl⟩

end

end RegisteredAction

namespace Testing
open RegisteredAction

lemma answerOf_of_prepare_none {r : RegisteredAction σ} {m : IncomingMessage}
    (h : r.prepare m = none) : answerOf m r = pure none := by
  unfold answerOf
  rw [h]

lemma answerOf_of_prepare {r : RegisteredAction σ} {m view : IncomingMessage}
    (h : r.prepare m = some view) : answerOf m r = r.evaluate view := by
  unfold answerOf evaluate
  rw [h]
  dsimp only
  cases r.action.isMatch view with
  | error fault => rfl
  | ok matched => cases matched <;> rfl

/-- Whether neither matching a message nor answering it fails. -/
def Unfailing (m : IncomingMessage) (r : RegisteredAction σ) (h : Host σ) : Prop :=
  ∀ view ∈ r.prepare m, ∃ matched, r.action.isMatch view = .ok matched ∧
    (matched = true →
      ∃ answer, ((r.action.answer r.plugin.services view).attempt h).1 = .ok answer)

/-- Whether no action fails when they are tried in order. -/
def AllUnfailing (m : IncomingMessage) : List (RegisteredAction σ) → Host σ → Prop
  | [], _ => True
  | r :: rest, h => Unfailing m r h ∧ AllUnfailing m rest ((answerOf m r).attempt h).2

lemma Unfailing.evaluate {m view : IncomingMessage} {r : RegisteredAction σ} {h : Host σ}
    (unfailing : Unfailing m r h) (hview : r.prepare m = some view) :
    ∃ answer, ((r.evaluate view).attempt h).1 = .ok answer := by
  obtain ⟨matched, hmatched, hanswer⟩ := unfailing view hview
  unfold RegisteredAction.evaluate
  rw [hmatched]
  cases matched with
  | false => exact ⟨none, rfl⟩
  | true => exact hanswer rfl

section
variable [Clocked σ]

/-- The tester and the bot get the same answer from an action, but for an empty one. -/
lemma answerOf_agrees (blind : ∀ h k k', R h k → k.Alike k' → R h k') {r : RegisteredAction σ}
    {services : Services (Host σ)} (confined : r.action.Confined R)
    (alike : r.plugin.services.Alike R services) {m : IncomingMessage} {h k : Host σ}
    (related : R h k) (unfailing : Unfailing m r h) :
    ∃ answer, ((answerOf m r).attempt h).1 = .ok answer ∧
      ((r.given services).tryAnswer m k).1 = answer.filter (!·.isEmpty) ∧
      R ((answerOf m r).attempt h).2 ((r.given services).tryAnswer m k).2 := by
  have hprepare : (r.given services).prepare m = r.prepare m := rfl
  cases hview : r.prepare m with
  | none =>
    rw [answerOf_of_prepare_none hview, tryAnswer_of_prepare_none (hprepare.trans hview)]
    exact ⟨none, rfl, rfl, related⟩
  | some view =>
    obtain ⟨answer, hanswer⟩ := unfailing.evaluate hview
    obtain ⟨hresult, hstate⟩ := evaluate_agrees confined alike view h k related
    rw [answerOf_of_prepare hview]
    refine ⟨answer, hanswer, ?_, blind _ _ _ hstate (tryAnswer_snd (hprepare.trans hview) k)⟩
    rw [tryAnswer_fst, hprepare, hview, Option.bind_some, ← hresult, hanswer]
    cases answer with
    | none => rfl
    | some answer => cases hempty : answer.isEmpty <;> simp [accepted, hempty, Option.filter]

/-- The tester and the bot get the same answers from actions, but for empty ones. -/
lemma answersOf_agree (blind : ∀ h k k', R h k → k.Alike k' → R h k')
    {actions : List (RegisteredAction σ)} {services : Services (Host σ)}
    (confined : ∀ r ∈ actions, r.action.Confined R)
    (alike : ∀ r ∈ actions, r.plugin.services.Alike R services) {m : IncomingMessage}
    {h k : Host σ} (related : R h k) (unfailing : AllUnfailing m actions h) :
    ∃ answers, ((answersOf m actions).attempt h).1 = .ok answers ∧
      (Dialog.gather m (actions.map (·.given services)) k).1.map (·.answer) =
        answers.filter (!·.isEmpty) := by
  induction actions generalizing h k with
  | nil => exact ⟨[], rfl, rfl⟩
  | cons r rest ih =>
    obtain ⟨answer, hanswer, htried, hstate⟩ := answerOf_agrees blind
      (confined r List.mem_cons_self) (alike r List.mem_cons_self) related unfailing.1
    obtain ⟨answers, hanswers, hgathered⟩ := ih
      (fun q hq => confined q (List.mem_cons_of_mem _ hq))
      (fun q hq => alike q (List.mem_cons_of_mem _ hq)) hstate unfailing.2
    refine ⟨answer.toList ++ answers, ?_, ?_⟩
    · rw [answersOf, Effect.attempt_bind_ok hanswer, Effect.attempt_bind_ok hanswers]
      rfl
    · rw [List.map_cons, Dialog.gather, bind_apply, htried, bind_apply]
      rw [List.filter_append, ← hgathered]
      cases answer with
      | none => rfl
      | some answer =>
        cases hempty : answer.isEmpty <;>
          simp [hempty, Option.filter, pure_apply, PendingReply.ofAnswer]

end

/-! ### The candidates of the tester and of the bot -/

/-- The event that announces the message which the tester shows to a plugin. -/
def event (text channel user : String) : MessageEvent :=
  { channel := some channel, timestamp := some "100.0", userId := some user, text := some text }

lemma event_incoming (d : Dialog σ) {identity : Identity} (hd : d.identity = some identity)
    (text channel user : String) :
    d.incoming (event text channel user) = .ok (some (incoming identity text channel user)) := by
  unfold Dialog.incoming
  rw [hd]
  rfl

lemma candidates_eq (identity : Identity) (p : Plugin σ) (m : IncomingMessage) :
    candidates identity p m =
      if (stripMention m.rawText (some identity)).1 || m.isDirect then p.registeredCommands
      else p.registeredHearActions := by
  unfold candidates Plugin.registeredCommands Plugin.registeredHearActions
  cases (stripMention m.rawText (some identity)).1 || m.isDirect with
  | true => exact List.mapIdx_eq_zipIdx_map
  | false => exact List.mapIdx_eq_zipIdx_map

/-- What tells the candidates of a plugin from the help and from the default reply. -/
lemma mem_candidates {identity : Identity} {p : Plugin σ} {m : IncomingMessage}
    {r : RegisteredAction σ} (hr : r ∈ candidates identity p m) :
    r.plugin = p ∧ r.action ∈ p.commands ++ p.hearActions ∧ r.id.plugin = p.name ∧
      r.id ≠ .fallback := by
  rw [candidates_eq] at hr
  exact Plugin.mem_registered hr

lemma candidates_given (identity : Identity) (p : Plugin σ) (services : Services (Host σ))
    (m : IncomingMessage) :
    candidates identity { p with services } m =
      (candidates identity p m).map (·.given services) := by
  rw [candidates_eq, candidates_eq]
  unfold Plugin.registeredCommands Plugin.registeredHearActions
  split
  · rw [List.map_map]
    rfl
  · rw [List.map_map]
    rfl

/-- Whether an action belongs to a registered plugin: neither the default reply nor the built-in
help is given by one. -/
def isPlugins (id : ActionId) : Bool :=
  decide (id ≠ .fallback) && decide (id.plugin ≠ Help.pluginName)

lemma register_alone {p : Plugin σ} (named : p.name ≠ Help.pluginName)
    (botName version location : String) :
    PluginRegistry.register { botName, version, location } p =
      .ok { botName, version, location, plugins := [p] } :=
  if_neg named

/-- A sealed registry of one plugin has its actions as the candidates for a message, and then at
most the help. -/
lemma candidates_alone (botName version location : String) (p : Plugin σ) (identity : Identity)
    (m : IncomingMessage) :
    let registry : PluginRegistry σ := { botName, version, location, plugins := [p] }
    let d : Dialog σ := ⟨registry.close.commands, registry.close.hearActions, some identity⟩
    d.candidates m = candidates identity p m ++
      if d.isCommand m then (Help.plugin botName version location [p]).registeredCommands
      else [] := by
  intro registry d
  have hcommand : d.isCommand m = ((stripMention m.rawText (some identity)).1 || m.isDirect) :=
    Bool.or_comm _ _
  rw [candidates_eq, Dialog.candidates, hcommand]
  split
  · rfl
  · rfl

/-- The host on which the tester starts: nothing is captured yet. -/
def cleared [Capturing σ] (h : Host σ) : Host σ :=
  { h with world := Capturing.setCaptured {} h.world }

lemma answersAndReacts_answers [Capturing σ] {identity : Identity} {p : Plugin σ}
    {text channel user : String} {h : Host σ} {answers : List Answer}
    (hanswers : ((answersOf (incoming identity text channel user)
      (candidates identity (inject p) (incoming identity text channel user))).attempt
        (cleared h)).1 = .ok answers) :
    ∃ produced, ((answersAndReacts identity p text channel user).attempt h).1 = .ok produced ∧
      produced.answers = answers := by
  have hcleared : (capture fun _ => {}).attempt h = (.ok (), cleared h) := rfl
  unfold answersAndReacts
  dsimp only
  rw [Effect.attempt_bind, hcleared]
  dsimp only
  rw [Effect.attempt_bind_ok hanswers]
  exact ⟨_, rfl, rfl⟩

section
variable [Clocked σ]

lemma gather_append (m : IncomingMessage) (first last : List (RegisteredAction σ)) (k : Host σ) :
    (Dialog.gather m (first ++ last) k).1 =
      (Dialog.gather m first k).1 ++ (Dialog.gather m last (Dialog.gather m first k).2).1 := by
  induction first generalizing k with
  | nil => rfl
  | cons r rest ih =>
    simp only [List.cons_append, Dialog.gather, bind_apply]
    cases (r.tryAnswer m k).1 with
    | none => exact ih _
    | some answer => exact congrArg (PendingReply.ofAnswer r.id answer m :: ·) (ih _)

lemma mem_gather {m : IncomingMessage} {actions : List (RegisteredAction σ)} {k : Host σ}
    {reply : PendingReply} (h : reply ∈ (Dialog.gather m actions k).1) :
    ∃ r ∈ actions, r.id = reply.action :=
  List.mem_map.mp
    ((Dialog.gather_actions_sublist m actions k).subset (List.mem_map_of_mem h))

/-- The replies of registered plugins are those of the candidates before the help. -/
lemma replies_of_plugins {d : Dialog σ} {m : IncomingMessage} {own help : List (RegisteredAction σ)}
    (hcandidates : d.candidates m = own ++ help) (hown : ∀ r ∈ own, isPlugins r.id = true)
    (hhelp : ∀ r ∈ help, isPlugins r.id = false) (k : Host σ) :
    (d.replies m k).1.filter (isPlugins ·.action) = (Dialog.gather m own k).1 := by
  have hgathered := gather_append m own help k
  rw [← hcandidates] at hgathered
  unfold Dialog.replies
  rw [bind_apply]
  split
  · next hdefault =>
    have hnone : (Dialog.gather m (d.candidates m) k).1 = [] :=
      List.isEmpty_iff.mp (Bool.and_eq_true_iff.mp hdefault).2
    rw [hgathered, List.append_eq_nil_iff] at hnone
    rw [hnone.1]
    rfl
  · rw [pure_apply, hgathered, List.filter_append, List.filter_eq_self.mpr,
      List.filter_eq_nil_iff.mpr, List.append_nil]
    · intro reply hreply
      obtain ⟨r, hr, hid⟩ := mem_gather hreply
      rw [← hid, hhelp r hr]
      exact Bool.false_ne_true
    · intro reply hreply
      obtain ⟨r, hr, hid⟩ := mem_gather hreply
      rw [← hid, hown r hr]

/-- Unless an action fails, the tester gets the answers that a bot gives whose only plugin is the
tested one: the bot leaves out the empty ones, and adds at most the help and the default reply. -/
theorem tester_answers_as_bot [Capturing σ] (blind : ∀ h k k', R h k → k.Alike k' → R h k')
    (p : Plugin σ) (named : p.name ≠ Help.pluginName) (services : Services (Host σ))
    (alike : (Testing.services p).Alike R services)
    (confined : ∀ action ∈ p.commands ++ p.hearActions, action.Confined R)
    (identity : Identity) (text channel user : String) (tester bot : Host σ)
    (start : R (cleared tester) bot)
    (unfailing : AllUnfailing (incoming identity text channel user)
      (candidates identity (inject p) (incoming identity text channel user)) (cleared tester))
    (botName version location : String) :
    ∃ registry, PluginRegistry.register { botName, version, location } { p with services } =
      .ok registry ∧
    let d : Dialog σ := ⟨registry.close.commands, registry.close.hearActions, some identity⟩
    ∃ m, d.incoming (event text channel user) = .ok (some m) ∧
    ∃ produced,
      ((answersAndReacts identity p text channel user).attempt tester).1 = .ok produced ∧
      produced.answers.filter (!·.isEmpty) =
        ((d.replies m bot).1.filter (isPlugins ·.action)).map (·.answer) := by
  refine ⟨_, register_alone (p := { p with services }) named botName version location, ?_⟩
  intro d
  refine ⟨_, event_incoming d rfl text channel user, ?_⟩
  let m := incoming identity text channel user
  let actions := candidates identity (inject p) m
  have hactions : ∀ r ∈ actions, r.action.Confined R ∧ r.plugin.services.Alike R services := by
    intro r hr
    obtain ⟨hplugin, haction, -⟩ := mem_candidates hr
    exact ⟨confined _ haction, hplugin ▸ alike⟩
  obtain ⟨answers, hanswers, hgathered⟩ := answersOf_agree blind (fun r hr => (hactions r hr).1)
    (fun r hr => (hactions r hr).2) start unfailing
  have hcandidates := candidates_alone botName version location { p with services } identity m
  have hgiven : candidates identity { p with services } m = actions.map (·.given services) :=
    candidates_given identity (inject p) services m
  rw [hgiven] at hcandidates
  obtain ⟨produced, hproduced, rfl⟩ := answersAndReacts_answers hanswers
  refine ⟨produced, hproduced, ?_⟩
  rw [← hgathered, replies_of_plugins hcandidates]
  · intro r hr
    obtain ⟨q, hq, rfl⟩ := List.mem_map.mp hr
    obtain ⟨-, -, hname, hid⟩ := mem_candidates hq
    exact Bool.and_eq_true_iff.mpr ⟨decide_eq_true hid, decide_eq_true (hname ▸ named)⟩
  · intro r hr
    split at hr
    · obtain ⟨_, -, rfl⟩ := List.mem_map.mp hr
      rfl
    · cases hr

end

end Testing

/-! ### A tested plugin -/

namespace Greeter
open Simulation Testing

/-- Waves, and says hello every other time. -/
def greet : Action Workspace where
  answer := fun services m => do
    services.react "wave" m.originId
    let turn ← Workspace.choose 0 [0, 1]
    return some { text := if turn = 0 then "hello" else "" }

def plugin : Plugin Workspace := { name := "greeter", hearActions := [greet, greet] }

/-- The services of a bot in a workspace. -/
def services : Services (Host Workspace) where
  logger := some { debug := true, context := [("plugin", .str "greeter")] }
  reactor := some fun name item => Host.outside (Workspace.reactor name item)
  uploader := some fun params => Host.outside (Workspace.uploader params)

/-- Whose turn it is, is the same for the tester and the bot, and nothing fails. -/
def SameTurn (h k : Host Workspace) : Prop :=
  h.world.choices = k.world.choices ∧ k.world.failing = []

lemma write_agrees (l : PluginLogger) (level : LogLevel) (name fmt : String)
    (args : List Value) :
    Agree SameTurn (l.write level name fmt args).attempt (l.write level name fmt args).attempt := by
  intro h k related
  unfold PluginLogger.write
  cases PluginLogger.render fmt args with
  | ok text => exact ⟨rfl, related⟩
  | error fault => exact ⟨rfl, related⟩

lemma logger_alike (l : PluginLogger) : l.Alike SameTurn l where
  printf _ _ _ := write_agrees _ _ _ _ _
  debugf _ _ _ := by
    unfold PluginLogger.debugf
    split
    · exact write_agrees _ _ _ _ _
    · exact .pure _

lemma receive_agrees (f : Captured → Captured) (operation key : String) (call : Bool → Call) :
    Agree SameTurn (capture f).attempt
      (Host.outside (Workspace.receive operation key call)).attempt := by
  rintro h k ⟨hchoices, hfailing⟩
  have hworks : (k.world.advance k.world.callTime).fails operation key = false := by
    rw [Workspace.fails, Workspace.advance, hfailing]
    rfl
  have hrun : (Host.outside (Workspace.receive operation key call)).attempt k =
      (.ok (), { k with world := (k.world.advance k.world.callTime).note (call false) }) := by
    refine (Host.outside_run _ k).trans ?_
    simp only [Workspace.receive, Effect.of, ExceptT.run, ExceptT.mk, hworks]
    rfl
  rw [hrun]
  exact ⟨rfl, hchoices, hfailing⟩

lemma services_alike : (Testing.services plugin).Alike SameTurn services where
  userFinder := .none
  logger := .some (logger_alike _)
  reactor := .some fun _ _ => receive_agrees _ _ _ _
  uploader := .some fun _ => receive_agrees _ _ _ _
  sender := .none

lemma choose_agrees (place : Nat) (picks : List Nat) :
    Agree SameTurn (Workspace.choose place picks).attempt
      (Workspace.choose place picks).attempt := by
  rintro h k ⟨hchoices, hfailing⟩
  have hrun (h : Host Workspace) : (Workspace.choose place picks).attempt h =
      (.ok (picks[h.world.choices[place]?.getD 0 % picks.length]?.getD 0),
        { h with world := { h.world with
            choices := h.world.choices.set place (h.world.choices[place]?.getD 0 + 1) } }) := rfl
  rw [hrun, hrun, hchoices]
  exact ⟨rfl, rfl, hfailing⟩

lemma greet_confined : greet.Confined SameTurn := by
  intro s s' alike m
  apply (alike.react _ _).attempt_bind
  intro _
  apply (choose_agrees _ _).attempt_bind
  exact fun _ => .pure _

/-- A bot that greets for the first time, and its tester. -/
def host (stamps : Nat) : Host Workspace := { world := { choices := [0], stamps } }

def identity : Identity := { userId := some "B" }

lemma greets : AllUnfailing (incoming identity "hi" "C1" "U1")
    (candidates identity (inject plugin) (incoming identity "hi" "C1" "U1"))
      (cleared (host 0)) := by
  refine ⟨?_, ?_, trivial⟩
  · rintro view -
    exact ⟨true, rfl, fun _ => ⟨_, rfl⟩⟩
  · rintro view -
    exact ⟨true, rfl, fun _ => ⟨_, rfl⟩⟩

/-- The greeter greets the first time and not the second, for the tester and for the bot. -/
theorem greeter_answers_as_tested :
    ∃ registry, PluginRegistry.register { botName := "bot", version := "1", location := "Local" }
      { plugin with services } = .ok registry ∧
    let d : Dialog Workspace :=
      ⟨registry.close.commands, registry.close.hearActions, some identity⟩
    ∃ m, d.incoming (event "hi" "C1" "U1") = .ok (some m) ∧
    ∃ produced,
      ((answersAndReacts identity plugin "hi").attempt (host 0)).1 = .ok produced ∧
      produced.answers.filter (!·.isEmpty) =
        ((d.replies m (host 7)).1.filter (isPlugins ·.action)).map (·.answer) := by
  refine tester_answers_as_bot ?_ plugin ?_ services services_alike ?_ identity "hi" "C1" "U1"
    (host 0) (host 7) ⟨rfl, rfl⟩ greets "bot" "1" "Local"
  · rintro h k k' ⟨hchoices, hfailing⟩ alike
    exact ⟨alike.world ▸ hchoices, alike.world ▸ hfailing⟩
  · decide
  · intro action haction
    have hgreet : action = greet := by simpa [plugin] using haction
    rw [hgreet]
    exact greet_confined

example : ((answersAndReacts identity plugin "hi").attempt (host 0)).1.map
    (·.answers.map (·.text)) = .ok ["hello", ""] := by
  rfl

end Greeter

end ChatEngine
