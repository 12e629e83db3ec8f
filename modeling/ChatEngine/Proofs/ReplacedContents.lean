import ChatEngine.Proofs.FreshStreams
import ChatEngine.Proofs.MeteredCalls
import ChatEngine.Slack.Services

/-!
# Replaced contents

What a posted message shows after it was updated. Slack keeps the parts of a message that the
request to update it leaves out (`Display.write`), and the blocks are left out when there are none.
So the text is always that of the last update, while blocks stay until other blocks are given
(`display`): an update without blocks replaces what is shown exactly if there were no blocks before.
-/

namespace ChatEngine.Slack

variable {σ : Type}

/-! ### Contents on Slack -/

/-- What a message shows. -/
structure Display where
  text : String := ""
  blocks : List Value := []

/-- Writes the arguments of a request over a content; what they leave out stays. -/
def Display.write (arguments : List (String × Value)) (old : Display) : Display where
  text := match Entries.get? "text" arguments with
    | some (.str text) => text
    | _ => old.text
  blocks := match Entries.get? "blocks" arguments with
    | some (.list blocks) => blocks
    | _ => old.blocks

/-- A platform that keeps contents, and says what a message shows: a posted message shows the
arguments of its request, and over an updated one they are written. -/
structure Platform.Displays (p : Platform σ) (shown : σ → MessageId → Display) : Prop where
  post : ∀ {message w w' data}, (p.call (.post message)).run w = (.ok (.answer data), w') →
    shown w' (Connection.answeredId data ⟨message.channel, ""⟩) =
      Display.write (Request.post message).arguments {}
  update : ∀ {id text blocks w w' data},
    (p.call (.update id text blocks)).run w = (.ok (.answer data), w') →
    shown w' (Connection.answeredId data id) =
      Display.write (Request.update id text blocks).arguments (shown w id)

/-! ### Contents that were written -/

/-- The text and blocks that a call gives a message. -/
structure Revision where
  text : String
  blocks : Option (List Value)

/-- The blocks of a revision; none are as good as an empty list of them. -/
def Revision.given (r : Revision) : List Value := r.blocks.getD []

/-- A message with its revisions, the last one first: it was sent, then each call that updated it
succeeded, and whatever else happened to the connection left the message alone. -/
inductive Revised (p : Platform σ) (shown : σ → MessageId → Display) :
    List Revision → MessageId → Connection σ → Prop
  | send {message : Outgoing} {id : MessageId} {c c' : Connection σ}
      (sent : ((Connection.driver p).send message).run c = (.ok id, c')) :
      Revised p shown [⟨message.text, message.blocks⟩] id c'
  | update {revisions : List Revision} {id id' : MessageId} {text : String}
      {blocks : Option (List Value)} {c c' : Connection σ} (revised : Revised p shown revisions id c)
      (updated : ((Connection.driver p).update id text blocks).run c = (.ok id', c')) :
      Revised p shown (⟨text, blocks⟩ :: revisions) id' c'
  | elapse {revisions : List Revision} {id : MessageId} {c c' : Connection σ}
      (revised : Revised p shown revisions id c)
      (spared : shown c'.world id = shown c.world id) : Revised p shown revisions id c'

/-- What revisions leave of a message, the last one first. -/
def display : List Revision → Display
  | [] => {}
  | r :: earlier => ⟨r.text, if r.given = [] then (display earlier).blocks else r.given⟩

lemma blocks_display_eq_nil {revisions : List Revision} :
    (display revisions).blocks = [] ↔ ∀ r ∈ revisions, r.given = [] := by
  induction revisions with
  | nil => simp [display]
  | cons r earlier ih =>
    rw [List.forall_mem_cons, ← ih, display]
    by_cases hgiven : r.given = [] <;> simp [hgiven]

lemma blocks_display_cons {r : Revision} {earlier : List Revision} :
    (display (r :: earlier)).blocks = r.given ↔
      (r.given = [] → ∀ older ∈ earlier, older.given = []) := by
  rw [← blocks_display_eq_nil, display]
  by_cases hgiven : r.given = [] <;> simp [hgiven]

/-! ### What requests write -/

lemma get?_blocksArgument (blocks : Option (List Value)) :
    Entries.get? "blocks" (Request.blocksArgument blocks) =
      if blocks.getD [] = [] then none else some (.list (blocks.getD [])) := by
  rcases blocks with - | ⟨_ | ⟨first, rest⟩⟩ <;> rfl

lemma textArgument_cases (name : String) (value : Option String) :
    Request.textArgument name value = [] ∨ ∃ text, Request.textArgument name value =
      [(name, .str text)] := by
  unfold Request.textArgument
  cases Option.filter _ value with
  | none => exact .inl rfl
  | some text => exact .inr ⟨text, rfl⟩

lemma write_eq {arguments : List (String × Value)} {r : Revision}
    (htext : Entries.get? "text" arguments = some (.str r.text))
    (hblocks : Entries.get? "blocks" arguments =
      Entries.get? "blocks" (Request.blocksArgument r.blocks)) (old : Display) :
    Display.write arguments old = ⟨r.text, if r.given = [] then old.blocks else r.given⟩ := by
  rw [Display.write, htext, hblocks, get?_blocksArgument, Revision.given]
  by_cases hgiven : r.blocks.getD [] = []
  · rw [if_pos hgiven, if_pos hgiven]
  · rw [if_neg hgiven, if_neg hgiven]

lemma write_post (message : Outgoing) :
    Display.write (Request.post message).arguments {} =
      display [⟨message.text, message.blocks⟩] := by
  have htext : Entries.get? "text" (Request.post message).arguments = some (.str message.text) := by
    simp [Request.arguments, Entries.get?]
  -- Neither the channel nor the thread of a message stands for its blocks.
  have hblocks : Entries.get? "blocks" (Request.post message).arguments =
      Entries.get? "blocks" (Request.blocksArgument message.blocks) := by
    unfold Request.arguments Request.threadArguments
    rcases textArgument_cases "thread_ts" message.thread with hnone | ⟨thread, hthread⟩
    · simp [hnone, Entries.get?]
    · simp [hthread, Entries.get?]
  exact write_eq (r := ⟨message.text, message.blocks⟩) htext hblocks {}

lemma write_update (id : MessageId) (text : String) (blocks : Option (List Value))
    (earlier : List Revision) :
    Display.write (Request.update id text blocks).arguments (display earlier) =
      display (⟨text, blocks⟩ :: earlier) := by
  have htext : Entries.get? "text" (Request.update id text blocks).arguments =
      some (.str text) := by
    simp [Request.arguments, Entries.get?]
  have hblocks : Entries.get? "blocks" (Request.update id text blocks).arguments =
      Entries.get? "blocks" (Request.blocksArgument blocks) := by
    simp [Request.arguments, Entries.get?]
  exact write_eq (r := ⟨text, blocks⟩) htext hblocks (display earlier)

namespace Connection

variable {p : Platform σ} {shown : σ → MessageId → Display}

lemma request_run {α : Type} (p : Platform σ) (r : Request)
    (refused : String → Effect (Connection σ) α) (answered : Value → Effect (Connection σ) α)
    (c : Connection σ) :
    (request p r refused answered).run c =
      match (p.call r).run c.world with
      | (.ok (.answer data), w) => (answered data).run { c with world := w }
      | (.ok (.refused code), w) => (refused code).run { c with world := w }
      | (.error fault, w) => (.error fault, { c with world := w }) := by
  unfold request
  rw [Effect.bind_run, outside_run]
  rcases (p.call r).run c.world with ⟨fault | data | code, w⟩ <;> rfl

lemma refuse_run {α : Type} (how : Refusal) (code : String) (c : Connection σ) :
    ∃ fault, ((refuse how code : Effect (Connection σ) α).run c).1 = .error fault := by
  unfold refuse
  cases how.logged <;> exact ⟨_, rfl⟩

/-- A request that succeeded was answered. -/
lemma request_ok {α : Type} {r : Request} {how : Refusal}
    {answered : Value → Effect (Connection σ) α} {c c' : Connection σ} {a : α}
    (h : (request p r (refuse how) answered).run c = (.ok a, c')) :
    ∃ data w, (p.call r).run c.world = (.ok (.answer data), w) ∧
      (answered data).run { c with world := w } = (.ok a, c') := by
  rw [request_run] at h
  rcases hcall : (p.call r).run c.world with ⟨fault | data | code, w⟩
  · rw [hcall] at h
    cases h
  · rw [hcall] at h
    exact ⟨data, w, rfl, h⟩
  · rw [hcall] at h
    obtain ⟨fault, hfault⟩ := refuse_run (α := α) how code { c with world := w }
    dsimp only at h
    rw [h] at hfault
    cases hfault

lemma shown_of_sent (hp : p.Displays shown) {message : Outgoing} {id : MessageId}
    {c c' : Connection σ} (sent : ((driver p).send message).run c = (.ok id, c')) :
    shown c'.world id = display [⟨message.text, message.blocks⟩] := by
  obtain ⟨data, w, hcall, hanswered⟩ := request_ok sent
  cases hanswered
  exact (hp.post hcall).trans (write_post message)

lemma shown_of_updated (hp : p.Displays shown) {id id' : MessageId} {text : String}
    {blocks : Option (List Value)} {c c' : Connection σ} {earlier : List Revision}
    (hshown : shown c.world id = display earlier)
    (updated : ((driver p).update id text blocks).run c = (.ok id', c')) :
    shown c'.world id' = display (⟨text, blocks⟩ :: earlier) := by
  obtain ⟨data, w, hcall, hanswered⟩ := request_ok updated
  cases hanswered
  rw [← write_update id, ← hshown]
  exact hp.update hcall

end Connection

/-- A message shows what its revisions leave of it. -/
lemma shown_of_revised {p : Platform σ} {shown : σ → MessageId → Display} (hp : p.Displays shown)
    {revisions : List Revision} {id : MessageId} {c : Connection σ}
    (revised : Revised p shown revisions id c) : shown c.world id = display revisions := by
  induction revised with
  | send sent => exact Connection.shown_of_sent hp sent
  | update _ updated ih => exact Connection.shown_of_updated hp ih updated
  | elapse _ spared ih => exact spared.trans ih

lemma shown_iff {p : Platform σ} {shown : σ → MessageId → Display} (hp : p.Displays shown)
    {last : Revision} {earlier : List Revision} {id : MessageId} {c : Connection σ}
    (revised : Revised p shown (last :: earlier) id c) :
    shown c.world id = ⟨last.text, last.given⟩ ↔
      (last.given = [] → ∀ older ∈ earlier, older.given = []) := by
  have htext : (display (last :: earlier)).text = last.text := rfl
  rw [shown_of_revised hp revised, ← blocks_display_cons]
  refine ⟨fun heq => by rw [heq], fun hblocks => ?_⟩
  rw [← htext, ← hblocks]

/-! ### Replies that are revised -/

lemma revise_ok {o : Outbox σ} {origin updated : MessageId} {existing : Response}
    {reply : PendingReply} {h : Host σ}
    (hok : ((o.driver.update existing.message reply.answer.text reply.answer.blocks).attempt h).1 =
      .ok updated) :
    o.revise origin existing reply h = (⟨reply.action, updated⟩,
      ((o.driver.update existing.message reply.answer.text reply.answer.blocks).attempt h).2) := by
  unfold Outbox.revise
  rw [bind_apply, hok]
  rfl

/-- A reply that is revised through the driver of a bot gives the message one more revision. -/
lemma revised_of_revise [Clocked (Connection σ)] {p : Platform σ}
    {shown : σ → MessageId → Display} {revisions : List Revision} {id id' : MessageId}
    {reply : PendingReply} {h : Host (Connection σ)}
    (revised : Revised p shown revisions id h.world)
    (updated : (((Connection.driver p).update id reply.answer.text reply.answer.blocks).run
      h.world).1 = .ok id') (defaults : ReplyDefaults) (origin : MessageId) (action : ActionId) :
    let o : Outbox (Connection σ) := ⟨(Connection.driver p).outside.metered, defaults⟩
    let done := o.revise origin ⟨action, id⟩ reply h
    done.1 = ⟨reply.action, id'⟩ ∧
      Revised p shown (⟨reply.answer.text, reply.answer.blocks⟩ :: revisions) id'
        done.2.world := by
  intro o done
  have hcall := Host.metered_attempt "chat_driver" "update_message"
    (Host.outside ((Connection.driver p).update id reply.answer.text reply.answer.blocks)) h
  have hok : ((o.driver.update id reply.answer.text reply.answer.blocks).attempt h).1 = .ok id' :=
    (congrArg Prod.fst hcall).trans updated
  have hworld : done.2.world =
      (((Connection.driver p).update id reply.answer.text reply.answer.blocks).run h.world).2 := by
    rw [show done = _ from revise_ok hok]
    exact congrArg (fun result => result.2.world) hcall
  have hrun := Prod.ext (y := (.ok id', done.2.world)) updated hworld.symm
  exact ⟨congrArg Prod.fst (revise_ok hok), .update revised hrun⟩

/-! ### Updates -/

/-- An update replaces what a message shows unless it leaves blocks there. A posted message that was
updated any number of times shows the text of the last call and the blocks of the last call that
gave some. So it shows what the last call gave exactly if that call gave blocks, or none before did.
A recorded reply that is revised by a bot goes on like this. -/
theorem updates_replace_unless_blocks_are_left [Clocked (Connection σ)] {p : Platform σ}
    {shown : σ → MessageId → Display} (hp : p.Displays shown) {last : Revision}
    {earlier : List Revision} {id : MessageId} {c : Connection σ}
    (revised : Revised p shown (last :: earlier) id c) :
    shown c.world id = display (last :: earlier) ∧
      (shown c.world id = ⟨last.text, last.given⟩ ↔
        (last.given = [] → ∀ older ∈ earlier, older.given = [])) ∧
      ∀ (reply : PendingReply) (h : Host (Connection σ)) id', h.world = c →
        (((Connection.driver p).update id reply.answer.text reply.answer.blocks).run c).1 =
          .ok id' →
        ∀ defaults origin action,
          let revision : Revision := ⟨reply.answer.text, reply.answer.blocks⟩
          let o : Outbox (Connection σ) := ⟨(Connection.driver p).outside.metered, defaults⟩
          let done := o.revise origin ⟨action, id⟩ reply h
          done.1 = ⟨reply.action, id'⟩ ∧
            shown done.2.world.world id' = display (revision :: last :: earlier) ∧
            (shown done.2.world.world id' = ⟨revision.text, revision.given⟩ ↔
              (revision.given = [] → ∀ older ∈ last :: earlier, older.given = [])) := by
  refine ⟨shown_of_revised hp revised, shown_iff hp revised, ?_⟩
  rintro reply h id' rfl updated defaults origin action
  obtain ⟨hrecord, hrevised⟩ := revised_of_revise revised updated defaults origin action
  exact ⟨hrecord, shown_of_revised hp hrevised, shown_iff hp hrevised⟩

/-- A board of messages, which numbers what is posted and changes what is there. -/
structure Board where
  messages : List (MessageId × Display) := []

namespace Board

def shows (b : Board) (id : MessageId) : Display := (Entries.get? id b.messages).getD {}

def put (b : Board) (id : MessageId) (c : Display) : Board :=
  { messages := Entries.put id c b.messages }

def confirm (id : MessageId) : Reply :=
  .answer (.map [("ok", .bool true), ("channel", .str id.channel), ("ts", .str id.timestamp)])

def call : Request → Board → Except Fault Reply × Board
  | .post message, b =>
    let id : MessageId := ⟨message.channel, Decimal.intText (b.messages.length + 1)⟩
    (.ok (confirm id), b.put id (Display.write (Request.post message).arguments {}))
  | .update id text blocks, b =>
    match Entries.get? id b.messages with
    | some old =>
      (.ok (confirm id), b.put id (Display.write (Request.update id text blocks).arguments old))
    | none => (.ok (.refused "message_not_found"), b)
  | _, b => (.ok (.answer (.map [])), b)

def platform : Platform Board where
  call r := Effect.of (call r)
  openSocket _ _ := return []
  closeSocket := return ()
  wait _ := return ()

lemma shows_put (b : Board) (id : MessageId) (c : Display) : (b.put id c).shows id = c := by
  rw [shows, put, Entries.get?_put, if_pos rfl, Option.getD_some]

lemma displays : platform.Displays shows where
  post {message w w' data} h := by
    change call (.post message) w = _ at h
    unfold call at h
    cases h
    exact shows_put _ _ _
  update {id text blocks w w' data} h := by
    change call (.update id text blocks) w = _ at h
    unfold call at h
    dsimp only at h
    split at h
    · next old hold =>
      cases h
      rw [show w.shows id = old by rw [shows, hold, Option.getD_some]]
      exact shows_put _ _ _
    · cases h

instance : Clocked (Connection Board) := ⟨fun _ => 0.0⟩

def divider : Value := .map [("type", .str "divider")]

def first : MessageId := ⟨"C1", "1"⟩

/-- The first message is posted with a divider. -/
def posted : Except Fault MessageId × Connection Board :=
  ((Connection.driver platform).send { channel := "C1", text := "old", blocks := some [divider] }).run
    { token := "xoxb-t", appToken := "xapp-t", world := {} }

lemma posted_ok : posted = (.ok first, posted.2) := rfl

/-- Then it is updated without blocks. -/
def updated : Except Fault MessageId × Connection Board :=
  ((Connection.driver platform).update first "new" none).run posted.2

lemma updated_ok : updated = (.ok first, updated.2) := rfl

/-- A reply with other blocks. -/
def sunny : PendingReply where
  action := ⟨"weather", .command, 0⟩
  answer := { text := "sunny", blocks := some [.str "picture"] }
  options := {}

end Board

open Board in
/-- The message shows the new text and the old divider; a reply with blocks then replaces both. -/
theorem picture_replaces_divider :
    updated.2.world.shows first = ⟨"new", [divider]⟩ ∧
      let o : Outbox (Connection Board) := ⟨(Connection.driver platform).outside.metered, {}⟩
      let done := o.revise ⟨"C1", "0"⟩ ⟨sunny.action, first⟩ sunny { world := updated.2 }
      done.2.world.world.shows first = ⟨"sunny", [.str "picture"]⟩ := by
  have revised : Revised platform shows [⟨"new", none⟩, ⟨"old", some [divider]⟩] first updated.2 :=
    .update (.send posted_ok) updated_ok
  obtain ⟨hshown, -, hrevise⟩ := updates_replace_unless_blocks_are_left displays revised
  obtain ⟨-, -, hreplaced⟩ := hrevise sunny { world := updated.2 } first rfl rfl {} ⟨"C1", "0"⟩
    sunny.action
  exact ⟨hshown, hreplaced.mpr nofun⟩

open Board in
/-- An update that gives no blocks succeeds and leaves the old divider. -/
theorem divider_outlives_update :
    platform.Displays shows ∧ posted.1 = .ok first ∧
      ((Connection.driver platform).update first "new" none).run posted.2 = (.ok first, updated.2) ∧
      updated.2.world.shows first ≠ ⟨"new", []⟩ := by
  refine ⟨displays, rfl, rfl, fun heq => ?_⟩
  cases congrArg Display.blocks heq

end ChatEngine.Slack
