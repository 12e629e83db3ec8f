import ChatEngine.Bot.Basic
import ChatEngine.Store
import ChatEngine.Testing.Tester

/-!
# Simulated workspaces

A simulated workspace: a chat service that records every call, gives posted messages increasing
timestamps, and fails the calls it is told to fail. Its clock only moves when it is moved.
-/
namespace ChatEngine.Simulation

/-- A call that the workspace received. -/
inductive Call where
  | send (message : Outgoing) (result : Option MessageId)
  /-- The new identity is only noted when changing a message gives it one. -/
  | update (id : MessageId) (text : String) (blocks : Option (List Value)) (failed : Bool)
    (newId : Option MessageId)
  | delete (id : MessageId) (failed : Bool)
  | whisper (message : Whisper) (failed : Bool)
  | react (name : String) (item : MessageId) (failed : Bool)
  | upload (params : Upload) (failed : Bool)
  | fetchUser (userId : String) (failed : Bool)
  | say (text channel : String) (failed : Bool)

/-- A plugin's store, with the operations that it fails. -/
structure PluginStore where
  store : MemoryStore
  failing : List String := []

/-- A simulated workspace. -/
structure Workspace where
  clock : Float := 0.0
  /-- The calls received, latest first. -/
  calls : List Call := []
  /-- The operations to fail, alone or with the key of a call. -/
  failing : List String := []
  callTime : Float := 0.0
  stamps : Nat := 0
  /-- Whether changing a message gives it a new timestamp. -/
  retimestamp : Bool := false
  users : List (String × UserProfile) := []
  stores : List PluginStore := []
  choices : List Nat := []
  closed : List String := []
  connects : Nat := 0
  disconnects : Nat := 0
  connectFails : Bool := false
  disconnectFails : Bool := false
  captured : Testing.Captured := {}

instance : Testing.Capturing Workspace where
  captured w := w.captured
  setCaptured captured w := { w with captured }

instance : Clocked Workspace := ⟨Workspace.clock⟩

namespace Workspace

def advance (w : Workspace) (seconds : Float) : Workspace := { w with clock := w.clock + seconds }

def fails (w : Workspace) (operation key : String) : Bool :=
  w.failing.contains operation || w.failing.contains (operation ++ ":" ++ key)

def note (w : Workspace) (call : Call) : Workspace := { w with calls := call :: w.calls }

def failure (operation : String) : Fault := .runtime (operation ++ " failed")

def stamp (w : Workspace) : String × Workspace :=
  (Decimal.intText ((200 + w.stamps : Nat) : Int) ++ ".0", { w with stamps := w.stamps + 1 })

def receive (operation key : String) (call : Bool → Call) : Effect Workspace Unit :=
  Effect.of fun w =>
    let w := w.advance w.callTime
    let failed := w.fails operation key
    let w := w.note (call failed)
    (if failed then .error (failure operation) else .ok (), w)

def send (message : Outgoing) : Effect Workspace MessageId := Effect.of fun w =>
  let w := w.advance w.callTime
  if w.fails "send" message.text then
    (.error (failure "send"), w.note (.send message none))
  else
    let (timestamp, w) := w.stamp
    let id : MessageId := ⟨message.channel, timestamp⟩
    (.ok id, w.note (.send message (some id)))

def update (id : MessageId) (text : String) (blocks : Option (List Value)) :
    Effect Workspace MessageId := Effect.of fun w =>
  let w := w.advance w.callTime
  if w.fails "update" text then
    (.error (failure "update"), w.note (.update id text blocks true none))
  else if w.retimestamp then
    let (timestamp, w) := w.stamp
    let newId : MessageId := ⟨id.channel, timestamp⟩
    (.ok newId, w.note (.update id text blocks false (some newId)))
  else (.ok id, w.note (.update id text blocks false none))

def driver : ChatDriver Workspace where
  send := send
  update := update
  delete id := receive "delete" id.timestamp (.delete id)
  whisper message := receive "send_ephemeral" message.text (.whisper message)

def reactor : Reactor Workspace := fun name item => receive "react" name (.react name item)

def uploader : Uploader Workspace := fun params =>
  receive "upload" (params.filename.getD "None") (.upload params)

def directory : UserFinder Workspace := fun userId => do
  receive "fetch_user" userId (.fetchUser userId)
  match Entries.get? userId (← get).users with
  | some profile => return profile
  | none => throw (.userNotFound userId)

/-- Posts a text on a channel, apart from the chat driver. -/
def sayer : Sender Workspace := fun text channel => do
  receive "say" text (.say text channel)
  return ⟨channel, "1.0"⟩

def connect : Effect Workspace Unit := do
  modify fun w => { w with connects := w.connects + 1 }
  if (← get).connectFails then throw (failure "connect")

def disconnect : Effect Workspace Unit := do
  modify fun w => { w with disconnects := w.disconnects + 1 }
  if (← get).disconnectFails then throw (failure "disconnect")

def journal (w : Workspace) : List Call := w.calls.reverse

def clearCalls (w : Workspace) : Workspace := { w with calls := [] }

/-- Adds a store for a plugin and says which it is. -/
def addStore (w : Workspace) (store : PluginStore) : Nat × Workspace :=
  (w.stores.length, { w with stores := w.stores ++ [store] })

def addChooser (w : Workspace) : Nat × Workspace :=
  (w.choices.length, { w with choices := w.choices ++ [0] })

def failStores (w : Workspace) (failing : List String) : Workspace :=
  { w with stores := w.stores.map fun s => { s with failing } }

def storeAt (w : Workspace) (i : Nat) : PluginStore := w.stores[i]?.getD ⟨{}, []⟩

/-- Runs an operation on a store, unless the store is told to fail it. -/
def onStore {α : Type} (i : Nat) (operation : String)
    (act : MemoryStore → Except Fault (α × MemoryStore)) : Effect (Host Workspace) α :=
  Host.outside <| Effect.of fun w =>
    let s := w.storeAt i
    if s.failing.contains operation then (.error (failure operation), w)
    else match act s.store with
      | .ok (a, store) => (.ok a, { w with stores := w.stores.set i { s with store } })
      | .error fault => (.error fault, w)

def storeOps (i : Nat) : StringStore (Host Workspace) where
  get key := onStore i "get" fun s => return (← s.get key, s)
  put key value := onStore i "put" fun s => return ((), ← s.put key value)
  scan := onStore i "scan" fun s => return (← s.scan, s)

def closeStore (i : Nat) : Effect (Host Workspace) Unit := do
  let s := (← get).world.storeAt i
  let (store, entry) := s.store.close
  modify fun h =>
    { h with
      world := { h.world with stores := h.world.stores.set i { s with store } }
      log := entry.toList ++ h.log }

/-- Chooses the next of the given pictures, again and again in the same order. -/
def choose (i : Nat) (picks : List Nat) : Effect (Host Workspace) Nat := do
  let n := (← get).world.choices[i]?.getD 0
  modify fun h => { h with world := { h.world with choices := h.world.choices.set i (n + 1) } }
  return picks[n % picks.length]?.getD 0

end Workspace

/-- The resource that records its closing, and fails after it if told to. -/
def recordingCloser (className name : String) (fails : Bool) : Closer Workspace where
  name := className
  close := do
    modify fun h => { h with world := { h.world with closed := name :: h.world.closed } }
    if fails then throw (.runtime (name ++ " failed"))

end ChatEngine.Simulation
