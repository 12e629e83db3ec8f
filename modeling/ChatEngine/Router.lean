import ChatEngine.Crc32
import ChatEngine.Event
import ChatEngine.Fault

/-!
# Partitions

Routing of message events onto partitions. All events about one message, its edits and its deletion
included, go to one partition, whose queue keeps their order; a closed router marks the end of every
queue.
-/
namespace ChatEngine

/-- Whether a number is a power of two: it is positive, and no bit is left when its lowest one is
cleared. -/
def isPowerOfTwo (n : Int) : Bool := 0 < n && n.toNat &&& (n.toNat - 1) == 0

/-- Why an event is not routed, or no router is made. -/
inductive RouterError where
  | partitionCount (n : Int)
  | bufferSize (n : Int)
  | closed
  | unidentified (ref : MessageRef)

namespace RouterError

def message : RouterError → Except Decimal.IntegerError String
  | .partitionCount n => (Decimal.writeInt n).map fun n =>
    "A partition router can only work with a partition count that is a power of two but was ["
      ++ n ++ "]"
  | .bufferSize n => (Decimal.writeInt n).map fun n =>
    "Partition buffer size must be at least 1 but was [" ++ n ++ "]"
  | .closed => .ok "Can't route events once the router is closed"
  | .unidentified ⟨some _, _⟩ => .ok "can only concatenate str (not \"NoneType\") to str"
  | .unidentified ⟨none, timestamp⟩ =>
    .ok ("unsupported operand type(s) for +: 'NoneType' and '"
      ++ (if timestamp.isSome then "str" else "NoneType") ++ "'")

def fault (e : RouterError) : Fault :=
  let kind : FaultKind := match e with
    | .partitionCount _ => .partitionCount
    | .bufferSize _ => .invalidValue
    | .closed => .runtime
    | .unidentified _ => .wrongType
  .worded kind e.message

end RouterError

namespace MessageId

def checksum (id : MessageId) : Nat := (Crc32.ofText (id.channel ++ id.timestamp)).toNat

/-- The partition of a message among a power of two of them. -/
def partition (id : MessageId) (count : Nat) : Nat := id.checksum &&& (count - 1)

/-- The partition of a message, if the number of partitions is a power of two. -/
def partition? (id : MessageId) (count : Int) : Except RouterError Nat :=
  if isPowerOfTwo count then .ok (id.partition count.toNat) else .error (.partitionCount count)

end MessageId

/-- What stands in a queue. -/
inductive QueueItem where
  | event (e : MessageEvent)
  | stop

/-- The queues of the partitions. -/
structure Router where
  partitionCount : Nat
  bufferSize : Nat
  queues : List (List QueueItem)
  closed : Bool := false

namespace Router

def create? (partitionCount bufferSize : Int) : Except RouterError Router :=
  if !isPowerOfTwo partitionCount then .error (.partitionCount partitionCount)
  else if bufferSize < 1 then .error (.bufferSize bufferSize)
  else .ok {
    partitionCount := partitionCount.toNat
    bufferSize := bufferSize.toNat
    queues := List.replicate partitionCount.toNat [] }

def queue (r : Router) (i : Nat) : List QueueItem := r.queues[i]?.getD []

def isFull (r : Router) (i : Nat) : Bool := r.bufferSize ≤ (r.queue i).length

def push (r : Router) (i : Nat) (item : QueueItem) : Router :=
  { r with queues := r.queues.modify i (· ++ [item]) }

/-- The partition of a message that an event refers to; both parts of its identity are needed. -/
def partitionOf (r : Router) (ref : MessageRef) : Except RouterError Nat :=
  match ref with
  | ⟨some channel, some timestamp⟩ =>
    .ok ((⟨channel, timestamp⟩ : MessageId).partition r.partitionCount)
  | ref => .error (.unidentified ref)

/-- What comes of routing an event. -/
inductive Outcome where
  | routed (partition : Nat)
  /-- The partition's queue is full: the event waits. -/
  | blocked
  | refused (cause : RouterError)

def route (r : Router) (e : MessageEvent) : Outcome × Router :=
  if r.closed then (.refused .closed, r)
  else match r.partitionOf e.originRef with
    | .error cause => (.refused cause, r)
    | .ok i => if r.isFull i then (.blocked, r) else (.routed i, r.push i (.event e))

/-- Closes the router, putting a mark at the end of every queue; none while a queue is full. A
router that is closed stays as it is. -/
def close? (r : Router) : Option Router :=
  if r.closed then some r
  else if r.queues.any fun q => r.bufferSize ≤ q.length then none
  else some { r with closed := true, queues := r.queues.map (· ++ [.stop]) }

def take? (r : Router) (i : Nat) : Option (QueueItem × Router) :=
  match r.queue i with
  | [] => none
  | item :: rest => some (item, { r with queues := r.queues.set i rest })

end Router

end ChatEngine
