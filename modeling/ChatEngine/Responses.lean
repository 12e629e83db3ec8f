import ChatEngine.ActionId
import ChatEngine.Lru
import ChatEngine.Message

/-!
# The response tracker

Which of the bot's messages answer which message. The tracker is bounded: the origins used
longest ago are forgotten first, and their replies are no longer touched.
-/
namespace ChatEngine

/-- A message that the bot posted, with the action that produced it. -/
structure Response where
  action : ActionId
  message : MessageId
  deriving DecidableEq, Repr

def Response.text (r : Response) : String := r.action.text ++ " -> " ++ r.message.text

/-- The replies to each message, by the identity under which it was first posted, in order. -/
structure ResponseTracker where
  cache : Lru MessageId (List Response)

namespace ResponseTracker

/-- An empty tracker; the capacity has to be positive. -/
def create? (capacity : Int) : Option ResponseTracker :=
  if capacity < 1 then none else some ⟨{ capacity := capacity.toNat }⟩

def refusal (capacity : Int) : Except Decimal.IntegerError String :=
  (Decimal.writeInt capacity).map fun n =>
    "Response cache size must be at least 1 but was [" ++ n ++ "]"

def size (t : ResponseTracker) : Nat := t.cache.size

/-- The replies recorded for an origin, which becomes the latest used. -/
def get (t : ResponseTracker) (origin : MessageId) : Option (List Response) × ResponseTracker :=
  let (found, cache) := t.cache.get origin
  (found, ⟨cache⟩)

def remove (t : ResponseTracker) (origin : MessageId) : ResponseTracker := ⟨t.cache.erase origin⟩

/-- Replaces the replies of an origin; no replies leave no entry. -/
def put (t : ResponseTracker) (origin : MessageId) (responses : List Response) : ResponseTracker :=
  if responses.isEmpty then t.remove origin else ⟨t.cache.put origin responses⟩

def contains (t : ResponseTracker) (origin : MessageId) : Bool := t.cache.contains origin

/-- The replies recorded for an origin, without using the entry. -/
def records (t : ResponseTracker) (origin : MessageId) : List Response :=
  (t.cache.peek? origin).getD []

def origins (t : ResponseTracker) : List MessageId :=
  MessageId.sort (t.cache.entries.map (·.1))

end ResponseTracker

end ChatEngine
