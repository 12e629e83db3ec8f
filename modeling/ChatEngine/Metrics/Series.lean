import ChatEngine.Entries
import ChatEngine.Fault

/-!
# Labelled metrics

Metrics with labels. A metric keeps one value per label set, in order of first use; counters only
grow, gauges move both ways, and histograms keep all observations.
-/
namespace ChatEngine

abbrev LabelSet := List (String × String)

namespace LabelSet

def le (a b : String × String) : Bool := a.1 < b.1 || (a.1 == b.1 && !(b.2 < a.2))

/-- The label set that the labels describe, in whatever order they are written. -/
def ofList (labels : List (String × String)) : LabelSet := (Entries.ofList labels).mergeSort le

def get? (labels : LabelSet) (name : String) : Option String := Entries.get? name labels

end LabelSet

/-- One value per label set, in order of first use. -/
abbrev Series (α : Type) := List (LabelSet × α)

namespace Series

def at_ {α : Type} (s : Series α) (labels : LabelSet) (missing : α) : α :=
  (Entries.get? labels s).getD missing

/-- Changes the value of a label set, starting from `missing` at its first use. -/
def modify {α : Type} (s : Series α) (labels : LabelSet) (missing : α) (f : α → α) : Series α :=
  Entries.put labels (f (s.at_ labels missing)) s

end Series

abbrev Counter := Series Float

namespace Counter

def add (c : Counter) (labels : LabelSet) (value : Float) : Counter :=
  Series.modify c labels 0.0 (· + value)

/-- Adds to a counter; a negative value is refused. -/
def increase (c : Counter) (labels : LabelSet) (value : Float) : Except Fault Counter :=
  if value < 0.0 then .error (.invalidValue "Counter can only increase")
  else .ok (c.add labels value)

def get (c : Counter) (labels : LabelSet) : Float := Series.at_ c labels 0.0

end Counter

abbrev Gauge := Series Float

namespace Gauge

def set (g : Gauge) (labels : LabelSet) (value : Float) : Gauge := Entries.put labels value g

def increase (g : Gauge) (labels : LabelSet) (value : Float) : Gauge :=
  Series.modify g labels 0.0 (· + value)

def decrease (g : Gauge) (labels : LabelSet) (value : Float) : Gauge :=
  Series.modify g labels 0.0 (· - value)

def get (g : Gauge) (labels : LabelSet) : Float := Series.at_ g labels 0.0

end Gauge

/-- What a histogram says about the observations of one label set. -/
structure Summary (α : Type) where
  count : Nat
  sum : α
  min : α
  max : α

abbrev Histogram (α : Type) := Series (List α)

namespace Histogram

variable {α : Type}

def observe (h : Histogram α) (labels : LabelSet) (value : α) : Histogram α :=
  Series.modify h labels [] (· ++ [value])

def observations (h : Histogram α) (labels : LabelSet) : List α := Series.at_ h labels []

theorem observations_observe (h : Histogram α) (labels others : LabelSet) (value : α) :
    (h.observe labels value).observations others =
      if others = labels then h.observations labels ++ [value] else h.observations others := by
  unfold observations observe Series.modify Series.at_
  rw [Entries.get?_put]
  split <;> rfl

def labelSets (h : Histogram α) : List LabelSet := h.map (·.1)

/-- The summary of some observations; sums run from left to right. -/
def summarize [Add α] [LT α] [DecidableLT α] (zero : α) : List α → Summary α
  | [] => ⟨0, zero, zero, zero⟩
  | v :: vs =>
    { count := vs.length + 1
      sum := (v :: vs).foldl (· + ·) zero
      min := vs.foldl (fun m x => if x < m then x else m) v
      max := vs.foldl (fun m x => if m < x then x else m) v }

def distinctBounds [BEq α] (bounds : List α) : List α :=
  bounds.foldl (fun acc b => if acc.any (· == b) then acc else acc ++ [b]) []

def countAt [BEq α] (counts : List (α × Nat)) (bound : α) : List (α × Nat) :=
  counts.modify (counts.findIdx (·.1 == bound)) fun (b, n) => (b, n + 1)

/-- Counts a value in the bucket of the first bound that it does not exceed, and in no other. -/
def tally [LE α] [DecidableLE α] [BEq α] (bounds : List α) (counts : List (α × Nat)) (value : α) :
    List (α × Nat) :=
  match bounds.find? fun b => value ≤ b with
  | some bound => countAt counts bound
  | none => counts

def buckets [LE α] [DecidableLE α] [BEq α] (h : Histogram α) (bounds : List α)
    (labels : LabelSet) : List (α × Nat) :=
  (h.observations labels).foldl (tally bounds) ((distinctBounds bounds).map (·, 0))

end Histogram

def durationBounds : List Float :=
  [0.001, 0.005, 0.01, 0.025, 0.05, 0.1, 0.25, 0.5, 1.0, 2.5, 5.0, 1.0 / 0.0]

/-- The bounds of a histogram: those it is given, or the usual ones if it is given none. -/
def Histogram.boundsOf (given : List Float) : List Float :=
  if given.isEmpty then durationBounds else given

end ChatEngine
