/-!
# Spans

A span is a half-open range of offsets into a source, from `start` up to but not including `stop`.
Offsets are unbounded integers and the bounds may come in any order: a span whose start is not
below its stop is empty, and still marks a position.

`Span.union` is the hull of two spans, `Span.intersection?` their common offsets, `Span.covers`
the comparison of bounds, and `Span.join?` the hull of a whole list.
-/
namespace Whereabouts

/-- The offsets from `start` up to, and not including, `stop`. -/
structure Span where
  start : Int := 0
  stop : Int := 0
deriving DecidableEq, Repr, Inhabited

namespace Span

/-- The empty span that marks `offset`. -/
def point (offset : Int) : Span := ⟨offset, offset⟩

/-- How many offsets the span holds. An inverted span holds none. -/
def length (s : Span) : Nat := (s.stop - s.start).toNat

def isEmpty (s : Span) : Bool := decide (s.stop ≤ s.start)

instance : Membership Int Span where
  mem s x := s.start ≤ x ∧ x < s.stop

instance (x : Int) (s : Span) : Decidable (x ∈ s) :=
  inferInstanceAs (Decidable (s.start ≤ x ∧ x < s.stop))

theorem mem_iff {x : Int} {s : Span} : x ∈ s ↔ s.start ≤ x ∧ x < s.stop := Iff.rfl

def contains (s : Span) (x : Int) : Bool := decide (x ∈ s)

/-- Whether the bounds of `b` lie within those of `a`. Only bounds are compared, so an empty span
inside `a`, or on one of its edges, is covered. -/
def covers (a b : Span) : Bool := decide (a.start ≤ b.start ∧ b.stop ≤ a.stop)

/-- The least span that covers both. It also holds what lies between two disjoint spans, and an
empty span counts with its position. -/
def union (a b : Span) : Span := ⟨min a.start b.start, max a.stop b.stop⟩

/-- The common offsets of two spans, if there are any. -/
def intersection? (a b : Span) : Option Span :=
  let start := max a.start b.start
  let stop := min a.stop b.stop
  if start < stop then some ⟨start, stop⟩ else none

def overlaps (a b : Span) : Bool := (a.intersection? b).isSome

def withStop (s : Span) (stop : Int) : Span := { s with stop }

/-- Moves the stop forward by `count`. -/
def extended (s : Span) (count : Int) : Span := { s with stop := s.stop + count }

/-- Moves the start onto the stop. -/
def cleared (s : Span) : Span := { s with start := s.stop }

/-- The empty span right after this one. -/
def after (s : Span) : Span := point s.stop

/-- The least span that covers every span of the list, or `none` for the empty list. A single
span stays as it is, inverted or not. -/
def join? : List Span → Option Span
  | [] => none
  | s :: rest => some (rest.foldl union s)

/-- Spans are ordered by their start, and by their stop where the starts agree. -/
instance : Ord Span where
  compare a b := (compare a.start b.start).then (compare a.stop b.stop)

/-- The text of a position: both bounds with two dots between them. -/
def format (s : Span) : String := toString s.start ++ ".." ++ toString s.stop

end Span
end Whereabouts
