import Whereabouts.Proofs.Span.Joining

/-!
# The positions of empty spans

An empty span marks the position of its start. A union goes from the lowest start to the highest
stop, whether or not the two bounds that it takes belong to spans that are the right way round. No
position lies in front of it. Behind it lies the position of an inverted span that starts behind the
stops of all the others (`positions_lost`).
-/
namespace Whereabouts

namespace Span

/-- The position lies between the bounds, or on one of them. -/
def Encloses (s : Span) (x : Int) : Prop := s.start ≤ x ∧ x ≤ s.stop

instance (s : Span) (x : Int) : Decidable (s.Encloses x) :=
  inferInstanceAs (Decidable (s.start ≤ x ∧ x ≤ s.stop))

variable {s : Span} {x : Int}

/-- A position that is not in front of a span is lost only behind it. -/
theorem not_encloses_iff (h : s.start ≤ x) : ¬s.Encloses x ↔ s.stop < x := by
  rw [Encloses]
  omega

theorem union_start_le (a b : Span) : (a.union b).start ≤ b.start :=
  (covers_iff.1 (union_covers a b).2).1

theorem not_union_encloses_iff (a b : Span) :
    ¬(a.union b).Encloses b.start ↔ a.stop < b.start ∧ b.stop < b.start := by
  rw [not_encloses_iff (union_start_le a b), union]
  dsimp only
  omega

end Span

variable {items : List Value} {v : Value} {s b : Span} {x : Int}

namespace IsHull

theorem bounds_le (h : IsHull items s) (hv : v ∈ items) (hb : v.span? = some b) :
    s.start ≤ b.start ∧ b.stop ≤ s.stop :=
  Span.covers_iff.1 ((h.covers_iff s).1 (Span.covers_refl s) v hv b hb)

/-- A hull ends in front of a position exactly if all its items do: a span that stops short of it
covers every item, and so the hull. -/
theorem stop_lt_iff (h : IsHull items s) :
    s.stop < x ↔ ∀ v ∈ items, ∀ b, v.span? = some b → b.stop < x := by
  constructor
  · intro behind v hv b hb
    have within := h.bounds_le hv hb
    omega
  · intro all
    have short : (Span.mk s.start (x - 1)).covers s = true := by
      apply (h.covers_iff _).2
      intro v hv b hb
      have within := h.bounds_le hv hb
      have before := all v hv b hb
      exact Span.covers_iff.2 ⟨within.1, by dsimp only; omega⟩
    have stop : s.stop ≤ x - 1 := (Span.covers_iff.1 short).2
    omega

end IsHull

/-- **Which positions a union loses.** A union never starts behind the start of one of its spans.
It loses the position of that start exactly if both spans stop in front of it, so that the span
itself is inverted. It is the same for the join of any items that are not all absent: a position is
lost exactly if every item stops in front of it. -/
theorem positions_lost (joinable : ∀ v ∈ items, Joinable v) (present : ∃ v ∈ items, v ≠ .absent) :
    (∀ a b : Span, (a.union b).start ≤ b.start ∧
      (¬(a.union b).Encloses b.start ↔ a.stop < b.start ∧ b.stop < b.start)) ∧
    ∃ s, joinSpans items = pure s ∧ ∀ v ∈ items, ∀ b, v.span? = some b → s.start ≤ b.start ∧
      (¬s.Encloses b.start ↔ ∀ w ∈ items, ∀ c, w.span? = some c → c.stop < b.start) := by
  refine ⟨fun a b => ⟨Span.union_start_le a b, Span.not_union_encloses_iff a b⟩, ?_⟩
  obtain ⟨s, joined⟩ := exists_joinSpans joinable present
  have hull := isHull_of_joinSpans joinable joined
  refine ⟨s, joined, fun v hv b hb => ?_⟩
  have start := (hull.bounds_le hv hb).1
  exact ⟨start, (Span.not_encloses_iff start).trans hull.stop_lt_iff⟩

/-- A token with a mark right behind it, and an inverted mark further on. The first mark is kept,
and of the other one only the stop counts. -/
theorem positions_lost_mark :
    let token : Value := .located (.text "+") (.text "f") ⟨0, 4⟩
    let mark : Value := .span (.point 5)
    let inverted : Value := .label .primary (.text "f") ⟨9, 6⟩ ""
    let items := [token, mark, inverted]
    (∀ v ∈ items, Joinable v) ∧ (∃ v ∈ items, v ≠ .absent) ∧
      ∃ s, joinSpans items = pure s ∧ s = ⟨0, 6⟩ ∧ s.Encloses 5 ∧ ¬s.Encloses 9 ∧
        ∀ w ∈ items, ∀ c, w.span? = some c → c.stop < 9 := by
  intro token mark inverted items
  have joinable : ∀ v ∈ items, Joinable v := by
    simp only [items, List.forall_mem_cons]
    exact ⟨.located _ _ _, .span _, .label _ _ _ _, fun _ h => by cases h⟩
  have present : ∃ v ∈ items, v ≠ .absent := ⟨mark, by simp [items], by simp [mark]⟩
  obtain ⟨-, s, joined, lost⟩ := positions_lost joinable present
  have hull : s = ⟨0, 6⟩ := by
    have same : joinSpans items = pure ⟨0, 6⟩ := rfl
    cases congrArg Outcome.result (joined.symm.trans same)
    rfl
  have behind : ¬s.Encloses 9 := by
    rw [hull]
    decide
  have stops := (lost inverted (by simp [items]) ⟨9, 6⟩ rfl).2.1 behind
  exact ⟨joinable, present, s, joined, hull, by rw [hull]; decide, behind, stops⟩

/-- An inverted span behind another one. The union goes as far as its stop, and loses its start. -/
theorem union_loses_position :
    let a : Span := ⟨0, 4⟩
    let b : Span := ⟨9, 6⟩
    (a.isEmpty = false ∧ b.isEmpty = true) ∧
      (a.union b = ⟨0, 6⟩ ∧ ¬(a.union b).Encloses b.start) ∧
      ∃ s, joinSpans [.span a, .span b] = pure s ∧ ¬s.Encloses b.start := by
  intro a b
  exact ⟨by decide, by decide, ⟨0, 6⟩, rfl, by decide⟩

end Whereabouts
