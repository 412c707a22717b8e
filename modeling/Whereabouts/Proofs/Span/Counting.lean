import Whereabouts.Progression
import Whereabouts.Proofs.Span.Extraction
import Whereabouts.Proofs.Span.Intersection
import Whereabouts.Script.Spans

/-!
# Counting offsets

Going through a span gives each of its offsets once and in ascending order, so that two lists of
offsets have the same length as soon as they hold the same ones. What a span holds is therefore
counted within any span around it (`countP_offsets`).

Two spans and their intersection are counted within their union. An offset there is in both spans,
in one of them or in neither, which `length_union` balances. Spans that overlap leave nothing
between them, and spans that do not overlap have nothing in common.
-/
namespace Whereabouts

/-- The integer that a value is, if it is one. A truth value is zero or one. -/
def Value.integer? : Value → Option Int
  | .int n => some n
  | .bool b => some (if b then 1 else 0)
  | _ => none

namespace Span

variable {a b s whole : Span}

/-- The offsets that the union of two spans holds and neither of them does. -/
def between (a b : Span) : List Int :=
  (a.union b).offsets.filter fun x => !(a.contains x || b.contains x)

theorem offsets_pairwise (s : Span) : s.offsets.Pairwise (· < ·) := by
  unfold offsets
  rw [List.pairwise_map]
  apply List.pairwise_lt_range.imp
  intro i j before
  omega

theorem offsets_eq_terms (s : Span) : s.offsets = (Progression.ofSpan s).terms := by
  have count : (Progression.ofSpan s).count = s.length := by
    have one : 0 < (Progression.ofSpan s).step := Int.one_pos
    unfold Progression.count length
    rw [if_pos one]
    dsimp only [Progression.ofSpan]
    omega
  unfold offsets Progression.terms
  rw [count]
  apply List.map_congr_left
  intro i _
  exact congrArg (s.start + ·) (Int.mul_one i).symm

theorem offsets_eq_nil_iff : s.offsets = [] ↔ s.isEmpty = true := by
  rw [← List.length_eq_zero_iff, length_offsets, length_eq_zero_iff]

theorem spanHolds_iff (s : Span) (v : Value) :
    Script.spanHolds s v = true ↔ ∃ x ∈ s.offsets, v.integer? = some x := by
  have held (n : Int) : s.contains n = true ↔ ∃ x ∈ s.offsets, some n = some x := by
    simp only [contains_iff, mem_offsets, Option.some.injEq, exists_eq_right']
  cases v with
  | int n => exact held n
  | bool b => exact held _
  | _ => simp only [Script.spanHolds, Value.integer?, Bool.false_eq_true, reduceCtorEq, and_false,
      exists_false]

/-- Whatever picks the offsets of one span out of those of another picks as many as it has. -/
theorem countP_offsets {p : Int → Bool} (picks : ∀ x, x ∈ whole ∧ p x = true ↔ x ∈ s) :
    whole.offsets.countP p = s.length := by
  have once (t : Span) : t.offsets.Nodup := (offsets_pairwise t).imp Int.ne_of_lt
  have picked : (whole.offsets.filter p).Perm s.offsets := by
    apply (List.perm_ext_iff_of_nodup ((once whole).sublist List.filter_sublist) (once s)).2
    intro x
    rw [List.mem_filter, mem_offsets, mem_offsets]
    exact picks x
  rw [List.countP_eq_length_filter, picked.length_eq, length_offsets]

theorem countP_contains (h : whole.covers s = true) :
    whole.offsets.countP s.contains = s.length := by
  apply countP_offsets
  intro x
  rw [contains_iff]
  exact and_iff_right_of_imp (mem_of_covers h)

/-- Two counts together miss what passes neither test and count twice what passes both. -/
theorem countP_add_countP {α : Type u} (p q : α → Bool) (xs : List α) :
    xs.countP p + xs.countP q + xs.countP (fun x => !(p x || q x)) =
      xs.length + xs.countP fun x => p x && q x := by
  induction xs with
  | nil => rfl
  | cons x xs ih =>
    simp only [List.countP_cons, List.length_cons]
    cases p x <;> cases q x <;>
      simp only [Bool.or_false, Bool.or_true, Bool.and_false, Bool.and_true, Bool.not_false,
        Bool.not_true, Bool.false_eq_true, ↓reduceIte] <;>
      omega

theorem countP_common (a b : Span) :
    (a.union b).offsets.countP (fun x => a.contains x && b.contains x) =
      ((a.intersection? b).map length).getD 0 := by
  cases common : a.intersection? b with
  | none =>
    have apart := intersection?_eq_none_iff.1 common
    rw [Option.map_none, Option.getD_none, List.countP_eq_zero]
    intro x _ both
    rw [Bool.and_eq_true, contains_iff, contains_iff] at both
    exact apart ⟨x, both⟩
  | some e =>
    have mem := (intersection?_eq_some_iff.1 common).2
    rw [Option.map_some, Option.getD_some]
    apply countP_offsets
    intro x
    rw [Bool.and_eq_true, contains_iff, contains_iff, mem x]
    exact and_iff_right_of_imp fun both => mem_union (.inl both.1)

/-- **The lengths of two spans, their union and their intersection.** -/
theorem length_union (a b : Span) :
    (a.union b).length + ((a.intersection? b).map length).getD 0 =
      a.length + b.length + (a.between b).length := by
  have balance := countP_add_countP a.contains b.contains (a.union b).offsets
  have inA := countP_contains (union_covers a b).1
  have inB := countP_contains (union_covers a b).2
  rw [inA, inB, countP_common, length_offsets] at balance
  unfold between
  rw [← List.countP_eq_length_filter]
  exact balance.symm

/-- Where the union of overlapping spans reaches, one of them does, and it also holds what is on the
way from their common offset. -/
theorem between_eq_nil (h : a.overlaps b = true) : a.between b = [] := by
  obtain ⟨y, inA, inB⟩ := isSome_intersection?_iff.1 h
  apply List.filter_eq_nil_iff.2
  intro x within outside
  rw [mem_offsets, mem_iff] at within
  rw [mem_iff] at inA inB
  have apart : ¬(x ∈ a ∨ x ∈ b) := by
    rwa [Bool.not_eq_true', ← Bool.not_eq_true, Bool.or_eq_true, contains_iff, contains_iff]
      at outside
  rw [mem_iff, mem_iff] at apart
  unfold union at within
  dsimp only at within
  omega

/-- **Counting offsets.** Going through a span gives the terms of its range in ascending order. They
are the integers that it contains, as many as its length says, so that a span has length zero
exactly if it is empty and exactly if there is nothing to go through. Two spans that overlap have
together the length of their union and their intersection; otherwise the union has in addition what
lies between them. Neither span has to hold an offset for that. -/
theorem counting_laws (a b : Span) :
    (a.offsets = (Progression.ofSpan a).terms ∧
      ∀ limit, a.firstOffsets limit = a.offsets.take limit) ∧
    (a.offsets.Pairwise (· < ·) ∧ a.offsets.length = a.length ∧
      (∀ x, x ∈ a.offsets ↔ a.contains x = true) ∧
      ∀ v, Script.spanHolds a v = true ↔ ∃ x ∈ a.offsets, v.integer? = some x) ∧
    ((a.length = 0 ↔ a.isEmpty = true) ∧ (a.offsets = [] ↔ a.isEmpty = true)) ∧
    (a.overlaps b = true → ∃ e, a.intersection? b = some e ∧
      (a.union b).length + e.length = a.length + b.length) ∧
    (a.overlaps b = false →
      (a.union b).length = a.length + b.length + (a.between b).length) := by
  have balance := length_union a b
  refine ⟨⟨offsets_eq_terms a, firstOffsets_eq_take a⟩,
    ⟨offsets_pairwise a, length_offsets a, fun x => mem_offsets.trans contains_iff.symm,
      spanHolds_iff a⟩,
    ⟨length_eq_zero_iff, offsets_eq_nil_iff⟩, ?_, ?_⟩
  · intro overlapping
    obtain ⟨e, common⟩ := Option.isSome_iff_exists.1 overlapping
    rw [common, between_eq_nil overlapping] at balance
    exact ⟨e, common, balance⟩
  · intro apart
    have none : a.intersection? b = none := by
      unfold overlaps at apart
      rwa [Option.isSome_eq_false_iff, Option.isNone_iff_eq_none] at apart
    rw [none] at balance
    exact balance

/-- Two spans that share three offsets, and two with a gap of five around zero. -/
theorem counting_laws_gap :
    let a : Span := ⟨-6, -2⟩
    let b : Span := ⟨-5, 1⟩
    let c : Span := ⟨3, 4⟩
    (a.overlaps b = true ∧ ∃ e, a.intersection? b = some e ∧
      (a.union b).length + e.length = 4 + 6) ∧
    (a.overlaps c = false ∧ (a.union c).length = 4 + 1 + (a.between c).length ∧
      a.between c = [-2, -1, 0, 1, 2]) := by
  intro a b c
  have overlapping : a.overlaps b = true := by decide
  have apart : a.overlaps c = false := by decide
  obtain ⟨-, -, -, together, -⟩ := counting_laws a b
  obtain ⟨-, -, -, -, added⟩ := counting_laws a c
  exact ⟨⟨overlapping, together overlapping⟩, apart, added apart, by decide⟩

end Span
end Whereabouts
