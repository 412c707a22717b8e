import Whereabouts.Proofs.Equality.Equivalence
import Whereabouts.Proofs.Span.Intersection
import Whereabouts.Script.Locations

namespace Whereabouts.Location

variable {a b c i : Location} {operation : String}

theorem sameFile_refl (a : Location) : a.sameFile a = true := Value.beq_refl a.file

theorem sameFile_symm (keys : a.file.wellKeyed = true) (h : a.sameFile b = true) :
    b.sameFile a = true :=
  Value.beq_symm keys h

theorem sameFile_trans (hab : a.sameFile b = true) (hbc : b.sameFile c = true) :
    a.sameFile c = true :=
  Value.beq_trans hab hbc

theorem requireSameFile_of_sameFile (h : a.sameFile b = true) :
    a.requireSameFile b operation = pure () := by
  have equal : ¬(a.file != b.file) = true := by
    intro differ
    rw [bne, Bool.not_eq_true'] at differ
    rw [sameFile, differ] at h
    cases h
  rw [requireSameFile, if_neg equal]

theorem requireSameFile_of_differ (h : a.sameFile b = false) :
    a.requireSameFile b operation = .failAfter (.crossFile ⟨a.file, b.file, operation⟩)
      (.crossFile ⟨a.file, b.file, operation⟩) := by
  have differ : (a.file != b.file) = true := by
    rw [bne, Bool.not_eq_true']
    exact h
  rw [requireSameFile, if_pos differ]

/-- The outcome has no result exactly for two different files; the fault then names both of them
and what was to be done. -/
def RefusedAcrossFiles {α : Type} (a b : Location) (operation : String) (o : Outcome α) : Prop :=
  ∀ fault, o.result = .error fault ↔
    a.sameFile b = false ∧ fault = .crossFile ⟨a.file, b.file, operation⟩

theorem refusedAcrossFiles_require {α : Type} (a b : Location) (operation : String) (x : α) :
    RefusedAcrossFiles a b operation do a.requireSameFile b operation; return x := by
  intro fault
  cases h : a.sameFile b with
  | true =>
    rw [requireSameFile_of_sameFile h]
    constructor
    · intro refused; cases refused
    · rintro ⟨differ, -⟩; cases differ
  | false =>
    rw [requireSameFile_of_differ h]
    constructor
    · intro refused; cases refused; exact ⟨rfl, rfl⟩
    · rintro ⟨-, rfl⟩; rfl

theorem union_refusedAcrossFiles (a b : Location) :
    RefusedAcrossFiles a b "union" (a.union b) :=
  refusedAcrossFiles_require a b "union" _

theorem covers_refusedAcrossFiles (a b : Location) :
    RefusedAcrossFiles a b "contains" (a.covers b) :=
  refusedAcrossFiles_require a b "contains" _

theorem union_toValue_refusedAcrossFiles (a b : Location) :
    RefusedAcrossFiles a b "union" (a.toValue.union b.toValue) := by
  have run : a.toValue.union b.toValue = do
      a.requireSameFile b "union"
      return (Location.mk a.file (a.span.union b.span)).toValue := by
    rw [toValue, toValue, Value.union, union]
    simp only [bind_assoc, pure_bind]
  rw [run]
  exact refusedAcrossFiles_require a b "union" _

theorem union_of_sameFile (h : a.sameFile b = true) :
    a.union b = pure ⟨a.file, a.span.union b.span⟩ := by
  rw [union, requireSameFile_of_sameFile h, Outcome.pure_bind]

theorem covers_of_sameFile (h : a.sameFile b = true) :
    a.covers b = pure (a.span.covers b.span) := by
  rw [covers, requireSameFile_of_sameFile h, Outcome.pure_bind]

/-- Covering holds in one file only, and there for the spans. -/
theorem covers_eq_true_iff :
    a.covers b = pure true ↔ a.sameFile b = true ∧ a.span.covers b.span = true := by
  cases h : a.sameFile b with
  | true =>
    rw [covers_of_sameFile h]
    constructor
    · intro holds
      have result := congrArg Outcome.result holds
      cases hc : a.span.covers b.span with
      | true => exact ⟨rfl, rfl⟩
      | false => rw [hc] at result; cases result
    · rintro ⟨-, holds⟩
      rw [holds]
  | false =>
    constructor
    · intro holds
      have refused := (covers_refusedAcrossFiles a b _).2 ⟨h, rfl⟩
      rw [holds] at refused
      cases refused
    · rintro ⟨one, -⟩; cases one

/-- The union is the least location in the file that covers both. -/
theorem union_least (h : a.sameFile b = true) : ∃ u, a.union b = pure u ∧
    a.toValue.union b.toValue = pure u.toValue ∧ u.file = a.file ∧
    (u.covers a = pure true ∧ u.covers b = pure true) ∧
    ∀ c : Location, c.covers a = pure true → c.covers b = pure true →
      c.covers u = pure true := by
  let u : Location := ⟨a.file, a.span.union b.span⟩
  have made : a.union b = pure u := union_of_sameFile h
  have both := Span.union_covers a.span b.span
  refine ⟨u, made, ?_, rfl, ⟨?_, ?_⟩, ?_⟩
  · have lifted : a.toValue.union b.toValue = do return (← a.union b).toValue := rfl
    rw [lifted, made, Outcome.pure_bind]
  · exact covers_eq_true_iff.2 ⟨sameFile_refl a, both.1⟩
  · exact covers_eq_true_iff.2 ⟨h, both.2⟩
  · intro c hca hcb
    obtain ⟨one, spanA⟩ := covers_eq_true_iff.1 hca
    have spanB := (covers_eq_true_iff.1 hcb).2
    exact covers_eq_true_iff.2 ⟨one, Span.covers_union_iff.2 ⟨spanA, spanB⟩⟩

theorem intersection?_eq_some_iff : a.intersection? b = some i ↔
    a.sameFile b = true ∧ ∃ s, a.span.intersection? b.span = some s ∧ i = ⟨a.file, s⟩ := by
  rw [intersection?]
  split
  · rename_i one
    rw [Option.map_eq_some_iff]
    constructor
    · rintro ⟨s, hs, rfl⟩; exact ⟨one, s, hs, rfl⟩
    · rintro ⟨-, s, hs, rfl⟩; exact ⟨s, hs, rfl⟩
  · rename_i two
    constructor
    · intro h; cases h
    · rintro ⟨one, -⟩; exact absurd one two

theorem overlaps_iff :
    a.overlaps b = true ↔ a.sameFile b = true ∧ ∃ x, x ∈ a.span ∧ x ∈ b.span := by
  rw [overlaps, Bool.and_eq_true, Span.overlaps, Span.isSome_intersection?_iff]

theorem overlaps_iff_intersection? : a.overlaps b = true ↔ (a.intersection? b).isSome = true := by
  rw [overlaps, Bool.and_eq_true, Span.overlaps, Option.isSome_iff_exists,
    Option.isSome_iff_exists]
  simp only [intersection?_eq_some_iff]
  constructor
  · rintro ⟨one, s, hs⟩; exact ⟨_, one, s, hs, rfl⟩
  · rintro ⟨_, one, s, hs, _⟩; exact ⟨one, s, hs⟩

/-- What two locations have in common is covered by both. The file comes from the first one, so the
second covers it by symmetry. -/
theorem covers_intersection? (keys : a.file.wellKeyed = true) (h : a.intersection? b = some i) :
    i.file = a.file ∧ i.span.isEmpty = false ∧ a.covers i = pure true ∧ b.covers i = pure true := by
  obtain ⟨one, s, hs, rfl⟩ := intersection?_eq_some_iff.1 h
  have full := (Span.intersection?_eq_some_iff.1 hs).1
  have both := (Span.covers_intersection_iff full).2 ⟨s, hs, Span.covers_refl s⟩
  refine ⟨rfl, full, ?_, ?_⟩
  · exact covers_eq_true_iff.2 ⟨sameFile_refl a, both.1⟩
  · exact covers_eq_true_iff.2 ⟨sameFile_symm keys one, both.2⟩

theorem overlaps_of_covers (h : a.covers b = pure true) (full : b.span.isEmpty = false) :
    a.overlaps b = true := by
  obtain ⟨one, spans⟩ := covers_eq_true_iff.1 h
  have first := Span.start_mem full
  exact overlaps_iff.2 ⟨one, b.span.start, Span.mem_of_covers spans first, first⟩

section Operations

open Script

variable (vars : Bindings) (a b : Location)

theorem run_sameFile : (LocationOperation.sameFile (.constant a.toValue)
    (.constant b.toValue)).run vars = pure (.bool (a.sameFile b)) := rfl

theorem run_overlaps : (LocationOperation.overlaps (.constant a.toValue)
    (.constant b.toValue)).run vars = pure (.bool (a.overlaps b)) := rfl

theorem run_intersection : (LocationOperation.intersection (.constant a.toValue)
    (.constant b.toValue)).run vars = pure (.option toValue (a.intersection? b)) := rfl

end Operations

/-- **Locations are combined within one file only.** A union, also of the two as values, and a
comparison of bounds are refused exactly for two files, with both of them in the fault; the other
questions are always answered. Overlap and intersection tell whether there is a common offset in
one file. The union is the least location that covers both, the intersection is covered by both,
and what covers a location that is not empty overlaps it. -/
theorem file_safety {a b : Location} (keys : a.file.wellKeyed = true) :
    (RefusedAcrossFiles a b "union" (a.union b) ∧
      RefusedAcrossFiles a b "union" (a.toValue.union b.toValue) ∧
      RefusedAcrossFiles a b "contains" (a.covers b)) ∧
    (∀ vars, (Script.LocationOperation.sameFile (.constant a.toValue)
          (.constant b.toValue)).run vars = pure (.bool (a.sameFile b)) ∧
      (Script.LocationOperation.overlaps (.constant a.toValue)
          (.constant b.toValue)).run vars = pure (.bool (a.overlaps b)) ∧
      (Script.LocationOperation.intersection (.constant a.toValue)
          (.constant b.toValue)).run vars = pure (.option toValue (a.intersection? b))) ∧
    ((a.overlaps b = true ↔ (a.intersection? b).isSome = true) ∧
      (a.overlaps b = true ↔ a.sameFile b = true ∧
        ∃ x, a.span.contains x = true ∧ b.span.contains x = true)) ∧
    (a.sameFile b = true → ∃ u, a.union b = pure u ∧
      a.toValue.union b.toValue = pure u.toValue ∧ u.file = a.file ∧
      (u.covers a = pure true ∧ u.covers b = pure true) ∧
      ∀ c : Location, c.covers a = pure true → c.covers b = pure true →
        c.covers u = pure true) ∧
    (∀ i, a.intersection? b = some i → i.file = a.file ∧ i.span.isEmpty = false ∧
      a.covers i = pure true ∧ b.covers i = pure true) ∧
    (a.covers b = pure true → b.span.isEmpty = false → a.overlaps b = true) := by
  simp only [Span.contains_iff]
  refine ⟨⟨union_refusedAcrossFiles a b, union_toValue_refusedAcrossFiles a b,
    covers_refusedAcrossFiles a b⟩, fun vars => ⟨run_sameFile vars a b, run_overlaps vars a b,
    run_intersection vars a b⟩, ⟨overlaps_iff_intersection?, overlaps_iff⟩, union_least, ?_,
    overlaps_of_covers⟩
  intro i h
  exact covers_intersection? keys h

/-- Two files that are equal tables with their entries in different orders. -/
theorem file_safety_tables :
    let a : Location := ⟨.table [(.int 1, .text "x"), (.text "k", .absent)], ⟨0, 5⟩⟩
    let b : Location := ⟨.table [(.text "k", .absent), (.bool true, .text "x")], ⟨3, 5⟩⟩
    let i : Location := ⟨a.file, ⟨3, 5⟩⟩
    (a.file.wellKeyed = true ∧ a.sameFile b = true) ∧
      (∃ u, a.union b = pure u ∧ u.file = a.file ∧ u.covers b = pure true) ∧
      (a.intersection? b = some i ∧ b.covers i = pure true) ∧
      (a.covers b = pure true ∧ b.span.isEmpty = false) ∧ a.overlaps b = true := by
  intro a b i
  have keys : a.file.wellKeyed = true := by decide
  have one : a.sameFile b = true := by decide
  have common : a.intersection? b = some i :=
    intersection?_eq_some_iff.2 ⟨one, ⟨3, 5⟩, by decide, rfl⟩
  have covered : a.covers b = pure true := covers_eq_true_iff.2 ⟨one, by decide⟩
  have full : b.span.isEmpty = false := by decide
  obtain ⟨-, -, -, union, intersection, overlap⟩ := file_safety (b := b) keys
  obtain ⟨u, made, -, file, ⟨-, second⟩, -⟩ := union one
  exact ⟨⟨keys, one⟩, ⟨u, made, file, second⟩, ⟨common, (intersection i common).2.2.2⟩,
    ⟨covered, full⟩, overlap covered full⟩

end Whereabouts.Location
