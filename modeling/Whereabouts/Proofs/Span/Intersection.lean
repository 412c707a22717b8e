import Whereabouts.Proofs.Span.Union
import Whereabouts.Location.Combine

/-!
# The common offsets of spans

`intersection?_eq_some_iff` says what an intersection is without its bounds: the span that is not
empty and holds exactly the common offsets. A span that is not empty is determined by its offsets,
so all laws of the intersection follow from that of `∧`, through an absent intersection on the way
as well.
-/
namespace Whereabouts.Span

variable {a b c d e : Span} {x : Int}

theorem eq_of_mem_iff (ha : a.isEmpty = false) (hb : b.isEmpty = false)
    (h : ∀ x, x ∈ a ↔ x ∈ b) : a = b :=
  covers_antisymm ((covers_iff_forall_mem hb).2 fun x => (h x).2)
    ((covers_iff_forall_mem ha).2 fun x => (h x).1)

theorem isEmpty_eq_false_of_mem (h : x ∈ a) : a.isEmpty = false := by
  rw [mem_iff] at h
  rw [isEmpty_eq_false_iff]
  omega

/-- The bounds that an intersection has hold exactly the common offsets, in any order. -/
theorem mem_common_iff :
    x ∈ Span.mk (max a.start b.start) (min a.stop b.stop) ↔ x ∈ a ∧ x ∈ b := by
  simp only [mem_iff, Int.max_le, Int.lt_min]
  constructor
  · rintro ⟨⟨ha, hb⟩, ha', hb'⟩; exact ⟨⟨ha, ha'⟩, hb, hb'⟩
  · rintro ⟨⟨ha, ha'⟩, hb, hb'⟩; exact ⟨⟨ha, hb⟩, ha', hb'⟩

/-- **What an intersection is.** -/
theorem intersection?_eq_some_iff :
    a.intersection? b = some e ↔ e.isEmpty = false ∧ ∀ x, x ∈ e ↔ x ∈ a ∧ x ∈ b := by
  let common : Span := ⟨max a.start b.start, min a.stop b.stop⟩
  have mem (x : Int) : x ∈ common ↔ x ∈ a ∧ x ∈ b := mem_common_iff
  simp only [intersection?]
  split
  · rename_i bounds
    have full : common.isEmpty = false := isEmpty_eq_false_iff.2 bounds
    constructor
    · intro h
      obtain rfl : common = e := Option.some.inj h
      exact ⟨full, mem⟩
    · rintro ⟨he, h⟩
      exact congrArg some (eq_of_mem_iff full he fun x => (mem x).trans (h x).symm)
  · rename_i bounds
    constructor
    · intro h; cases h
    · rintro ⟨he, h⟩
      have first := (mem _).2 ((h _).1 (start_mem he))
      exact absurd (isEmpty_eq_false_iff.1 (isEmpty_eq_false_of_mem first)) bounds

theorem exists_intersection? (ha : x ∈ a) (hb : x ∈ b) : ∃ e, a.intersection? b = some e :=
  have mem := mem_common_iff.2 ⟨ha, hb⟩
  ⟨_, intersection?_eq_some_iff.2 ⟨isEmpty_eq_false_of_mem mem, fun _ => mem_common_iff⟩⟩

theorem isSome_intersection?_iff : (a.intersection? b).isSome = true ↔ ∃ x, x ∈ a ∧ x ∈ b := by
  rw [Option.isSome_iff_exists]
  constructor
  · rintro ⟨e, h⟩
    rw [intersection?_eq_some_iff] at h
    exact ⟨e.start, (h.2 _).1 (start_mem h.1)⟩
  · rintro ⟨x, ha, hb⟩
    exact exists_intersection? ha hb

theorem intersection?_eq_none_iff : a.intersection? b = none ↔ ¬∃ x, x ∈ a ∧ x ∈ b := by
  rw [← isSome_intersection?_iff, Bool.not_eq_true, Option.isSome_eq_false_iff,
    Option.isNone_iff_eq_none]

theorem intersection?_comm (a b : Span) : a.intersection? b = b.intersection? a := by
  apply Option.ext
  intro e
  rw [intersection?_eq_some_iff, intersection?_eq_some_iff]
  refine and_congr_right fun _ => forall_congr' fun x => ?_
  rw [and_comm]

theorem overlaps_comm (a b : Span) : a.overlaps b = b.overlaps a := by
  rw [overlaps, overlaps, intersection?_comm]

/-- Two intersections in a row leave the offsets of all three spans. -/
theorem bind_intersection?_eq_some_iff :
    ((a.intersection? b).bind fun s => s.intersection? c) = some e ↔
      e.isEmpty = false ∧ ∀ x, x ∈ e ↔ x ∈ a ∧ x ∈ b ∧ x ∈ c := by
  rw [Option.bind_eq_some_iff]
  constructor
  · rintro ⟨s, hs, he⟩
    rw [intersection?_eq_some_iff] at hs he
    refine ⟨he.1, fun x => ?_⟩
    rw [he.2 x, hs.2 x, and_assoc]
  · rintro ⟨he, h⟩
    obtain ⟨ha, hb, -⟩ := (h _).1 (start_mem he)
    obtain ⟨s, hs⟩ := exists_intersection? ha hb
    refine ⟨s, hs, intersection?_eq_some_iff.2 ⟨he, fun x => ?_⟩⟩
    rw [h x, (intersection?_eq_some_iff.1 hs).2 x, and_assoc]

theorem intersection?_assoc (a b c : Span) :
    ((a.intersection? b).bind fun s => s.intersection? c) =
      (b.intersection? c).bind fun s => a.intersection? s := by
  have turned : (fun s => a.intersection? s) = fun s => s.intersection? a :=
    funext (intersection?_comm a)
  rw [turned]
  apply Option.ext
  intro e
  rw [bind_intersection?_eq_some_iff, bind_intersection?_eq_some_iff]
  refine and_congr_right fun _ => forall_congr' fun x => ?_
  rw [and_comm, and_assoc]

theorem covers_intersection_iff (hd : d.isEmpty = false) :
    (a.covers d = true ∧ b.covers d = true) ↔
      ∃ e, a.intersection? b = some e ∧ e.covers d = true := by
  simp only [covers_iff_forall_mem hd]
  constructor
  · rintro ⟨ha, hb⟩
    have first := start_mem hd
    obtain ⟨e, he⟩ := exists_intersection? (ha _ first) (hb _ first)
    refine ⟨e, he, fun x hx => ?_⟩
    exact ((intersection?_eq_some_iff.1 he).2 x).2 ⟨ha x hx, hb x hx⟩
  · rintro ⟨e, he, h⟩
    have mem := (intersection?_eq_some_iff.1 he).2
    exact ⟨fun x hx => ((mem x).1 (h x hx)).1, fun x hx => ((mem x).1 (h x hx)).2⟩

theorem intersection?_union (ha : a.isEmpty = false) (b : Span) :
    a.intersection? (a.union b) = some a := by
  refine intersection?_eq_some_iff.2 ⟨ha, fun x => ⟨fun hx => ⟨hx, mem_union (.inl hx)⟩, ?_⟩⟩
  exact fun h => h.1

theorem union_eq_of_intersection? (h : a.intersection? b = some e) : a.union e = a := by
  obtain ⟨he, mem⟩ := intersection?_eq_some_iff.1 h
  exact covers_iff_union_eq.1 ((covers_iff_forall_mem he).2 fun x hx => ((mem x).1 hx).1)

/-- The intersection of two span values is the span of their common offsets, or absent. -/
theorem intersection_span (a b : Span) :
    (Value.span a).intersection (.span b) = pure ((a.intersection? b).elim .absent .span) := by
  rw [Value.intersection]
  cases a.intersection? b <;> rfl

/-- **The intersection holds exactly the common offsets, and is a partial meet.** -/
theorem intersection_laws (a b c d : Span) :
    (a.intersection? b = none ↔ ¬∃ x, a.contains x = true ∧ b.contains x = true) ∧
    (∀ e, a.intersection? b = some e → e.isEmpty = false ∧
      ∀ x, e.contains x = true ↔ a.contains x = true ∧ b.contains x = true) ∧
    ((a.overlaps b = true ↔ ∃ x, a.contains x = true ∧ b.contains x = true) ∧
      a.overlaps b = b.overlaps a) ∧
    (d.isEmpty = false → ((a.covers d = true ∧ b.covers d = true) ↔
      ∃ e, a.intersection? b = some e ∧ e.covers d = true)) ∧
    (a.intersection? b = b.intersection? a ∧
      ((a.intersection? b).bind fun s => s.intersection? c) =
        (b.intersection? c).bind fun s => a.intersection? s) ∧
    (Value.span a).intersection (.span b) = pure ((a.intersection? b).elim .absent .span) ∧
    (a.isEmpty = false → a.intersection? (a.union b) = some a) ∧
    ∀ e, a.intersection? b = some e → a.union e = a := by
  simp only [contains_iff]
  refine ⟨intersection?_eq_none_iff, fun e h => intersection?_eq_some_iff.1 h,
    ⟨isSome_intersection?_iff, overlaps_comm a b⟩, covers_intersection_iff,
    ⟨intersection?_comm a b, intersection?_assoc a b c⟩, intersection_span a b, ?_, ?_⟩
  · intro ha
    exact intersection?_union ha b
  · intro e h
    exact union_eq_of_intersection? h

/-- Two spans that overlap in part, and one inside both. -/
theorem intersection_laws_overlap :
    let a : Span := ⟨-3, 4⟩
    let b : Span := ⟨1, 9⟩
    let d : Span := ⟨2, 4⟩
    (d.isEmpty = false ∧ a.covers d = true ∧ b.covers d = true) ∧
      (∃ e, a.intersection? b = some e ∧ e.covers d = true) ∧
      (a.intersection? b = some ⟨1, 4⟩ ∧ a.union ⟨1, 4⟩ = a) ∧
      a.isEmpty = false ∧ a.intersection? (a.union b) = some a := by
  intro a b d
  have hd : d.isEmpty = false := by decide
  have ha : a.isEmpty = false := by decide
  have covered : a.covers d = true ∧ b.covers d = true := by decide
  have common : a.intersection? b = some ⟨1, 4⟩ := by decide
  obtain ⟨-, -, -, meet, -, -, absorb, absorb'⟩ := intersection_laws a b a d
  exact ⟨⟨hd, covered⟩, (meet hd).1 covered, ⟨common, absorb' _ common⟩, ha, absorb ha⟩

end Whereabouts.Span
