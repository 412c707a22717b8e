import Whereabouts.Proofs.Span.Union
import Whereabouts.Span.Extract

/-!
# What a span extracts

A span extracts what lies between the positions of its bounds in the source. Two bounds on the same
side of zero keep their order as positions. A bound below zero counts from the end of the source, so
that it can stand behind a bound that it is below: such a span is empty and can still extract
something. `extract_eq_nil_iff_of_isEmpty` says when it does.
-/
namespace Whereabouts

variable {n : Nat} {a b : Int}

theorem boundIn_of_nonneg (h : 0 ≤ a) : boundIn n a = min n a.toNat := by
  rw [boundIn, if_neg (Int.not_lt.2 h)]

theorem boundIn_of_neg (h : a < 0) : boundIn n a = (a + n).toNat := by
  rw [boundIn, if_pos h]
  omega

/-- Of two bounds the lower one stands behind the other exactly if it is counted from the end and
the other one from the start, and the source is long enough. -/
theorem boundIn_lt_boundIn_iff (h : b ≤ a) :
    boundIn n a < boundIn n b ↔ 0 ≤ a ∧ b < 0 ∧ a < b + n := by
  rcases Int.lt_or_le a 0 with negA | fromStart
  · have negB : b < 0 := by omega
    rw [boundIn_of_neg negA, boundIn_of_neg negB]
    omega
  · rw [boundIn_of_nonneg fromStart]
    rcases Int.lt_or_le b 0 with negB | posB
    · rw [boundIn_of_neg negB]
      omega
    · rw [boundIn_of_nonneg posB]
      omega

namespace Span

variable {α : Type u} {s : Span} {source : List α} {x : Int}

theorem extract_eq_nil_iff : s.extract source = [] ↔
    boundIn source.length s.stop ≤ boundIn source.length s.start := by
  rw [← List.length_eq_zero_iff, length_extract, Nat.sub_eq_zero_iff_le]

theorem extractText_eq_empty_iff {source : String} :
    s.extractText source = "" ↔ s.extract source.toList = [] :=
  String.ofList_eq_empty_iff

/-- Bounds that count from the start cut the source as they stand, also beyond its end. -/
theorem extract_of_nonneg (start : 0 ≤ s.start) (stop : 0 ≤ s.stop) (source : List α) :
    s.extract source = (source.take s.stop.toNat).drop s.start.toNat := by
  rw [extract, boundIn_of_nonneg start, boundIn_of_nonneg stop, Nat.min_comm _ s.stop.toNat,
    ← List.take_eq_take_min]
  rcases Nat.le_total s.start.toNat source.length with inside | outside
  · rw [Nat.min_eq_right inside]
  · rw [Nat.min_eq_left outside]
    have short : (source.take s.stop.toNat).length ≤ source.length := List.length_take_le' _ _
    rw [List.drop_eq_nil_of_le short, List.drop_eq_nil_of_le (Nat.le_trans short outside)]

theorem isEmpty_iff : s.isEmpty = true ↔ s.stop ≤ s.start := decide_eq_true_iff

theorem length_eq_zero_iff : s.length = 0 ↔ s.isEmpty = true := by
  rw [isEmpty_iff, length]
  omega

theorem not_mem_of_isEmpty (h : s.isEmpty = true) : x ∉ s := by
  rw [isEmpty_iff] at h
  rw [mem_iff]
  omega

theorem extract_eq_nil_iff_of_isEmpty (h : s.isEmpty = true) :
    s.extract source = [] ↔ ¬(0 ≤ s.start ∧ s.stop < 0 ∧ s.start < s.stop + source.length) := by
  rw [extract_eq_nil_iff, ← boundIn_lt_boundIn_iff (isEmpty_iff.1 h), Nat.not_lt]

/-- **What an empty span extracts.** It has no length and holds no offset, and extracts nothing
unless its start counts from the start of the source and its stop from the end, and the source
reaches further than both together. -/
theorem extract_of_isEmpty (h : s.isEmpty = true) :
    (s.length = 0 ∧ ∀ x, s.contains x = false) ∧
    (∀ source : List UInt8, s.extract source = [] ↔
      ¬(0 ≤ s.start ∧ s.stop < 0 ∧ s.start < s.stop + source.length)) ∧
    ∀ source : String, s.extractText source = "" ↔
      ¬(0 ≤ s.start ∧ s.stop < 0 ∧ s.start < s.stop + source.length) := by
  refine ⟨⟨length_eq_zero_iff.2 h, fun x => decide_eq_false (not_mem_of_isEmpty h)⟩,
    fun source => extract_eq_nil_iff_of_isEmpty h, fun source => ?_⟩
  rw [extractText_eq_empty_iff, extract_eq_nil_iff_of_isEmpty h, String.length_toList]

/-- Two characters from either end of a text: a fifth one between them is extracted. -/
theorem extract_of_isEmpty_crossed :
    let s : Span := ⟨2, -2⟩
    s.isEmpty = true ∧ s.length = 0 ∧ s.extractText "abcd" = "" ∧ s.extractText "abcde" ≠ "" := by
  intro s
  have empty : s.isEmpty = true := by decide
  obtain ⟨⟨length, -⟩, -, text⟩ := extract_of_isEmpty empty
  exact ⟨empty, length, (text "abcd").2 (by decide), fun none => (text "abcde").1 none (by decide)⟩

/-- A span whose stop was moved in front of the source holds nothing and extracts all but the last
character. -/
theorem extractText_retracted :
    let s : Span := (point 0).extended (-1)
    (s.isEmpty = true ∧ s.length = 0 ∧ ∀ x, s.contains x = false) ∧
      s.extractText "abc" = "ab" := by
  intro s
  have empty : s.isEmpty = true := by decide
  exact ⟨⟨empty, by decide, fun x => decide_eq_false (not_mem_of_isEmpty empty)⟩, by decide⟩

end Span
end Whereabouts
