import Whereabouts.Proofs.Span.Extraction
import Whereabouts.Proofs.Span.Intersection

namespace Whereabouts.Span

variable {α : Type u} {s outer inner : Span}

/-- The members of the source whose offsets the span contains, in their order. -/
def covered (s : Span) (source : List α) : List α :=
  (source.zipIdx.filter fun member => s.contains member.2).map Prod.fst

/-- The span as seen from the start of another one. -/
def relativeTo (inner outer : Span) : Span :=
  ⟨inner.start - outer.start, inner.stop - outer.start⟩

/-- The rest of a source from offset `i` on. Each bound that is still ahead comes nearer by one with
every member. -/
theorem map_filter_zipIdx (start : 0 ≤ s.start) (stop : 0 ≤ s.stop) (rest : List α) (i : Nat) :
    ((rest.zipIdx i).filter fun member => s.contains member.2).map Prod.fst =
      (rest.take (s.stop.toNat - i)).drop (s.start.toNat - i) := by
  induction rest generalizing i with
  | nil =>
    rw [List.take_nil, List.drop_nil]
    rfl
  | cons x xs ih =>
    have inside : s.contains i = true ↔ s.start.toNat ≤ i ∧ i < s.stop.toNat := by
      rw [contains_iff, mem_iff]
      omega
    rw [List.zipIdx_cons, List.filter_cons]
    dsimp only
    by_cases before : i < s.start.toNat
    · have later : s.start.toNat - i = s.start.toNat - (i + 1) + 1 := by omega
      have out : ¬s.contains i = true := by
        rw [inside]
        omega
      rw [if_neg out, ih, later, List.drop_take, List.drop_take, List.drop_succ_cons]
      congr 1
      omega
    · have reached : s.start.toNat - i = 0 ∧ s.start.toNat - (i + 1) = 0 := by omega
      rw [reached.1, List.drop_zero]
      by_cases behind : s.stop.toNat ≤ i
      · have past : s.stop.toNat - i = 0 ∧ s.stop.toNat - (i + 1) = 0 := by omega
        have out : ¬s.contains i = true := by
          rw [inside]
          omega
        rw [if_neg out, ih, past.1, past.2, List.take_zero, List.take_zero, List.drop_nil]
      · have more : s.stop.toNat - i = s.stop.toNat - (i + 1) + 1 := by omega
        have within : s.contains i = true := by
          rw [inside]
          omega
        rw [if_pos within, List.map_cons, ih, reached.2, List.drop_zero, more, List.take_succ_cons]

theorem extract_eq_covered (start : 0 ≤ s.start) (stop : 0 ≤ s.stop) (source : List α) :
    s.extract source = s.covered source := by
  rw [extract_of_nonneg start stop, covered, map_filter_zipIdx start stop]
  rfl

theorem length_extract_of_nonneg (start : 0 ≤ s.start) (stop : 0 ≤ s.stop) (source : List α) :
    (s.extract source).length = ((s.intersection? ⟨0, source.length⟩).map length).getD 0 := by
  rw [length_extract, boundIn_of_nonneg start, boundIn_of_nonneg stop, intersection?]
  dsimp only
  split
  · rename_i common
    simp only [Option.map_some, Option.getD_some, length]
    omega
  · simp only [Option.map_none, Option.getD_none]
    omega

theorem extract_relativeTo (start : 0 ≤ outer.start) (within : outer.covers inner = true)
    (ordered : inner.start ≤ inner.stop) (source : List α) :
    (inner.relativeTo outer).extract (outer.extract source) = inner.extract source := by
  rw [covers_iff] at within
  have outerStop : 0 ≤ outer.stop := by omega
  have innerStart : 0 ≤ inner.start := by omega
  have innerStop : 0 ≤ inner.stop := by omega
  have relative : 0 ≤ inner.start - outer.start ∧ 0 ≤ inner.stop - outer.start := by omega
  have stops : min (outer.start.toNat + (inner.stop - outer.start).toNat) outer.stop.toNat =
      inner.stop.toNat := by omega
  have starts : outer.start.toNat + (inner.start - outer.start).toNat = inner.start.toNat := by
    omega
  rw [relativeTo, extract_of_nonneg relative.1 relative.2, extract_of_nonneg start outerStop,
    extract_of_nonneg innerStart innerStop]
  rw [List.take_drop, List.take_take, stops, List.drop_drop, starts]

theorem toList_extractText (s : Span) (source : String) :
    (s.extractText source).toList = s.extract source.toList := by
  rw [extractText, String.toList_ofList]

/-- **A span extracts what it covers, and extracts in steps.** The bounds of a span that count from
the start of a source may lie beyond its end or the wrong way round: what is extracted are the
members, or characters, at the offsets that the span contains, in their order, and as many as the
offsets that it has in common with the whole source. An inner span, as seen from the start of an
outer one, extracts from what the outer span has extracted the same as from the source. -/
theorem extraction_laws (s outer inner : Span) :
    (0 ≤ s.start → 0 ≤ s.stop →
      (∀ source : List UInt8, s.extract source = s.covered source ∧
        (s.extract source).length = ((s.intersection? ⟨0, source.length⟩).map length).getD 0) ∧
      ∀ source : String, (s.extractText source).toList = s.covered source.toList ∧
        (s.extractText source).length =
          ((s.intersection? ⟨0, source.length⟩).map length).getD 0) ∧
    (0 ≤ outer.start → outer.start ≤ inner.start → inner.start ≤ inner.stop →
        inner.stop ≤ outer.stop →
      (∀ source : List UInt8,
        (inner.relativeTo outer).extract (outer.extract source) = inner.extract source) ∧
      ∀ source : String,
        (inner.relativeTo outer).extractText (outer.extractText source) =
          inner.extractText source) := by
  constructor
  · intro start stop
    refine ⟨fun source => ⟨?_, ?_⟩, fun source => ⟨?_, ?_⟩⟩
    · exact extract_eq_covered start stop source
    · exact length_extract_of_nonneg start stop source
    · rw [toList_extractText, extract_eq_covered start stop]
    · rw [← String.length_toList, toList_extractText, length_extract_of_nonneg start stop,
        String.length_toList]
  · intro start starts ordered stops
    have within : outer.covers inner = true := covers_iff.2 ⟨starts, stops⟩
    constructor
    · intro source
      exact extract_relativeTo start within ordered source
    · intro source
      rw [← String.toList_inj, toList_extractText, toList_extractText, toList_extractText]
      exact extract_relativeTo start within ordered source.toList

/-- A span that reaches beyond its text, an inverted one, and two that lie in each other and both
reach beyond their text. -/
theorem extraction_laws_clipped :
    let s : Span := ⟨2, 9⟩
    let inverted : Span := ⟨3, 1⟩
    let outer : Span := ⟨1, 8⟩
    let inner : Span := ⟨2, 7⟩
    (0 ≤ s.start ∧ 0 ≤ s.stop ∧ (s.extractText "(abc").toList = ['b', 'c'] ∧
      (s.extractText "(abc").length = 2) ∧
    (0 ≤ inverted.start ∧ 0 ≤ inverted.stop ∧ (inverted.extractText "(abc").toList = []) ∧
    (0 ≤ outer.start ∧ outer.start ≤ inner.start ∧ inner.start ≤ inner.stop ∧
      inner.stop ≤ outer.stop ∧
      (inner.relativeTo outer).extractText (outer.extractText "((abc") = inner.extractText "((abc" ∧
      inner.extractText "((abc" = "abc") := by
  intro s inverted outer inner
  have starts : 0 ≤ s.start ∧ 0 ≤ inverted.start ∧ 0 ≤ outer.start := by decide
  have stops : 0 ≤ s.stop ∧ 0 ≤ inverted.stop := by decide
  have nested : outer.start ≤ inner.start ∧ inner.start ≤ inner.stop ∧ inner.stop ≤ outer.stop := by
    decide
  obtain ⟨reached, inSteps⟩ := extraction_laws s outer inner
  obtain ⟨crossed, -⟩ := extraction_laws inverted outer inner
  obtain ⟨members, length⟩ := (reached starts.1 stops.1).2 "(abc"
  have none := ((crossed starts.2.1 stops.2).2 "(abc").1
  have two := inSteps starts.2.2 nested.1 nested.2.1 nested.2.2
  exact ⟨⟨starts.1, stops.1, members.trans (by decide), length.trans (by decide)⟩,
    ⟨starts.2.1, stops.2, none.trans (by decide)⟩,
    starts.2.2, nested.1, nested.2.1, nested.2.2, two.2 "((abc", by decide⟩

end Whereabouts.Span
