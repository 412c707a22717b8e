import Mathlib.Algebra.GroupWithZero.Nat
import Whereabouts.Proofs.Span.Extraction
import Whereabouts.Proofs.Span.Intersection
import Whereabouts.Proofs.Span.Joining

/-!
# Tokens side by side

A lexer goes to the empty span right after the last token and moves its stop forward by the length
of the next one. The tokens that it cuts off in this way tile what they cover: they lie side by
side, each offset is in one of them, and their texts put together are the text of the whole. Tokens
of length zero are among them, and the source may end in front of the last ones.
-/
namespace Whereabouts.Span

/-- The tokens that are cut off behind a span, one of each length. -/
def tokens (s : Span) : List Nat → List Span
  | [] => []
  | n :: lengths =>
    let t := s.after.extended n
    t :: t.tokens lengths

variable {s t u : Span} {lengths : List Nat} {start x : Int} {α : Type u} {source : List α}

/-- A token starts where the one before it stops. -/
theorem tokens_cons (s : Span) (n : Nat) (lengths : List Nat) : s.tokens (n :: lengths) =
    ⟨s.stop, s.stop + n⟩ :: tokens ⟨s.stop, s.stop + n⟩ lengths := rfl

theorem length_of_stop_add (start : Int) (n : Nat) : (Span.mk start (start + n)).length = n := by
  change (start + n - start).toNat = n
  omega

theorem map_length_tokens (s : Span) (lengths : List Nat) :
    (s.tokens lengths).map length = lengths := by
  induction lengths generalizing s with
  | nil => rfl
  | cons n lengths ih => rw [tokens_cons, List.map_cons, length_of_stop_add, ih]

theorem stop_le_start_of_mem_tokens (h : t ∈ s.tokens lengths) : s.stop ≤ t.start := by
  induction lengths generalizing s with
  | nil => cases h
  | cons n lengths ih =>
    rw [tokens_cons, List.mem_cons] at h
    rcases h with rfl | later
    · exact Int.le_refl _
    · have behind : s.stop + n ≤ t.start := ih later
      omega

theorem tokens_pairwise (s : Span) (lengths : List Nat) :
    (s.tokens lengths).Pairwise fun t u => t.stop ≤ u.start := by
  induction lengths generalizing s with
  | nil => exact List.Pairwise.nil
  | cons n lengths ih => exact (ih _).cons fun u later => stop_le_start_of_mem_tokens later

theorem overlaps_eq_false_of_le (h : t.stop ≤ u.start) : t.overlaps u = false := by
  rw [overlaps, Option.isSome_eq_false_iff, Option.isNone_iff_eq_none, intersection?_eq_none_iff]
  rintro ⟨x, ht, hu⟩
  rw [mem_iff] at ht hu
  omega

/-- What has been joined so far grows by one token after another. -/
theorem foldl_union_tokens (h : start ≤ s.stop) :
    (s.tokens lengths).foldl union ⟨start, s.stop⟩ = ⟨start, s.stop + lengths.sum⟩ := by
  induction lengths generalizing s with
  | nil => exact congrArg (Span.mk start) (Int.add_zero _).symm
  | cons n lengths ih =>
    have grown : (Span.mk start s.stop).union ⟨s.stop, s.stop + n⟩ = ⟨start, s.stop + n⟩ :=
      eq_of_bounds (Int.min_eq_left h) (Int.max_eq_right (show s.stop ≤ s.stop + n by omega))
    have before : start ≤ (Span.mk s.stop (s.stop + n)).stop := by
      change start ≤ s.stop + n
      omega
    rw [tokens_cons, List.foldl_cons, grown]
    refine (ih before).trans (congrArg (Span.mk start) ?_)
    rw [List.sum_cons, Int.natCast_add, ← Int.add_assoc]

theorem joinSpans_tokens (s : Span) (h : lengths ≠ []) :
    joinSpans ((s.tokens lengths).map .span) = pure ⟨s.stop, s.stop + lengths.sum⟩ := by
  obtain ⟨n, rest, rfl⟩ := List.exists_cons_of_ne_nil h
  have first : s.stop ≤ (Span.mk s.stop (s.stop + n)).stop := by
    change s.stop ≤ s.stop + n
    omega
  have joined : _ = Span.mk s.stop (s.stop + n + rest.sum) := foldl_union_tokens first
  rw [joinSpans_eq_pure_iff (joinable_span _), filterMap_span?_map, tokens_cons, join?, joined, List.sum_cons,
    Int.natCast_add, ← Int.add_assoc]

/-- An offset is in one token or in none. -/
theorem countP_tokens (s : Span) (lengths : List Nat) (x : Int) :
    (s.tokens lengths).countP (·.contains x) =
      if x ∈ Span.mk s.stop (s.stop + lengths.sum) then 1 else 0 := by
  simp only [mem_iff]
  induction lengths generalizing s with
  | nil =>
    rw [if_neg (by simp only [List.sum_nil]; omega)]
    rfl
  | cons n lengths ih =>
    rw [tokens_cons, List.countP_cons, ih, List.sum_cons, Int.natCast_add]
    simp only [contains_iff, mem_iff]
    split <;> split <;> split <;> omega

theorem extract_append {a b c : Int} (ha : 0 ≤ a) (hab : a ≤ b) (hbc : b ≤ c) (source : List α) :
    (Span.mk a b).extract source ++ (Span.mk b c).extract source = (Span.mk a c).extract source := by
  have hb : 0 ≤ b := Int.le_trans ha hab
  have hc : 0 ≤ c := Int.le_trans hb hbc
  rw [extract_of_nonneg ha hb, extract_of_nonneg hb hc, extract_of_nonneg ha hc]
  have fromStart : (source.take c.toNat).drop b.toNat =
      ((source.take c.toNat).drop a.toNat).drop (b.toNat - a.toNat) := by
    rw [List.drop_drop]
    congr 1
    omega
  have upToMiddle : (source.take b.toNat).drop a.toNat =
      ((source.take c.toNat).drop a.toNat).take (b.toNat - a.toNat) := by
    rw [← List.drop_take, List.take_take]
    congr 2
    omega
  rw [upToMiddle, fromStart, List.take_append_drop]

theorem flatMap_extract_tokens (h : 0 ≤ s.stop) (lengths : List Nat) (source : List α) :
    (s.tokens lengths).flatMap (·.extract source) =
      (Span.mk s.stop (s.stop + lengths.sum)).extract source := by
  induction lengths generalizing s with
  | nil =>
    symm
    rw [List.sum_nil, Int.natCast_zero, Int.add_zero]
    exact extract_eq_nil_iff.2 (Nat.le_refl _)
  | cons n lengths ih =>
    have next : 0 ≤ (Span.mk s.stop (s.stop + n)).stop := by
      change 0 ≤ s.stop + n
      omega
    rw [tokens_cons, List.flatMap_cons, ih next, List.sum_cons, Int.natCast_add, ← Int.add_assoc]
    exact extract_append h (by omega) (by dsimp only; omega) source

theorem join_extractText_tokens (h : 0 ≤ s.stop) (lengths : List Nat) (source : String) :
    String.join ((s.tokens lengths).map (·.extractText source)) =
      (Span.mk s.stop (s.stop + lengths.sum)).extractText source := by
  rw [extractText, ← flatMap_extract_tokens h lengths, ← String.toList_inj, String.toList_join,
    String.toList_ofList, List.flatMap_map]
  simp only [extractText, String.toList_ofList]

/-- **Tokens tile their source.** The tokens that are cut off behind a span have the lengths asked
for and do not overlap. Joined they reach from the stop of the span over all the lengths, and every
offset there is in exactly one token. Behind a span that does not stop below zero their texts, and
bytes, put together are those of the whole, also where the source ends before. -/
theorem tokens_tile (s : Span) {lengths : List Nat} (cut : lengths ≠ []) :
    let ts := s.tokens lengths
    let whole : Span := ⟨s.stop, s.stop + lengths.sum⟩
    (ts.map length = lengths ∧ ts.Pairwise fun t u => t.overlaps u = false ∧ u.overlaps t = false) ∧
    (joinSpans (ts.map .span) = pure whole ∧ whole.length = (ts.map length).sum) ∧
    (∀ x, whole.contains x = true → ts.countP (·.contains x) = 1) ∧
    (0 ≤ s.stop →
      (∀ source : List UInt8, (ts.map (·.extract source)).flatten = whole.extract source) ∧
      ∀ source : String,
        String.join (ts.map (·.extractText source)) = whole.extractText source) := by
  intro ts whole
  refine ⟨⟨map_length_tokens s lengths, ?_⟩, ⟨joinSpans_tokens s cut, ?_⟩, ?_, fun h => ⟨?_, ?_⟩⟩
  · refine (tokens_pairwise s lengths).imp fun {t u} beside => ?_
    have apart := overlaps_eq_false_of_le beside
    exact ⟨apart, (overlaps_comm u t).trans apart⟩
  · rw [map_length_tokens]
    exact length_of_stop_add s.stop lengths.sum
  · intro x hx
    rw [countP_tokens, if_pos (contains_iff.1 hx)]
  · intro source
    exact List.flatMap_def.symm.trans (flatMap_extract_tokens h lengths source)
  · exact join_extractText_tokens h lengths

/-- Behind an inverted span, a token of length zero between two others, and a source that ends in
the last one. -/
theorem tokens_tile_pastEnd :
    let s : Span := ⟨9, 2⟩
    let lengths := [3, 0, 4]
    let ts := s.tokens lengths
    (lengths ≠ [] ∧ joinSpans (ts.map .span) = pure ⟨2, 9⟩) ∧
      (Span.contains ⟨2, 9⟩ 5 = true ∧ ts.countP (·.contains 5) = 1) ∧
      (0 ≤ s.stop ∧ String.join (ts.map (·.extractText "abcdef")) = "cdef") := by
  intro s lengths ts
  have cut : lengths ≠ [] := List.cons_ne_nil _ _
  have inside : Span.contains ⟨2, 9⟩ 5 = true := by decide
  have fromStart : 0 ≤ s.stop := by decide
  obtain ⟨-, ⟨joined, -⟩, once, extracts⟩ := tokens_tile s cut
  have text : (Span.mk 2 9).extractText "abcdef" = "cdef" := by decide
  exact ⟨⟨cut, joined⟩, ⟨inside, once 5 inside⟩, fromStart,
    ((extracts fromStart).2 "abcdef").trans text⟩

end Whereabouts.Span
