import Whereabouts.Proofs.Span.Union
import Whereabouts.Span.Conversion

/-!
# Joining spans

A list of spans is joined from the first one on, so that no span is needed to start from. A span
covers the join exactly if it covers every span of the list (`covers_join?_iff`), which leaves no
room for the order of the list or for repetitions. The bounds of the join are the least start and
the greatest stop.

What is joined are values: each has a span, or is absent and is passed over.
-/
namespace Whereabouts

namespace Span

variable {a b c s : Span} {spans : List Span}

theorem eq_of_covers_iff (h : ∀ c : Span, c.covers a = true ↔ c.covers b = true) : a = b :=
  covers_antisymm ((h a).1 (covers_refl a)) ((h b).2 (covers_refl b))

/-- What covers all that has been joined so far covers the spans that come next as well. -/
theorem covers_foldl_union_iff : c.covers (spans.foldl union a) = true ↔
    c.covers a = true ∧ ∀ b ∈ spans, c.covers b = true := by
  induction spans generalizing a with
  | nil => simp only [List.foldl_nil, List.not_mem_nil, false_imp_iff, implies_true, and_true]
  | cons b spans ih => rw [List.foldl_cons, ih, covers_union_iff, List.forall_mem_cons, and_assoc]

theorem foldl_union_eq (a : Span) (spans : List Span) : spans.foldl union a =
    ⟨(spans.map start).foldl min a.start, (spans.map stop).foldl max a.stop⟩ := by
  induction spans generalizing a with
  | nil => rfl
  | cons b spans ih =>
    rw [List.foldl_cons, ih]
    rfl

theorem join?_eq_none_iff : join? spans = none ↔ spans = [] := by
  cases spans with
  | nil => exact ⟨fun _ => rfl, fun _ => rfl⟩
  | cons a spans =>
    constructor
    · intro h; cases h
    · intro h; cases h

theorem covers_join?_iff (h : join? spans = some s) :
    c.covers s = true ↔ ∀ b ∈ spans, c.covers b = true := by
  cases spans with
  | nil => cases h
  | cons a spans =>
    cases h
    rw [covers_foldl_union_iff, List.forall_mem_cons]

theorem bounds_join? (h : join? spans = some s) :
    (spans.map start).min? = some s.start ∧ (spans.map stop).max? = some s.stop := by
  cases spans with
  | nil => cases h
  | cons a spans =>
    cases h
    rw [foldl_union_eq]
    exact ⟨List.min?_cons', List.max?_cons'⟩

/-- Lists with the same members have the same join. -/
theorem join?_congr {spans' : List Span} (h : ∀ a, a ∈ spans ↔ a ∈ spans') :
    join? spans = join? spans' := by
  cases left : join? spans with
  | none =>
    obtain rfl := join?_eq_none_iff.1 left
    have none : spans' = [] := List.eq_nil_iff_forall_not_mem.2 fun a ha => by cases (h a).2 ha
    rw [none]
    rfl
  | some s =>
    cases right : join? spans' with
    | none =>
      obtain rfl := join?_eq_none_iff.1 right
      have none : spans = [] := List.eq_nil_iff_forall_not_mem.2 fun a ha => by cases (h a).1 ha
      rw [none] at left
      cases left
    | some t =>
      have same : s = t := eq_of_covers_iff fun c => by
        rw [covers_join?_iff left, covers_join?_iff right]
        simp only [h]
      rw [same]

theorem join?_append {spans' : List Span} {t : Span} (hs : join? spans = some s)
    (ht : join? spans' = some t) : join? (spans ++ spans') = some (s.union t) := by
  cases both : join? (spans ++ spans') with
  | none =>
    obtain ⟨rfl, -⟩ := List.append_eq_nil_iff.1 (join?_eq_none_iff.1 both)
    cases hs
  | some u =>
    have same : u = s.union t := eq_of_covers_iff fun c => by
      rw [covers_join?_iff both, covers_union_iff, covers_join?_iff hs, covers_join?_iff ht,
        List.forall_mem_append]
    rw [same]

end Span

/-- The values that can be joined: nothing at all, or something with a span. -/
inductive Joinable : Value → Prop where
  | absent : Joinable .absent
  | span (s : Span) : Joinable (.span s)
  | location (file : Value) (s : Span) : Joinable (.location file s)
  | located (value file : Value) (s : Span) : Joinable (.located value file s)
  | label (role : Label.Style) (file : Value) (s : Span) (message : String) :
      Joinable (.label role file s message)

/-- The span from the least start to the greatest stop of the items, which is the least one that
covers all their spans. -/
structure IsHull (items : List Value) (s : Span) : Prop where
  start : ((items.filterMap Value.span?).map Span.start).min? = some s.start
  stop : ((items.filterMap Value.span?).map Span.stop).max? = some s.stop
  covers_iff : ∀ c : Span,
    c.covers s = true ↔ ∀ v ∈ items, ∀ t, v.span? = some t → c.covers t = true

variable {items others : List Value} {v : Value} {s t : Span}

theorem Joinable.exists_span? (h : Joinable v) (present : v ≠ .absent) : ∃ s, v.span? = some s := by
  cases h with
  | absent => exact absurd rfl present
  | span s | location _ s | located _ _ s | label _ _ s => exact ⟨s, rfl⟩

theorem joinable_of_span? (h : v.span? = some s) : Joinable v := by
  cases v <;> simp only [Value.span?, reduceCtorEq] at h <;> constructor

theorem joinable_span (spans : List Span) : ∀ v ∈ spans.map Value.span, Joinable v := by
  intro v hv
  obtain ⟨s, -, rfl⟩ := List.mem_map.1 hv
  exact .span s

theorem spansOf_of_joinable (joinable : ∀ v ∈ items, Joinable v) :
    spansOf items = pure (items.filterMap Value.span?) := by
  induction items with
  | nil => rfl
  | cons v vs ih =>
    obtain ⟨hv, hvs⟩ := List.forall_mem_cons.1 joinable
    have rest := ih hvs
    cases hv with
    | absent => exact rest
    | span s | location _ s | located _ _ s | label _ _ s =>
      simp only [spansOf, Value.span?, rest, Outcome.pure_bind, List.filterMap_cons]

theorem joinSpans_of_joinable (joinable : ∀ v ∈ items, Joinable v) : joinSpans items =
    match Span.join? (items.filterMap Value.span?) with
    | some s => pure s
    | none => .fail .nothingToJoin := by
  unfold joinSpans
  rw [spansOf_of_joinable joinable]
  rfl

theorem joinSpans_eq_pure_iff (joinable : ∀ v ∈ items, Joinable v) :
    joinSpans items = pure s ↔ Span.join? (items.filterMap Value.span?) = some s := by
  rw [joinSpans_of_joinable joinable]
  cases Span.join? (items.filterMap Value.span?) with
  | none =>
    constructor
    · intro h; cases congrArg Outcome.result h
    · intro h; cases h
  | some t =>
    constructor
    · intro h; cases congrArg Outcome.result h; rfl
    · intro h; cases h; rfl

theorem filterMap_span?_map (spans : List Span) :
    (spans.map Value.span).filterMap Value.span? = spans := by
  have same : Value.span? ∘ Value.span = some := rfl
  rw [List.filterMap_map, same, List.filterMap_some]

theorem joinSpans_eq_fail_iff (joinable : ∀ v ∈ items, Joinable v) :
    joinSpans items = .fail .nothingToJoin ↔ ∀ v ∈ items, v.span? = none := by
  rw [← List.filterMap_eq_nil_iff, ← Span.join?_eq_none_iff, joinSpans_of_joinable joinable]
  cases Span.join? (items.filterMap Value.span?) with
  | none => exact ⟨fun _ => rfl, fun _ => rfl⟩
  | some t =>
    constructor
    · intro h; cases congrArg Outcome.result h
    · intro h; cases h

theorem exists_joinSpans (joinable : ∀ v ∈ items, Joinable v) (present : ∃ v ∈ items, v ≠ .absent) :
    ∃ s, joinSpans items = pure s := by
  obtain ⟨v, hv, some⟩ := present
  obtain ⟨t, ht⟩ := (joinable v hv).exists_span? some
  cases joined : Span.join? (items.filterMap Value.span?) with
  | none =>
    have none := List.filterMap_eq_nil_iff.1 (Span.join?_eq_none_iff.1 joined) v hv
    rw [none] at ht
    cases ht
  | some s => exact ⟨s, (joinSpans_eq_pure_iff joinable).2 joined⟩

theorem isHull_of_joinSpans (joinable : ∀ v ∈ items, Joinable v) (h : joinSpans items = pure s) :
    IsHull items s := by
  have joined := (joinSpans_eq_pure_iff joinable).1 h
  obtain ⟨start, stop⟩ := Span.bounds_join? joined
  refine ⟨start, stop, fun c => ?_⟩
  rw [Span.covers_join?_iff joined]
  simp only [List.mem_filterMap]
  constructor
  · intro all v hv t ht
    exact all t ⟨v, hv, ht⟩
  · rintro all t ⟨v, hv, ht⟩
    exact all v hv t ht

theorem joinSpans_congr (joinable : ∀ v ∈ items, Joinable v)
    (h : ∀ v, v ≠ .absent → (v ∈ others ↔ v ∈ items)) : joinSpans others = joinSpans items := by
  have present {v : Value} {s : Span} (hs : v.span? = some s) : v ≠ .absent := by
    rintro rfl
    cases hs
  have same (s : Span) :
      s ∈ others.filterMap Value.span? ↔ s ∈ items.filterMap Value.span? := by
    simp only [List.mem_filterMap]
    constructor
    · rintro ⟨v, hv, hs⟩; exact ⟨v, (h v (present hs)).1 hv, hs⟩
    · rintro ⟨v, hv, hs⟩; exact ⟨v, (h v (present hs)).2 hv, hs⟩
  have joinable' : ∀ v ∈ others, Joinable v := by
    intro v hv
    by_cases absent : v = .absent
    · rw [absent]; exact .absent
    · exact joinable v ((h v absent).1 hv)
  rw [joinSpans_of_joinable joinable, joinSpans_of_joinable joinable', Span.join?_congr same]

theorem joinSpans_append (joinable : ∀ v ∈ items, Joinable v)
    (joinable' : ∀ v ∈ others, Joinable v) (hs : joinSpans items = pure s)
    (ht : joinSpans others = pure t) : joinSpans (items ++ others) = pure (s.union t) := by
  have both : ∀ v ∈ items ++ others, Joinable v :=
    List.forall_mem_append.2 ⟨joinable, joinable'⟩
  rw [joinSpans_eq_pure_iff joinable] at hs
  rw [joinSpans_eq_pure_iff joinable'] at ht
  rw [joinSpans_eq_pure_iff both, List.filterMap_append]
  exact Span.join?_append hs ht

/-- **Spans are joined to their hull, in whatever order.** There is nothing to join if every item is
absent. Otherwise the join goes from the least start to the greatest stop, so that it keeps a single
span as it is, and is covered by exactly the spans that cover every item. It depends on what is
there alone, and not on the order of the items, on how often they occur, or on absent ones between
them. Two lists put together are joined to the union of their joins. -/
theorem joining_laws {items : List Value} (joinable : ∀ v ∈ items, Joinable v) :
    (joinSpans items = .fail .nothingToJoin ↔ ∀ v ∈ items, v = .absent) ∧
    ((∃ v ∈ items, v ≠ .absent) → ∃ s, joinSpans items = pure s ∧ IsHull items s) ∧
    (∀ v t, v.span? = some t → joinSpans [v] = pure t) ∧
    (∀ others, (∀ v, v ≠ .absent → (v ∈ others ↔ v ∈ items)) →
      joinSpans others = joinSpans items) ∧
    ∀ others, (∀ v ∈ others, Joinable v) → (∃ v ∈ items, v ≠ .absent) →
      (∃ v ∈ others, v ≠ .absent) →
      ∃ s t, joinSpans items = pure s ∧ joinSpans others = pure t ∧
        joinSpans (items ++ others) = pure (s.union t) := by
  refine ⟨?_, ?_, ?_, fun others => joinSpans_congr joinable, ?_⟩
  · rw [joinSpans_eq_fail_iff joinable]
    constructor
    · intro none v hv
      apply Classical.byContradiction
      intro present
      obtain ⟨s, hs⟩ := (joinable v hv).exists_span? present
      rw [none v hv] at hs
      cases hs
    · intro absent v hv
      rw [absent v hv]
      rfl
  · intro present
    obtain ⟨s, hs⟩ := exists_joinSpans joinable present
    exact ⟨s, hs, isHull_of_joinSpans joinable hs⟩
  · intro v t ht
    have joinable' : ∀ w ∈ [v], Joinable w := List.forall_mem_singleton.2 (joinable_of_span? ht)
    rw [joinSpans_eq_pure_iff joinable', List.filterMap_cons_some ht]
    rfl
  · intro others joinable' present present'
    obtain ⟨s, hs⟩ := exists_joinSpans joinable present
    obtain ⟨t, ht⟩ := exists_joinSpans joinable' present'
    exact ⟨s, t, hs, ht, joinSpans_append joinable joinable' hs ht⟩

/-- A token, nothing, an inverted span and a label are joined to what their positions span, and to
the same in another order with one of them twice. -/
theorem joining_laws_inverted :
    let token : Value := .located (.text "+") (.text "f") ⟨4, 5⟩
    let marker : Value := .span ⟨9, 2⟩
    let note : Value := .label .primary (.text "f") ⟨6, 7⟩ ""
    let items := [token, .absent, marker, note]
    let others := [note, marker, token, note]
    (∀ v ∈ items, Joinable v) ∧ (∃ v ∈ items, v ≠ .absent) ∧
      (∃ s, joinSpans items = pure s ∧ IsHull items s) ∧ joinSpans items = pure ⟨4, 7⟩ ∧
      (∀ v, v ≠ .absent → (v ∈ others ↔ v ∈ items)) ∧ joinSpans others = joinSpans items ∧
      joinSpans [marker] = pure ⟨9, 2⟩ ∧ (∀ v ∈ others, Joinable v) ∧
      (∃ v ∈ others, v ≠ .absent) ∧
      ∃ s t, joinSpans items = pure s ∧ joinSpans others = pure t ∧
        joinSpans (items ++ others) = pure (s.union t) := by
  intro token marker note items others
  have joinable : ∀ v ∈ items, Joinable v := by
    simp only [items, List.forall_mem_cons]
    exact ⟨.located _ _ _, .absent, .span _, .label _ _ _ _, fun _ h => by cases h⟩
  have joinable' : ∀ v ∈ others, Joinable v := by
    simp only [others, List.forall_mem_cons]
    exact ⟨.label _ _ _ _, .span _, .located _ _ _, .label _ _ _ _, fun _ h => by cases h⟩
  have some : marker ≠ .absent := by simp only [marker, ne_eq, reduceCtorEq, not_false_eq_true]
  have present : ∃ v ∈ items, v ≠ .absent := ⟨marker, by simp [items], some⟩
  have present' : ∃ v ∈ others, v ≠ .absent := ⟨marker, by simp [others], some⟩
  have alike : ∀ v, v ≠ .absent → (v ∈ others ↔ v ∈ items) := by
    intro v some
    simp only [items, others, List.mem_cons, List.not_mem_nil, or_false, some, false_or]
    grind
  obtain ⟨-, hull, single, congr, append⟩ := joining_laws joinable
  exact ⟨joinable, present, hull present, rfl, alike, congr others alike, single marker _ rfl,
    joinable', present', append others joinable' present present'⟩

end Whereabouts
