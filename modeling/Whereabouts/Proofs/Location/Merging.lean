import Whereabouts.Proofs.Location.Files
import Whereabouts.Proofs.Span.Joining

/-!
# Merging locations

Locations in one file are merged by taking their union, and a location is grown by the spans that
values stand for. Neither the order nor the grouping of such steps makes a difference to the span;
the file is that of the location one starts from, so that turned round the result is equal and not
the same.

`foldlM_extend`: to grow a location by one value after another is to join its span with the spans
of all the values.
-/
namespace Whereabouts.Location

variable {a b c l m : Location} {v : Value} {vs ws : List Value} {fault : Fault}

theorem union_eq_ok_iff : (a.union b).result = .ok l ↔
    a.sameFile b = true ∧ l = ⟨a.file, a.span.union b.span⟩ := by
  cases h : a.sameFile b with
  | true =>
    rw [union_of_sameFile h]
    constructor
    · intro made; cases made; exact ⟨rfl, rfl⟩
    · rintro ⟨-, rfl⟩; rfl
  | false =>
    have refused := (union_refusedAcrossFiles a b _).2 ⟨h, rfl⟩
    rw [refused]
    constructor
    · intro made; cases made
    · rintro ⟨one, -⟩; cases one

theorem union_returns_iff : (a.union b).Returns ↔ a.sameFile b = true := by
  constructor
  · rintro ⟨l, made⟩; exact (union_eq_ok_iff.1 made).1
  · intro one; exact ⟨_, union_eq_ok_iff.2 ⟨one, rfl⟩⟩

theorem toValue_beq_iff :
    (l.toValue == m.toValue) = true ↔ l.sameFile m = true ∧ l.span = m.span := by
  have equal : (l.toValue == m.toValue) = (l.sameFile m && l.span == m.span) := by
    simp only [BEq.beq, toValue, sameFile, Value.settled, Value.same]
  rw [equal, Bool.and_eq_true, beq_iff_eq]

/-- Two locations have a union in both orders or in none, and the two unions are equal. -/
theorem union_turned (ka : a.file.wellKeyed = true) (kb : b.file.wellKeyed = true) :
    ((a.union b).Returns ↔ (b.union a).Returns) ∧
      ∀ l m, (a.union b).result = .ok l → (b.union a).result = .ok m →
        (l.toValue == m.toValue) = true := by
  constructor
  · rw [union_returns_iff, union_returns_iff]
    exact ⟨sameFile_symm ka, sameFile_symm kb⟩
  · intro l m hl hm
    obtain ⟨one, rfl⟩ := union_eq_ok_iff.1 hl
    obtain ⟨-, rfl⟩ := union_eq_ok_iff.1 hm
    exact toValue_beq_iff.2 ⟨one, Span.union_comm a.span b.span⟩

/-- The union of the first two is merged with the third. -/
theorem union_left_eq_ok_iff : (do (← a.union b).union c).result = .ok l ↔
    (a.sameFile b = true ∧ a.sameFile c = true) ∧
      l = ⟨a.file, (a.span.union b.span).union c.span⟩ := by
  rw [Outcome.result_bind_eq_ok_iff]
  simp only [union_eq_ok_iff]
  constructor
  · rintro ⟨m, ⟨hab, rfl⟩, hac, rfl⟩
    exact ⟨⟨hab, hac⟩, rfl⟩
  · rintro ⟨⟨hab, hac⟩, rfl⟩
    exact ⟨_, ⟨hab, rfl⟩, hac, rfl⟩

/-- The first is merged with the union of the other two. -/
theorem union_right_eq_ok_iff : (do a.union (← b.union c)).result = .ok l ↔
    (b.sameFile c = true ∧ a.sameFile b = true) ∧
      l = ⟨a.file, a.span.union (b.span.union c.span)⟩ := by
  rw [Outcome.result_bind_eq_ok_iff]
  simp only [union_eq_ok_iff]
  constructor
  · rintro ⟨m, ⟨hbc, rfl⟩, hab, rfl⟩
    exact ⟨⟨hbc, hab⟩, rfl⟩
  · rintro ⟨⟨hbc, hab⟩, rfl⟩
    exact ⟨_, ⟨hbc, rfl⟩, hab, rfl⟩

theorem extend_eq_union (a : Location) (v : Value) :
    a.extend v = (do a.union (← ofParts a.file v)) := by
  have grown (s : Span) : ofParts a.file (.span (a.span.union s)) = a.union ⟨a.file, s⟩ := by
    have one : a.sameFile ⟨a.file, s⟩ = true := sameFile_refl a
    rw [union_of_sameFile one]
    rfl
  rw [extend, ofParts]
  simp only [bind_assoc, pure_bind, grown]

theorem extend_eq_ok_iff : (a.extend v).result = .ok m ↔
    ∃ s, v.toSpan.result = .ok s ∧ m = ⟨a.file, a.span.union s⟩ := by
  rw [extend, Outcome.result_bind_eq_ok_iff]
  constructor
  · rintro ⟨s, hs, made⟩; cases made; exact ⟨s, hs, rfl⟩
  · rintro ⟨s, hs, rfl⟩; exact ⟨s, hs, rfl⟩

theorem foldlM_extend_cons_eq_ok_iff : ((v :: vs).foldlM extend a).result = .ok l ↔
    ∃ s, v.toSpan.result = .ok s ∧
      (vs.foldlM extend ⟨a.file, a.span.union s⟩).result = .ok l := by
  rw [List.foldlM_cons, Outcome.result_bind_eq_ok_iff]
  simp only [extend_eq_ok_iff]
  constructor
  · rintro ⟨m, ⟨s, hs, rfl⟩, rest⟩; exact ⟨s, hs, rest⟩
  · rintro ⟨s, hs, rest⟩; exact ⟨_, ⟨s, hs, rfl⟩, rest⟩

theorem foldlM_extend_returns_iff (a : Location) :
    (vs.foldlM extend a).Returns ↔ ∀ v ∈ vs, v.toSpan.Returns := by
  induction vs generalizing a with
  | nil =>
    constructor
    · intro _ v hv; cases hv
    · intro _; exact ⟨a, rfl⟩
  | cons v vs ih =>
    rw [List.forall_mem_cons]
    constructor
    · rintro ⟨l, grown⟩
      obtain ⟨s, hs, rest⟩ := foldlM_extend_cons_eq_ok_iff.1 grown
      exact ⟨⟨s, hs⟩, (ih _).1 ⟨l, rest⟩⟩
    · rintro ⟨⟨s, hs⟩, others⟩
      obtain ⟨l, rest⟩ := (ih ⟨a.file, a.span.union s⟩).2 others
      exact ⟨l, foldlM_extend_cons_eq_ok_iff.2 ⟨s, hs, rest⟩⟩

/-- The first value that stands for no span decides how the whole ends. -/
theorem foldlM_extend_eq_error {before after : List Value} (a : Location)
    (converts : ∀ w ∈ before, w.toSpan.Returns) (refused : v.toSpan.result = .error fault) :
    ((before ++ v :: after).foldlM extend a).result = .error fault := by
  induction before generalizing a with
  | nil =>
    rw [List.nil_append, List.foldlM_cons]
    apply Outcome.result_bind_of_error
    rw [extend]
    exact Outcome.result_bind_of_error refused _
  | cons w before ih =>
    obtain ⟨⟨s, hs⟩, others⟩ := List.forall_mem_cons.1 converts
    have grown : (a.extend w).result = .ok ⟨a.file, a.span.union s⟩ :=
      extend_eq_ok_iff.2 ⟨s, hs, rfl⟩
    rw [List.cons_append, List.foldlM_cons, Outcome.result_bind, grown]
    exact ih _ others

theorem joinSpans_cons (a : Location) (ss : List Span) :
    joinSpans (a.toValue :: ss.map .span) = pure (ss.foldl Span.union a.span) := by
  have first : a.toValue.span? = some a.span := rfl
  have joinable : ∀ v ∈ a.toValue :: ss.map Value.span, Joinable v :=
    List.forall_mem_cons.2 ⟨joinable_of_span? first, joinable_span ss⟩
  rw [joinSpans_eq_pure_iff joinable, List.filterMap_cons_some first, filterMap_span?_map]
  rfl

/-- **Growing a location step by step joins all spans at once.** The span that has been reached
takes the place of the first one. -/
theorem foldlM_extend (a : Location) (vs : List Value) : vs.foldlM extend a = do
    let ss ← vs.mapM Value.toSpan
    return ⟨a.file, ← joinSpans (a.toValue :: ss.map .span)⟩ := by
  simp only [joinSpans_cons, pure_bind]
  induction vs generalizing a with
  | nil =>
    rw [List.mapM_nil, pure_bind]
    rfl
  | cons v vs ih =>
    rw [List.foldlM_cons, List.mapM_cons, extend]
    simp only [bind_assoc, pure_bind]
    congr 1
    funext s
    have grown : ofParts a.file (.span (a.span.union s)) = pure ⟨a.file, a.span.union s⟩ := rfl
    rw [grown, Outcome.pure_bind, ih]
    rfl

/-- The order of the values makes no difference to what a location grows to. -/
theorem foldlM_extend_perm (h : vs.Perm ws) (a : Location)
    (grown : (vs.foldlM extend a).result = .ok l) : (ws.foldlM extend a).result = .ok l := by
  induction h generalizing a with
  | nil => exact grown
  | cons v _ ih =>
    obtain ⟨s, hs, rest⟩ := foldlM_extend_cons_eq_ok_iff.1 grown
    exact foldlM_extend_cons_eq_ok_iff.2 ⟨s, hs, ih _ rest⟩
  | swap v w vs =>
    obtain ⟨t, ht, rest⟩ := foldlM_extend_cons_eq_ok_iff.1 grown
    obtain ⟨s, hs, rest⟩ := foldlM_extend_cons_eq_ok_iff.1 rest
    have turned : (a.span.union t).union s = (a.span.union s).union t := by
      rw [Span.union_assoc, Span.union_comm t, ← Span.union_assoc]
    refine foldlM_extend_cons_eq_ok_iff.2 ⟨s, hs, foldlM_extend_cons_eq_ok_iff.2 ⟨t, ht, ?_⟩⟩
    rw [← turned]
    exact rest
  | trans _ _ first second => exact second a (first a grown)

/-- **Merging hangs neither on order nor on grouping.** A union can be turned round, up to the file
that it carries. Three locations can be merged in either grouping exactly if they are in one file,
and then give the same location. To grow a location by a value is to merge it with the location
that the value makes in its file. A list of values can be taken in as long as every value converts,
and is otherwise refused for the first that does not; what comes of it is the join of all the
spans, in any order of the values. -/
theorem merging_laws {a b c : Location} (ka : a.file.wellKeyed = true)
    (kb : b.file.wellKeyed = true) :
    (((a.union b).Returns ↔ (b.union a).Returns) ∧
      ∀ l m, (a.union b).result = .ok l → (b.union a).result = .ok m →
        (l.toValue == m.toValue) = true) ∧
    (let left := (do (← a.union b).union c)
      let right := (do a.union (← b.union c))
      let oneFile := a.sameFile b = true ∧ b.sameFile c = true ∧ a.sameFile c = true
      (left.Returns ↔ oneFile) ∧ (right.Returns ↔ oneFile) ∧
        ∀ l m, left.result = .ok l → right.result = .ok m → l = m ∧ l.file = a.file) ∧
    (∀ v, a.extend v = (do a.union (← ofParts a.file v))) ∧
    ∀ vs : List Value,
      ((vs.foldlM extend a).Returns ↔ ∀ v ∈ vs, v.toSpan.Returns) ∧
      (∀ before v after fault, vs = before ++ v :: after → (∀ w ∈ before, w.toSpan.Returns) →
        v.toSpan.result = .error fault → (vs.foldlM extend a).result = .error fault) ∧
      vs.foldlM extend a = (do
        let ss ← vs.mapM Value.toSpan
        return ⟨a.file, ← joinSpans (a.toValue :: ss.map .span)⟩) ∧
      ∀ ws, vs.Perm ws →
        ∀ l, (vs.foldlM extend a).result = .ok l → (ws.foldlM extend a).result = .ok l := by
  refine ⟨union_turned ka kb, ⟨?_, ?_, ?_⟩, extend_eq_union a, fun vs => ⟨?_, ?_, ?_, ?_⟩⟩
  · constructor
    · rintro ⟨l, merged⟩
      obtain ⟨⟨hab, hac⟩, -⟩ := union_left_eq_ok_iff.1 merged
      exact ⟨hab, sameFile_trans (sameFile_symm ka hab) hac, hac⟩
    · rintro ⟨hab, -, hac⟩
      exact ⟨_, union_left_eq_ok_iff.2 ⟨⟨hab, hac⟩, rfl⟩⟩
  · constructor
    · rintro ⟨l, merged⟩
      obtain ⟨⟨hbc, hab⟩, -⟩ := union_right_eq_ok_iff.1 merged
      exact ⟨hab, hbc, sameFile_trans hab hbc⟩
    · rintro ⟨hab, hbc, -⟩
      exact ⟨_, union_right_eq_ok_iff.2 ⟨⟨hbc, hab⟩, rfl⟩⟩
  · intro l m left right
    obtain ⟨-, rfl⟩ := union_left_eq_ok_iff.1 left
    obtain ⟨-, rfl⟩ := union_right_eq_ok_iff.1 right
    exact ⟨congrArg (Location.mk a.file) (Span.union_assoc a.span b.span c.span), rfl⟩
  · exact foldlM_extend_returns_iff a
  · rintro before v after fault rfl converts refused
    exact foldlM_extend_eq_error a converts refused
  · exact foldlM_extend a vs
  · intro ws perm l grown
    exact foldlM_extend_perm perm a grown

/-- Files that are equal and not the same, one span inverted, and values of three kinds with a truth
value behind them. -/
theorem merging_laws_numbers :
    let a : Location := ⟨.tuple [.int 1], ⟨4, 6⟩⟩
    let b : Location := ⟨.tuple [.bool true], ⟨9, 2⟩⟩
    let ab : Location := ⟨a.file, ⟨4, 6⟩⟩
    let ba : Location := ⟨b.file, ⟨4, 6⟩⟩
    let vs : List Value := [.int 8, .tuple [.int 9, .int 3], .range (.ofSpan ⟨-2, 0⟩)]
    let refused : Value := .bool true
    let grown : Location := ⟨a.file, ⟨-2, 8⟩⟩
    (a.file.wellKeyed = true ∧ b.file.wellKeyed = true) ∧
      ((a.union b).result = .ok ab ∧ (b.union a).result = .ok ba ∧
        (ab.toValue == ba.toValue) = true) ∧
      ((vs.foldlM extend a).result = .ok grown ∧ vs.Perm vs.reverse ∧
        (vs.reverse.foldlM extend a).result = .ok grown) ∧
      ((vs ++ refused :: [.absent]).foldlM extend a).result = .error (.notSpanLike refused) := by
  intro a b ab ba vs refused grown
  have ka : a.file.wellKeyed = true := by decide
  have kb : b.file.wellKeyed = true := by decide
  have hab : (a.union b).result = .ok ab := rfl
  have hba : (b.union a).result = .ok ba := rfl
  have grows : (vs.foldlM extend a).result = .ok grown := rfl
  have perm : vs.Perm vs.reverse := (List.reverse_perm vs).symm
  obtain ⟨turned, -, -, growing⟩ := merging_laws (c := a) ka kb
  obtain ⟨returns, -, -, reordered⟩ := growing vs
  obtain ⟨-, firstRefused, -, -⟩ := growing (vs ++ refused :: [.absent])
  have converts := returns.1 ⟨grown, grows⟩
  exact ⟨⟨ka, kb⟩, ⟨hab, hba, turned.2 ab ba hab hba⟩,
    ⟨grows, perm, reordered vs.reverse perm grown grows⟩,
    firstRefused vs refused [.absent] _ rfl converts rfl⟩

end Whereabouts.Location
