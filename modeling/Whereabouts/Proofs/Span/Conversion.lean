import Whereabouts.Located.InPlace

namespace Whereabouts

/-- The values that stand for a span, each with that span. A truth value is no offset. -/
inductive StandsFor : Value → Span → Prop where
  | span (s : Span) : StandsFor (.span s) s
  | range (p : Progression) : p.step = 1 → StandsFor (.range p) ⟨p.start, p.stop⟩
  | offset (n : Int) : StandsFor (.int n) ⟨n, n⟩
  | pair (start stop : Int) : StandsFor (.tuple [.int start, .int stop]) ⟨start, stop⟩

/-- Why a value that stands for no span is refused. -/
inductive Refusal : Value → Fault → Prop where
  | stepped (p : Progression) : p.step ≠ 1 → Refusal (.range p) (.steppedRange p.step)
  | other (v : Value) : (∀ s, ¬StandsFor v s) → (∀ p, v ≠ .range p) → Refusal v (.notSpanLike v)

/-- A use of values as spans that agrees with the conversion: it returns for the same values, has
the faults and events of the conversion, and does the same with a value as with its span. -/
structure TakesSpanLike {α : Type} (use : Value → Outcome α) (v : Value) : Prop where
  returns_iff : (use v).Returns ↔ v.toSpan.Returns
  fault_iff : ∀ fault, (use v).result = .error fault ↔ v.toSpan.result = .error fault
  events : (use v).events = v.toSpan.events
  converted : ∀ s, v.toSpan.result = .ok s → use v = use (.span s)

variable {v : Value} {s : Span} {fault : Fault}

theorem toSpan_range_of_step {p : Progression} (h : p.step = 1) :
    (Value.range p).toSpan = pure ⟨p.start, p.stop⟩ := by
  rw [Value.toSpan, Progression.toSpan, Progression.span?, if_pos h]

theorem toSpan_range_of_ne {p : Progression} (h : p.step ≠ 1) :
    (Value.range p).toSpan = .fail (.steppedRange p.step) := by
  rw [Value.toSpan, Progression.toSpan, Progression.span?, if_neg h]

theorem StandsFor.toSpan (h : StandsFor v s) : v.toSpan = pure s := by
  cases h with
  | span | offset | pair => rfl
  | range p step => exact toSpan_range_of_step step

theorem Refusal.result (h : Refusal v fault) : v.toSpan.result = .error fault := by
  cases h with
  | stepped p step =>
    rw [toSpan_range_of_ne step]
    rfl
  | other v none noRange =>
    unfold Value.toSpan
    split
    · exact absurd (.span _) (none _)
    · exact absurd rfl (noRange _)
    · exact absurd (.offset _) (none _)
    · exact absurd (.pair _ _) (none _)
    · rfl

/-- Every value stands for a span or is refused. -/
theorem standsFor_or_refusal (v : Value) : (∃ s, StandsFor v s) ∨ ∃ fault, Refusal v fault := by
  by_cases stands : ∃ s, StandsFor v s
  · exact .inl stands
  · by_cases ranged : ∃ p, v = .range p
    · obtain ⟨p, rfl⟩ := ranged
      exact .inr ⟨_, .stepped p fun step => stands ⟨_, .range p step⟩⟩
    · exact .inr ⟨_, .other v (fun s h => stands ⟨s, h⟩) (fun p h => ranged ⟨p, h⟩)⟩

theorem toSpan_eq_ok_iff : v.toSpan.result = .ok s ↔ StandsFor v s := by
  constructor
  · intro h
    rcases standsFor_or_refusal v with ⟨t, stands⟩ | ⟨fault, refusal⟩
    · rw [stands.toSpan] at h
      cases h
      exact stands
    · rw [refusal.result] at h
      cases h
  · intro stands
    rw [stands.toSpan]
    rfl

theorem toSpan_eq_error_iff : v.toSpan.result = .error fault ↔ Refusal v fault := by
  constructor
  · intro h
    rcases standsFor_or_refusal v with ⟨s, stands⟩ | ⟨fault', refusal⟩
    · rw [stands.toSpan] at h
      cases h
    · rw [refusal.result] at h
      cases h
      exact refusal
  · exact Refusal.result

theorem toSpan_pair (s : Span) : s.pair.toSpan = pure s := rfl

theorem toSpan_ofSpan (s : Span) : (Progression.ofSpan s).toSpan = pure s := rfl

theorem takesSpanLike_of_bind {α : Type} {use : Value → Outcome α} (make : Span → α)
    (h : ∀ v, use v = do return make (← v.toSpan)) (v : Value) : TakesSpanLike use v := by
  constructor
  case returns_iff =>
    constructor
    · rintro ⟨a, ha⟩
      rw [h, Outcome.result_bind_eq_ok_iff] at ha
      obtain ⟨s, hs, -⟩ := ha
      exact ⟨s, hs⟩
    · rintro ⟨s, hs⟩
      refine ⟨make s, ?_⟩
      rw [h, Outcome.result_bind_eq_ok_iff]
      exact ⟨s, hs, rfl⟩
  case fault_iff =>
    intro fault
    rw [h, Outcome.result_bind]
    cases v.toSpan.result with
    | error fault' => constructor <;> intro h <;> cases h <;> rfl
    | ok s => constructor <;> intro h <;> cases h
  case events =>
    rw [h]
    obtain ⟨events, fault | s⟩ := v.toSpan
    · rfl
    · exact List.append_nil events
  case converted =>
    intro s hs
    rw [h, h, (toSpan_eq_ok_iff.1 hs).toSpan]
    rfl

theorem ofParts_takesSpanLike (file v : Value) : TakesSpanLike (Location.ofParts file) v :=
  takesSpanLike_of_bind (Location.mk file) (fun _ => rfl) v

theorem withSpan_takesSpanLike (l : Location) (v : Value) : TakesSpanLike l.withSpan v :=
  takesSpanLike_of_bind (Location.mk l.file) (fun _ => rfl) v

theorem extend_takesSpanLike (l : Location) (v : Value) : TakesSpanLike l.extend v :=
  takesSpanLike_of_bind (fun s => Location.mk l.file (l.span.union s)) (fun _ => rfl) v

/-- The span is converted twice on the way, the second time from what the first has given. -/
theorem replaced_setSpan (m : Located) (v : Value) : (Located.Edit.span v).run.replaced m = do
    return ⟨.span m.span, m.value, m.file, ← v.toSpan⟩ := by
  have run : (Located.Edit.span v).run m =
      ((Located.setSpan v m).1 >>= fun old => pure (.span old), (Located.setSpan v m).2) :=
    Changing.bind_pure (Located.setSpan v) Value.span m
  rw [Located.InPlace.replaced, run, Located.setSpan_fst, Located.setSpan_snd]
  simp only [bind_assoc, pure_bind]
  obtain ⟨events, fault | s⟩ := v.toSpan <;> rfl

theorem setSpan_takesSpanLike (m : Located) (v : Value) :
    TakesSpanLike (fun w => (Located.Edit.span w).run.replaced m) v :=
  takesSpanLike_of_bind (fun s => ⟨.span m.span, m.value, m.file, s⟩) (replaced_setSpan m) v

/-- **A value is taken for a span everywhere alike.** The conversion takes the values that stand
for a span, names in its refusal the step of a range and the kind and text of anything else, and
undoes every export of a span, inverted or not. A location that is made, moved or grown and a
located value whose span is replaced take the same values, refuse the others with the same faults,
and do with a value what they do with its span. -/
theorem conversion_laws (v file : Value) (l : Location) (m : Located) :
    ((∀ s, v.toSpan.result = .ok s ↔ StandsFor v s) ∧
      ∀ fault, v.toSpan.result = .error fault ↔ Refusal v fault) ∧
    ((∀ step, (Fault.steppedRange step).message =
        "cannot convert a range with step " ++ toString step ++ " to a span") ∧
      (Fault.notSpanLike v).message =
        "cannot convert " ++ v.kind.name ++ " to a span: " ++ v.debug) ∧
    (TakesSpanLike (Location.ofParts file) v ∧ TakesSpanLike l.withSpan v ∧
      TakesSpanLike l.extend v ∧
      TakesSpanLike (fun w => (Located.Edit.span w).run.replaced m) v) ∧
    ∀ s : Span, (Value.span s).toSpan = pure s ∧ s.pair.toSpan = pure s ∧
      (Value.range (.ofSpan s)).toSpan = pure s ∧ (Progression.ofSpan s).toSpan = pure s := by
  refine ⟨⟨fun s => toSpan_eq_ok_iff, fun fault => toSpan_eq_error_iff⟩,
    ⟨fun step => rfl, rfl⟩, ?_, ?_⟩
  · exact ⟨ofParts_takesSpanLike file v, withSpan_takesSpanLike l v, extend_takesSpanLike l v,
      setSpan_takesSpanLike m v⟩
  · intro s
    exact ⟨rfl, toSpan_pair s, toSpan_ofSpan s, toSpan_ofSpan s⟩

end Whereabouts
