import Whereabouts.Proofs.Object.Writing
import Whereabouts.Proofs.Session.Acting

namespace Whereabouts

open Outcome

theorem Agrees.of_result {α β : Type} {R : Heap → β → α → Prop} {x : Changing Heap β}
    {o : Outcome α} {h : Heap} {b : β} (hx : Agrees R x o h) (ended : (x h).1.result = .ok b) :
    ∃ a, o.result = .ok a ∧ R (x h).2 b a := by
  have alike := hx.ended
  generalize (x h).2 = now at alike ⊢
  generalize o.result = answered at alike ⊢
  rw [ended] at alike
  cases alike with
  | ok related => exact ⟨_, rfl, related⟩

namespace Changing

variable {σ α β : Type}

/-- Whatever the computation results in has the property. -/
def Ensures (x : Changing σ α) (P : α → Prop) : Prop := ∀ s, (x s).1.Ensures P

theorem ensures_pure {P : α → Prop} {a : α} (h : P a) : (pure a : Changing σ α).Ensures P :=
  fun _ => Outcome.ensures_pure h

theorem ensures_bind {P : β → Prop} {x : Changing σ α} {f : α → Changing σ β}
    (h : ∀ a, (f a).Ensures P) : (x >>= f).Ensures P := by
  intro s b ended
  cases first : (x s).1.result with
  | error fault =>
    rw [bind_of_error first] at ended
    cases ended
  | ok a =>
    rw [bind_of_ok first] at ended
    exact h a (x s).2 b ended

end Changing

namespace Script

variable {s : Store} {h : Heap} {r : Ref} {c : Cell} {m : Located} {o : Object} {v : Value}

open Changing in
/-- A value makes a new located value, or none that stands for itself. -/
theorem located_of_ofValue (made : (Object.ofValue v h).1.result = .ok (.located r)) :
    h.length ≤ r := by
  have none (x : Changing Heap Object) (ensures : x.Ensures fun o => o ≠ .located r)
      (ended : (x h).1.result = .ok (.located r)) : h.length ≤ r :=
    absurd rfl (ensures h _ ended)
  cases v with
  | located value file span =>
    have agrees := Object.agrees_ofLocated (Nat.le_refl h.length) (Object.agrees_ofValue value)
      (Object.agrees_ofValue file) span
    obtain ⟨w, -, shown⟩ := agrees.of_result made
    exact shown.new
  | list | tuple | table | location | ok | err | stripped | label =>
    exact none _ (ensures_bind fun _ => ensures_pure Object.noConfusion) made
  | absent | bool | int | float | text | bytes | range | span | style =>
    exact none _ (ensures_pure Object.noConfusion) made

open Changing in
/-- A term gives a located value that was there already only if it is a variable. -/
theorem Term.located_of_make (t : Term) (grown : s.heap <+: h)
    (made : (t.make s h).1.result = .ok (.located r)) :
    h.length ≤ r ∨ ∃ x, t = .name x ∧ s.object? x = some (.located r) := by
  have none (x : Changing Heap Object) (ensures : x.Ensures fun o => o ≠ .located r)
      (ended : (x h).1.result = .ok (.located r)) :
      h.length ≤ r ∨ ∃ x, t = .name x ∧ s.object? x = some (.located r) :=
    absurd rfl (ensures h _ ended)
  cases t with
  | constant v => exact .inl (located_of_ofValue made)
  | name x =>
    refine .inr ⟨x, rfl, ?_⟩
    unfold make at made
    cases held : s.object? x with
    | none =>
      rw [held] at made
      cases shown : s.values.get? x <;> rw [shown] at made <;> cases made
    | some o =>
      rw [held] at made
      cases shown : s.values.get? x <;> rw [shown] at made <;> cases made
      rfl
  | located payload place =>
    have agrees := agrees_makeLocated (Nat.le_refl h.length) (agrees_make payload grown)
      fun _ grown' => agrees_make place (grown.trans grown')
    obtain ⟨w, -, shown⟩ := agrees.of_result made
    exact .inl shown.new
  | list | tuple | table | ok | err | stripped =>
    exact none _ (ensures_bind fun _ => ensures_pure Object.noConfusion) made
  | location | label =>
    exact none _ (ensures_bind fun _ => ensures_bind fun _ => ensures_bind fun _ =>
      ensures_pure Object.noConfusion) made

theorem EditTerm.agrees_make (edit : EditTerm) (grown : s.heap <+: h) :
    Agrees ShowsEdit (edit.make s) (edit.eval s.values) h := by
  cases edit with
  | value v => exact (v.agrees_make grown).map fun _ _ _ _ => .value
  | location l => exact (l.agrees_makePlace grown).map fun _ _ _ _ => .location
  | span spanLike => exact agrees_lift_bind fun v _ => agrees_pure h (.span v)
  | file v => exact (v.agrees_make grown).map fun _ _ _ _ => .file

/-- An assignment does to the cell what it does to the located value. -/
theorem writesTo_assign (hc : h[r]? = some c) (held : h.ShowsCell c m) (field : String)
    (shows : h.Shows o v) :
    WritesTo r (fun _ _ _ => True) (assignAt r field o) (assignIn field v) h m := by
  unfold assignAt assignIn
  by_cases toValue : field = "value"
  · rw [if_pos toValue, if_pos toValue]
    exact .of_eq (Heap.assignValue_eq hc o) rfl trivial ⟨shows, held.location⟩
  · rw [if_neg toValue, if_neg toValue]
    by_cases toLocation : field = "location"
    · rw [if_pos toLocation, if_pos toLocation]
      cases shows.form with
      | @location file f span inFile =>
        have ran := Heap.assignLocation_eq hc ⟨file, span⟩
        exact .of_eq ran rfl trivial ⟨held.value, inFile, rfl⟩
      | plain v undivided =>
        cases v <;> first | exact .of_fail hc held rfl rfl | cases undivided
      | _ => exact .of_fail hc held rfl rfl
    · rw [if_neg toLocation, if_neg toLocation]
      exact .of_fail hc held rfl rfl

theorem agrees_asRef (shows : h.Shows o v) :
    Agrees (fun h r m => o = .located r ∧ ∃ c, h[r]? = some c ∧ h.ShowsCell c m) (liftM o.asRef)
      (asLocated v) h := by
  cases shows.form with
  | located hc held => exact agrees_pure h ⟨rfl, _, hc, held⟩
  | plain v undivided => cases v <;> first | exact agrees_fail _ h | cases undivided
  | _ => exact agrees_fail _ h

/-- Ends like the answer. Of the cells that are there, those that are no target stay as they are,
and after a fault all do. -/
structure Acts (target : Ref → Prop) (R : Heap → Object → Reply → Prop) (x : Changing Heap Object)
    (answer : Outcome Reply) (h : Heap) : Prop where
  ended : EndAlike (R (x h).2) (x h).1.result answer.result
  longer : h.length ≤ (x h).2.length
  kept : ∀ r c, (answer.Returns → ¬target r) → h[r]? = some c → (x h).2[r]? = some c

section Rules

variable {α β : Type} {target : Ref → Prop} {R : Heap → β → α → Prop}
  {S : Heap → Object → Reply → Prop} {x : Changing Heap β} {answer : Outcome Reply}

theorem acts_of_agrees {x : Changing Heap Object} (agrees : Agrees S x answer h) :
    Acts target S x answer h :=
  ⟨agrees.ended, agrees.grown.length_le, fun _ _ _ => Heap.getElem?_of_prefix agrees.grown⟩

theorem acts_bind {a : Outcome α} {f : β → Changing Heap Object} {g : α → Outcome Reply}
    (hx : Agrees R x a h)
    (hf : ∀ b a (h' : Heap), (x h).1.result = .ok b → h <+: h' → R h' b a →
      Acts target S (f b) (g a) h') : Acts target S (x >>= f) (a >>= g) h := by
  obtain ⟨grown, -, ended⟩ := hx
  obtain ⟨before, result⟩ := a
  generalize answered : (x h).1.result = ending at ended
  cases ended with
  | ok related =>
    obtain ⟨ended', longer, kept⟩ := hf _ _ (x h).2 answered grown related
    have left := Changing.bind_of_ok answered f
    refine ⟨?_, ?_, ?_⟩
    · rw [left]; exact ended'
    · rw [left]; exact Nat.le_trans grown.length_le longer
    · rw [left]; exact fun r c spared hc => kept r c spared (Heap.getElem?_of_prefix grown hc)
  | error fault =>
    have left := Changing.bind_of_error answered f
    refine ⟨?_, ?_, ?_⟩
    · rw [left]; exact .error fault
    · rw [left]; exact grown.length_le
    · rw [left]; exact fun r c _ => Heap.getElem?_of_prefix grown

/-- A write to a target ends the operation. -/
theorem acts_of_writesTo {Q : Heap → Object → α → Prop} {x : Changing Heap Object}
    {y : Located.InPlace α} (writes : WritesTo r Q x y h m) (hit : target r) (k : α → Reply)
    (answers : answer.result = (y m).1.result.map k)
    (related : ∀ o a, (y m).1.result = .ok a → Q h o a → S (x h).2 o (k a)) :
    Acts target S x answer h := by
  obtain ⟨ended, ⟨c, -, left⟩, refused⟩ := writes
  refine ⟨?_, ?_, ?_⟩
  · rw [answers]
    generalize (x h).1.result = ending at ended
    generalize (y m).1.result = ending' at ended related
    cases ended with
    | ok shown => exact .ok (related _ _ rfl shown)
    | error fault => exact .error fault
  · exact Nat.le_of_eq (by rw [left, List.length_set])
  · intro r' c' spared hc
    cases done : (y m).1.result with
    | error fault =>
      rw [refused fault done]
      exact hc
    | ok a =>
      have returns : answer.Returns := ⟨k a, by rw [answers, done]; rfl⟩
      have other : r ≠ r' := fun same => spared returns (same ▸ hit)
      rw [left, List.getElem?_set_ne other]
      exact hc

end Rules

theorem replaced_run (vars : Bindings) (edit : EditTerm) (m : Located) :
    (edit.run vars).replaced m = edit.eval vars >>= fun w => w.run.replaced m := by
  unfold EditTerm.run
  generalize edit.eval vars = evaluated
  obtain ⟨events, fault | w⟩ := evaluated
  · rfl
  · unfold Located.InPlace.replaced
    rw [Changing.bind_of_ok (a := w) rfl, Outcome.bind_of_ok (a := w) rfl]
    obtain ⟨⟨events', fault | v⟩, now⟩ := w.run m
    · rfl
    · simp only [Outcome.following, Bind.bind, Outcome.bind, List.append_assoc]
      rfl

/-- The located values that a term stands for: the one in a variable, or a new one. -/
def Term.Targets (t : Term) (s : Store) (r : Ref) : Prop :=
  s.heap.length ≤ r ∨ ∃ x, t = .name x ∧ s.object? x = some (.located r)

/-- The part that a replacement gives back is smaller than the located value. -/
theorem sizeOf_previous_lt {w : Located.Edit} {m : Located} {v : Value}
    (done : (w.run m).1.result = .ok v) : sizeOf v < sizeOf m.toValue := by
  obtain ⟨value, file, span⟩ := m
  cases w with
  | value w | file w =>
    cases done
    simp only [Located.toValue, Located.file, Value.located.sizeOf_spec]
    omega
  | location l =>
    cases done
    have positive := value.sizeOf_pos
    simp only [Located.toValue, Location.toValue, Value.located.sizeOf_spec,
      Value.location.sizeOf_spec]
    omega
  | span spanLike =>
    rw [Located.Edit.run, Changing.bind_pure, Located.setSpan_fst] at done
    obtain ⟨old, read, same⟩ := result_bind_eq_ok_iff.1 done
    obtain ⟨s, -, kept⟩ := result_bind_eq_ok_iff.1 read
    cases kept
    cases same
    simp only [Located.toValue, Located.span, Value.located.sizeOf_spec, Value.span.sizeOf_spec]
    have positive := value.sizeOf_pos
    omega

/-- What is smaller than a located value does not hold it. -/
theorem not_holds_of_sizeOf_lt {w : Value} (located : h.Shows (.located r) w)
    (shows : h.Shows o v) (smaller : sizeOf v < sizeOf w) : ¬h.Holds o r := by
  intro held
  obtain ⟨w', part, le⟩ := Heap.exists_value?_of_holds held shows
  obtain rfl := Option.some.inj (located.symm.trans part)
  omega

theorem LocatedOperation.acts_replace (s : Store) (t : Term) (edit : EditTerm) :
    Acts (t.Targets s) Heap.Answers ((replace t edit).act s) ((replace t edit).run s.values)
      s.heap := by
  simp only [run, Term.locatedValue, replaced_run, bind_assoc]
  refine acts_bind (t.agrees_make List.prefix_rfl) fun o v h₁ made grown₁ shows => ?_
  refine acts_bind (agrees_asRef shows) fun r m h₂ _ grown₂ ⟨same, c, hc, held⟩ => ?_
  refine acts_bind (edit.agrees_make (grown₁.trans grown₂)) fun e w h₃ _ grown₃ replaces => ?_
  rw [same] at made
  have hit : t.Targets s r := t.located_of_make List.prefix_rfl made
  have hc₃ := Heap.getElem?_of_prefix grown₃ hc
  have writes := writesTo_edit hc₃ (held.mono grown₃) replaces
  refine acts_of_writesTo writes hit (fun v => { report := .replaced ⟨v, (w.run m).2⟩ }) ?_ ?_
  · unfold Located.InPlace.replaced
    obtain ⟨⟨events, fault | v⟩, now⟩ := w.run m <;> rfl
  · intro o v done previous v' answered
    cases answered
    obtain ⟨c', -, left⟩ := writes.left
    have apart : ¬h₃.Holds o r := not_holds_of_sizeOf_lt (shows_located hc₃ (held.mono grown₃))
      previous (sizeOf_previous_lt done)
    rw [left]
    exact previous.set apart c'

theorem ValueOperation.acts_assign (s : Store) (t : Term) (field : String) (value : Term) :
    Acts (t.Targets s) (fun _ _ _ => True) ((assign t field value).act s)
      ((assign t field value).run s.values) s.heap := by
  refine acts_bind (t.agrees_make List.prefix_rfl) fun o v h₁ made grown₁ shows => ?_
  refine acts_bind (value.agrees_make grown₁) fun o' w h₂ _ grown₂ new => ?_
  have later := shows.mono grown₂
  cases later.form with
  | @located r c m hc held =>
    have hit : t.Targets s r := t.located_of_make List.prefix_rfl made
    have writes := (writesTo_assign hc held field new).map (fun _ => Object.located r)
      (S := fun _ _ _ => True) fun _ _ _ => trivial
    refine acts_of_writesTo writes hit (fun _ => .value (assignIn field w m).2.toValue) ?_
      fun _ _ _ _ => trivial
    have assigned : assignField m.toValue field w = do
        return (← (assignIn field w).leave m).toValue := rfl
    rw [assigned, Changing.leave]
    obtain ⟨⟨events, fault | done⟩, now⟩ := assignIn field w m <;> rfl
  | plain v undivided =>
    cases v <;> first | exact acts_of_agrees (agrees_fail _ h₂) | cases undivided
  | _ => exact acts_of_agrees (agrees_fail _ h₂)

namespace Operation

/-- The variable whose located value an operation writes to, if it writes to one. -/
def target? : Operation → Option String
  | onLocated (.replace (.name x) _) => some x
  | onValue (.assign (.name x) _ _) => some x
  | _ => none

/-- The located value that an operation writes to if it returns. -/
def Targets (op : Operation) (s : Store) (r : Ref) : Prop :=
  ∃ x, op.target? = some x ∧ s.object? x = some (.located r)

/-- The object shows the answer, unless it has been assigned to, and is a new located value if the
operation makes one. -/
structure Answers (op : Operation) (n : Nat) (h : Heap) (o : Object) (reply : Reply) : Prop where
  shows : (∀ t field v, op ≠ .onValue (.assign t field v)) → h.Answers o reply
  new : op.MakesLocated → o.New n

end Operation

theorem Acts.imp {target target' : Ref → Prop} {R R' : Heap → Object → Reply → Prop}
    {x : Changing Heap Object} {answer : Outcome Reply} (acts : Acts target R x answer h)
    (hit : ∀ r, r < h.length → target r → target' r)
    (imp : ∀ h o reply, R h o reply → R' h o reply) :
    Acts target' R' x answer h := by
  obtain ⟨ended, longer, kept⟩ := acts
  refine ⟨?_, longer, fun r c spared hc => kept r c (fun returns hits => ?_) hc⟩
  · generalize (x h).1.result = ending, answer.result = ending' at ended
    cases ended with
    | ok related => exact .ok (imp _ _ _ related)
    | error fault => exact .error fault
  · exact spared returns (hit r (List.getElem?_eq_some_iff.1 hc).1 hits)

/-- An operation ends on objects like it answers on values, and writes to what it targets. -/
theorem Operation.acts (op : Operation) (s : Store) :
    Acts (op.Targets s) (op.Answers s.heap.length) (op.act s) (op.run s.values) s.heap := by
  by_cases writes : op.WritesLocated
  · cases writes with
    | replace t edit =>
      refine (LocatedOperation.acts_replace s t edit).imp ?_ fun _ _ _ answers =>
        ⟨fun _ => answers, fun made => by cases made⟩
      rintro r inside (new | ⟨x, rfl, held⟩)
      · omega
      · exact ⟨x, rfl, held⟩
    | assign t field v =>
      refine (ValueOperation.acts_assign s t field v).imp ?_ fun _ _ _ _ =>
        ⟨fun other => absurd rfl (other t field v), fun made => by cases made⟩
      rintro r inside (new | ⟨x, rfl, held⟩)
      · omega
      · exact ⟨x, rfl, held⟩
  · exact acts_of_agrees ((op.agrees_act writes List.prefix_rfl).imp fun _ _ _ _ gives =>
      ⟨fun _ => gives.answers, gives.new⟩)

end Script
end Whereabouts
