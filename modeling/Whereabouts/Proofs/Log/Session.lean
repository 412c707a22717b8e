import Whereabouts.Proofs.Location.Files
import Whereabouts.Proofs.Log.Announced
import Whereabouts.Proofs.Session.Making
import Whereabouts.Proofs.Span.Conversion
import Whereabouts.Script.Session

namespace Whereabouts.Script

open Outcome

variable {vars : Bindings}

/-! ### Arguments -/

@[simp] theorem announced_expect {α : Type} (what : String) (view : Value → Option α) (v : Value) :
    (expect what view v).Announced := by
  unfold expect
  split <;> simp

namespace Term

mutual

theorem announced_eval (vars : Bindings) : (t : Term) → (t.eval vars).Announced
  | constant v => by simp [eval]
  | name x => by
    unfold eval
    split <;> simp
  | list items => by simp [eval, announced_evalAll vars items]
  | tuple items => by simp [eval, announced_evalAll vars items]
  | table entries => by simp [eval, announced_evalEntries vars entries]
  | location file spanLike => by
    simp [eval, announced_eval vars file, announced_eval vars spanLike]
  | located payload place => by
    simp [eval, announced_eval vars payload, announced_eval vars place, asLocation]
  | ok value => by simp [eval, announced_eval vars value]
  | err error => by simp [eval, announced_eval vars error]
  | stripped value => by simp [eval, announced_eval vars value]
  | label role file span message => by
    simp [eval, announced_eval vars role, announced_eval vars file, asStyle]

theorem announced_evalAll (vars : Bindings) : (ts : List Term) → (evalAll vars ts).Announced
  | [] => announced_pure _
  | t :: ts => by simp [evalAll, announced_eval vars t, announced_evalAll vars ts]

theorem announced_evalEntries (vars : Bindings) :
    (entries : List (Term × Term)) → (evalEntries vars entries).Announced
  | [] => announced_pure _
  | (key, value) :: entries => by
    simp [evalEntries, announced_eval vars key, announced_eval vars value,
      announced_evalEntries vars entries]

end

attribute [simp] announced_eval

variable (vars) (t : Term)

@[simp] theorem announced_int : (t.int vars).Announced := by simp [int, asInt]

@[simp] theorem announced_text : (t.text vars).Announced := by simp [text, asText]

@[simp] theorem announced_items : (t.items vars).Announced := by simp [items, asList]

@[simp] theorem announced_span : (t.span vars).Announced := by simp [span, asSpan]

@[simp] theorem announced_place : (t.place vars).Announced := by simp [place, asLocation]

@[simp] theorem announced_locatedValue : (t.locatedValue vars).Announced := by
  simp [locatedValue, asLocated]

@[simp] theorem announced_diagnosticLabel : (t.diagnosticLabel vars).Announced := by
  simp [diagnosticLabel, asLabel]

@[simp] theorem announced_optional : (t.optional vars).Announced := by simp [optional]

@[simp] theorem announced_textOr (fallback : String) (t : Option Term) :
    (textOr vars fallback t).Announced := by
  cases t <;> simp [textOr]

@[simp] theorem announced_intOr (fallback : Int) (t : Option Term) :
    (intOr vars fallback t).Announced := by
  cases t <;> simp [intOr]

end Term

/-! ### Functions that are passed in -/

@[simp] theorem announced_extractFrom (s : Span) (v : Value) : (extractFrom s v).Announced := by
  unfold extractFrom
  split <;> simp

theorem announced_onLocation {f : Location → Outcome Location} (h : ∀ l, (f l).Announced)
    (v : Value) : (onLocation f v).Announced := by
  simp [onLocation, asLocation, h]

/-- Whatever a script passes in is announced whenever it is called. -/
theorem Callback.resolve_ensures (vars : Bindings) (f : Callback) :
    (f.resolve vars).Ensures fun g => ∀ v, (g v).Announced := by
  cases f with
  | identity | display | debug | pair | singleton | ok | err | length | increment =>
    exact ensures_pure fun v => by simp
  | upper | parseInt => exact ensures_pure fun v => by simp [asText]
  | constant value | fail message => exact ensures_bind fun _ => ensures_pure fun v => by simp
  | stopAt | withSpan | withFile | extend =>
    exact ensures_bind fun _ => ensures_pure (announced_onLocation fun l => by simp)
  | narrow left right =>
    exact ensures_bind fun _ => ensures_bind fun _ =>
      ensures_pure (announced_onLocation fun l => by simp)

variable {α : Type}

theorem Callback.announced_resolve_bind (f : Callback) {k : (Value → Outcome Value) → Outcome α}
    (h : ∀ g, (∀ v, (g v).Announced) → (k g).Announced) : (f.resolve vars >>= k).Announced := by
  have resolved : (f.resolve vars).Announced := by cases f <;> simp [resolve]
  rw [announced_bind_iff resolved]
  exact fun g hg => h g (f.resolve_ensures vars g hg)

theorem PayloadMap.announced_resolve_bind (f : PayloadMap)
    {k : (Value → Location → Outcome Value) → Outcome α}
    (h : ∀ g, (∀ v l, (g v l).Announced) → (k g).Announced) :
    (f.resolve vars >>= k).Announced := by
  cases f with
  | extract =>
    rw [resolve, Outcome.pure_bind]
    exact h _ fun v l => announced_extractFrom l.span v
  | function f =>
    simp only [resolve, bind_assoc, Outcome.pure_bind]
    exact f.announced_resolve_bind fun g hg => h _ fun v _ => hg v

theorem announced_askLocation {f : Value → Outcome Value} (h : ∀ v, (f v).Announced) :
    (askLocation f).Announced := by
  simp [askLocation, asLocation, h]

/-! ### Operations -/

theorem SpanOperation.announced (op : SpanOperation) : (op.run vars).Announced := by
  cases op <;> simp [run, asRange]

@[simp] theorem announced_sortValues (values : List Value) : (sortValues values).Announced := by
  unfold sortValues sortBy
  split <;> simp

@[simp] theorem announced_distinctValues (H : Hasher) (values : List Value) :
    (distinctValues H values).Announced := by
  have step : ∀ kept v, (putKey H id kept v).Announced := by
    intro kept v
    unfold putKey
    split <;> simp
  exact announced_foldlM step values []

theorem announced_assignIn (field : String) (v : Value) : (assignIn field v).Announced := by
  intro m
  unfold assignIn
  split
  · exact announced_pure _
  · split
    · rw [Changing.lift_bind_fst, asLocation]
      exact announced_bind (announced_expect _ _ v) fun l => announced_pure _
    · change (Outcome.fail _ : Outcome Unit).Announced
      simp

@[simp] theorem announced_assignField (target : Value) (field : String) (v : Value) :
    (assignField target field v).Announced := by
  unfold assignField
  split
  · simp
  · rename_i m _
    simp [Changing.leave, announced_assignIn field v m]

theorem ValueOperation.announced (op : ValueOperation) : (op.run vars).Announced := by
  cases op <;> simp [run]

theorem LocationOperation.announced (op : LocationOperation) : (op.run vars).Announced := by
  cases op with
  | mapFile location f =>
    refine announced_bind (by simp) fun l => f.announced_resolve_bind fun g hg => ?_
    simp [hg]
  | _ => simp [run]

theorem EditTerm.announced (edit : EditTerm) : (edit.run vars).Announced := by
  intro m
  have evaluated : (edit.eval vars).Announced := by cases edit <;> simp [eval]
  rw [run, Changing.lift_bind_fst]
  exact announced_bind evaluated fun edit => Located.announced_edit edit m

theorem LocatedOperation.announced (op : LocatedOperation) : (op.run vars).Announced := by
  cases op with
  | replace located edit =>
    refine announced_bind (by simp) fun m => ?_
    simp [Located.InPlace.replaced, edit.announced m]
  | map located f | mapFile located f | tryMap located f | mapLocation located f =>
    refine announced_bind (by simp) fun m => f.announced_resolve_bind fun g hg => ?_
    simp [hg, asLocation]
  | mapWithLocation located valueMap locationMap =>
    refine announced_bind (by simp) fun m => valueMap.announced_resolve_bind fun g hg =>
      locationMap.announced_resolve_bind fun f hf => ?_
    simp [Located.mapWithLocation, asLocation, hf, hg]
  | _ => simp [run]

theorem ContainerOperation.announced (op : ContainerOperation) : (op.run vars).Announced := by
  cases op with
  | toLocated optional location =>
    refine announced_bind (by simp) fun o => location.announced_resolve_bind fun g hg => ?_
    simp [Optional.announced_toLocated, announced_askLocation hg]
  | locateError result location =>
    refine announced_bind (by simp) fun r => location.announced_resolve_bind fun g hg => ?_
    simp [Fallible.announced_locateError, announced_askLocation hg]
  | mapError result f =>
    refine announced_bind (by simp) fun r => f.announced_resolve_bind fun g hg => ?_
    simp [Fallible.announced_mapError, hg]
  | _ => simp [run]

theorem LabelOperation.announced (op : LabelOperation) : (op.run vars).Announced := by
  cases op <;> simp [run, asStyle]

/-- The log of every operation is the record of its fault. -/
theorem Operation.announced (op : Operation) (vars : Bindings) : (op.run vars).Announced := by
  cases op with
  | onSpan op => exact op.announced
  | onValue op => exact op.announced
  | onLocation op => exact op.announced
  | onLocated op => exact op.announced
  | onContainer op => exact op.announced
  | onLabel op => exact op.announced

/-! ### The functions that leave records -/

/-- A use of a value as a span refuses just the values that the conversion refuses. It leaves a
record with the text of the value if that is no span, and none otherwise. -/
structure RecordsRefusal (use : Value → Outcome α) (v : Value) : Prop where
  fault_iff : ∀ fault, (use v).result = .error fault ↔ Refusal v fault
  records : (use v).Records (.notSpanLike v)
    ⟨.spans, "rejected span-like value " ++ v.debug⟩

/-- Two locations are refused just in different files, with a record that has the texts of both
files. -/
structure RecordsMismatch (a b : Location) (operation : String) (o : Outcome α) : Prop where
  fault_iff : a.RefusedAcrossFiles b operation o
  records : o.Records (.crossFile ⟨a.file, b.file, operation⟩)
    ⟨.locations, operation ++ " across files: " ++ a.file.debug ++ " vs " ++ b.file.debug⟩

theorem recordsRefusal {use : Value → Outcome α} {v : Value} (announced : (use v).Announced)
    (takes : TakesSpanLike use v) : RecordsRefusal use v := by
  have refusals (fault : Fault) : (use v).result = .error fault ↔ Refusal v fault :=
    (takes.fault_iff fault).trans toSpan_eq_error_iff
  refine ⟨refusals, announced.records rfl fun fault faulty => ?_⟩
  cases (refusals fault).1 faulty with
  | stepped p step => exact .inr rfl
  | other v none noRange => exact .inl rfl

theorem recordsMismatch {a b : Location} {operation : String} {o : Outcome α}
    (announced : o.Announced) (refused : a.RefusedAcrossFiles b operation o) :
    RecordsMismatch a b operation o :=
  ⟨refused, announced.records rfl fun fault faulty => .inl ((refused fault).1 faulty).2⟩

theorem recordsRefusal_toSpan (v : Value) : RecordsRefusal Value.toSpan v :=
  recordsRefusal v.announced_toSpan
    ⟨Iff.rfl, fun _ => Iff.rfl, rfl, fun s h => by rw [(toSpan_eq_ok_iff.1 h).toSpan]; rfl⟩

theorem recordsRefusal_setSpan (m : Located) (v : Value) :
    RecordsRefusal (fun w => (Located.Edit.span w).run.replaced m) v := by
  refine recordsRefusal ?_ (setSpan_takesSpanLike m v)
  rw [replaced_setSpan]
  simp

/-- Whether two locations share something is asked without a record, in one file or in two. -/
theorem log_probe {t u : Term} {a b : Location} (ha : (t.place vars).result = .ok a)
    (hb : (u.place vars).result = .ok b) {op : LocationOperation}
    (probe : op = .sameFile t u ∨ op = .overlaps t u ∨ op = .intersection t u) :
    (op.run vars).log = [] := by
  have returns : (op.run vars).Returns := by
    rcases probe with rfl | rfl | rfl
    all_goals exact ⟨_, result_bind_eq_ok_iff.2 ⟨a, ha, result_bind_eq_ok_iff.2 ⟨b, hb, rfl⟩⟩⟩
  obtain ⟨reply, returned⟩ := returns
  exact op.announced.log_of_ok returned

/-! ### Sessions -/

variable {store : Store}

theorem announced_of_mem_runSteps {steps : List Step} {o : Outcome Reply}
    (h : o ∈ (runSteps store steps).1) : o.Announced := by
  induction steps generalizing store with
  | nil => cases h
  | cons step steps ih =>
    rcases List.mem_cons.1 h with rfl | later
    · exact step.operation.announced store.values
    · exact ih later

/-- A computation on objects leaves the log of the one on values. -/
theorem announced_of_agrees {β : Type} {R : Heap → β → α → Prop} {x : Changing Heap β}
    {o : Outcome α} {h : Heap} (agrees : Agrees R x o h) (announced : o.Announced) :
    (x h).1.Announced := by
  obtain ⟨-, events, ended⟩ := agrees
  generalize (x h).2 = now at ended
  generalize (x h).1 = left at events ended ⊢
  obtain ⟨trail, result⟩ := left
  obtain ⟨trail', result'⟩ := o
  cases events
  cases ended with
  | ok _ => exact announced
  | error fault => exact announced

theorem announced_bindAll (store : Store) (bound : List (String × Term)) :
    (bindAll store bound).Announced := by
  induction bound generalizing store with
  | nil => exact announced_pure store
  | cons entry bound ih =>
    have made := announced_of_agrees (entry.2.agrees_make (s := store) List.prefix_rfl)
      (Term.announced_eval store.values entry.2)
    exact announced_bind made fun o => ih _

/-- The faults of a session, in the order in which they occur. If a variable has no value, that is
the only one. -/
def Session.faults (s : Session) : List Fault :=
  match s.run.result with
  | .ok os => os.filterMap fault?
  | .error fault => [fault]

theorem Session.log_eq (s : Session) : s.log = s.faults.filterMap Fault.record? := by
  have bound := announced_bindAll {} s.vars
  have announced : s.run.Announced := announced_bind bound fun vars => announced_pure _
  cases result : s.run.result with
  | error fault =>
    rw [log, faults, result, announced.log_of_error result]
    cases recorded : fault.record? <;> simp [recorded]
  | ok os =>
    obtain ⟨vars, -, ⟨⟩⟩ := result_bind_eq_ok_iff.1 result
    rw [log, faults, result, announced.log_of_ok result, List.nil_append]
    exact flatMap_log fun o ho => announced_of_mem_runSteps ho

/-- **Each refusal leaves one record, and nothing else leaves any.** The conversion to a span and
everything that converts, and the union and the comparison of two locations, log just the values
that they refuse and the files that they can not combine, with the texts that stand in the message
of the fault. So an operation of a script leaves one record at most: it leaves none if it returns,
if it ends with any other fault, or if it only asks what two locations share. The log of the steps
of a run, and that of a whole session, is the records of the faults in the order of the steps. -/
theorem session_log (vars : Bindings) (store : Store) (steps : List Step) (s : Session) :
    (∀ v, RecordsRefusal Value.toSpan v ∧ (∀ file, RecordsRefusal (Location.ofParts file) v) ∧
      (∀ l : Location, RecordsRefusal l.withSpan v ∧ RecordsRefusal l.extend v) ∧
      ∀ m : Located, RecordsRefusal (fun w => (Located.Edit.span w).run.replaced m) v) ∧
    (∀ a b : Location, RecordsMismatch a b "union" (a.union b) ∧
      RecordsMismatch a b "union" (a.toValue.union b.toValue) ∧
      RecordsMismatch a b "contains" (a.covers b)) ∧
    ((∀ v, (Fault.notSpanLike v).message =
        "cannot convert " ++ v.kind.name ++ " to a span: " ++ v.debug) ∧
      ∀ m, (Fault.crossFile m).message = "cannot " ++ m.operation ++
        " locations from different files: " ++ m.left.debug ++ " and " ++ m.right.debug) ∧
    (∀ op : Operation, ∀ record, record ∈ (op.run vars).log ↔
      (∃ v, (op.run vars).result = .error (.notSpanLike v) ∧
        record = ⟨.spans, "rejected span-like value " ++ v.debug⟩) ∨
      ∃ m, (op.run vars).result = .error (.crossFile m) ∧ record = ⟨.locations,
        m.operation ++ " across files: " ++ m.left.debug ++ " vs " ++ m.right.debug⟩) ∧
    (∀ op : Operation, (op.run vars).log.length ≤ 1) ∧
    (∀ t u a b, (t.place vars).result = .ok a → (u.place vars).result = .ok b →
      ∀ op, op = .sameFile t u ∨ op = .overlaps t u ∨ op = .intersection t u →
        ((Operation.onLocation op).run vars).log = []) ∧
    (runSteps store steps).1.flatMap log =
      ((runSteps store steps).1.filterMap fault?).filterMap Fault.record? ∧
    s.log = s.faults.filterMap Fault.record? := by
  refine ⟨fun v => ⟨recordsRefusal_toSpan v, ?_, ?_, fun m => recordsRefusal_setSpan m v⟩, ?_,
    ⟨fun v => rfl, fun m => rfl⟩, ?_, ?_, ?_, ?_, s.log_eq⟩
  · exact fun file => recordsRefusal (Location.announced_ofParts file v)
      (ofParts_takesSpanLike file v)
  · exact fun l => ⟨recordsRefusal (l.announced_withSpan v) (withSpan_takesSpanLike l v),
      recordsRefusal (l.announced_extend v) (extend_takesSpanLike l v)⟩
  · exact fun a b => ⟨recordsMismatch (a.announced_union b) (a.union_refusedAcrossFiles b),
      recordsMismatch (Value.announced_union _ _) (a.union_toValue_refusedAcrossFiles b),
      recordsMismatch (a.announced_covers b) (a.covers_refusedAcrossFiles b)⟩
  · exact fun op record => (op.announced vars).mem_log_iff
  · exact fun op => (op.announced vars).length_log_le
  · rintro t u a b ha hb op probe
    exact log_probe ha hb probe
  · exact flatMap_log fun o ho => announced_of_mem_runSteps ho

/-- Moving a location to a truth value and uniting two files are recorded; the overlap of the two
files and the missing payload are not. -/
theorem session_log_refused :
    let f : Location := ⟨.text "f", ⟨0, 2⟩⟩
    let g : Location := ⟨.text "g", ⟨1, 4⟩⟩
    let store : Store := ⟨[("a", .location (.plain f.file rfl) f.span),
      ("b", .location (.plain g.file rfl) g.span)], []⟩
    let move : Step := ⟨.onLocation (.withSpan (.name "a") (.constant (.bool true))), none⟩
    let unite : Step := ⟨.onLocation (.union (.name "a") (.name "b")), none⟩
    let ask : Step := ⟨.onLocation (.overlaps (.name "a") (.name "b")), none⟩
    let unwrap : Step := ⟨.onLocated (.unwrap (.located (.constant .absent) (.name "b"))), none⟩
    (runSteps store [move, unite, ask, unwrap]).1.flatMap log =
        [⟨.spans, "rejected span-like value True"⟩, ⟨.locations, "union across files: 'f' vs 'g'"⟩] ∧
      (ask.operation.run store.values).log = [] := by
  intro f g store move unite ask unwrap
  obtain ⟨-, -, -, -, -, probes, logged, -⟩ :=
    session_log store.values store [move, unite, ask, unwrap] ⟨[], []⟩
  refine ⟨logged.trans ?_, ?_⟩
  · decide
  · exact probes (.name "a") (.name "b") f g rfl rfl _ (.inr (.inl rfl))

end Whereabouts.Script
