import Whereabouts.Proofs.Session.Writing
import Whereabouts.Script.Session

/-!
# What a session leaves alone

A step of a session may save its result to a variable, and a replacement or an assignment writes to
the located value in one. No other variable gets another object and no other located value changes
(`Step.object?_run_of_ne`, `Step.getElem?_run`), and none at all where the step ends with a fault.
So a variable shows the same as long as nothing that it holds is written to. A located value that is
made out of another one is a new one, which a write to that other one does not reach.
-/
namespace Whereabouts.Script

variable {s : Store} {step : Step} {x y : String} {r : Ref} {c : Cell} {o : Object} {v : Value}
  {fault : Fault} {reply : Reply}

namespace Store

theorem heap_store (s : Store) (save : Option String) (result : Option Object) :
    (s.store save result).heap = s.heap := by
  unfold store
  split <;> rfl

theorem object?_store_of_ne {save : Option String} (h : save ≠ some y) (result : Option Object) :
    (s.store save result).object? y = s.object? y := by
  unfold store
  split
  · exact object?_set_of_ne s _ fun same => h (congrArg some same.symm)
  · rfl

theorem value?_of_object? (held : s.object? y = some o) : s.value? y = s.heap.value? o := by
  rw [value?, held]
  rfl

end Store

theorem expect_eq_ok_iff {α : Type} {what : String} {view : Value → Option α} {a : α} :
    (expect what view v).result = .ok a ↔ view v = some a := by
  rw [expect]
  split
  · rename_i b h
    rw [h]
    constructor <;> intro h' <;> cases h' <;> rfl
  · rename_i h
    rw [h]
    constructor <;> intro h' <;> cases h'

theorem eval_name_eq_ok_iff {vars : Bindings} :
    ((Term.name x).eval vars).result = .ok v ↔ vars.get? x = some v := by
  rw [Term.eval]
  split
  · rename_i w h
    rw [h]
    constructor <;> intro h' <;> cases h' <;> rfl
  · rename_i h
    rw [h]
    constructor <;> intro h' <;> cases h'

namespace Operation

variable {op : Operation} {vars : Bindings}

theorem target?_cases (h : op.target? = some x) :
    (∃ edit, op = .onLocated (.replace (.name x) edit)) ∨
      ∃ field v, op = .onValue (.assign (.name x) field v) := by
  unfold target? at h
  split at h
  · cases h; exact .inl ⟨_, rfl⟩
  · cases h; exact .inr ⟨_, _, rfl⟩
  · cases h

/-- Only a located value is written to. -/
theorem exists_located_of_target (h : op.target? = some x) (returns : (op.run vars).Returns) :
    ∃ m : Located, vars.get? x = some m.toValue := by
  obtain ⟨reply, returns⟩ := returns
  rcases target?_cases h with ⟨edit, rfl⟩ | ⟨field, v, rfl⟩
  · rw [Operation.run, LocatedOperation.run, Term.locatedValue] at returns
    simp only [bind_assoc, Outcome.result_bind_eq_ok_iff] at returns
    obtain ⟨target, held, m, view, -⟩ := returns
    rw [asLocated, expect_eq_ok_iff, Located.ofValue?_eq_some_iff] at view
    exact ⟨m, (eval_name_eq_ok_iff.1 held).trans (congrArg some view)⟩
  · rw [Operation.run, ValueOperation.run] at returns
    simp only [Outcome.result_bind_eq_ok_iff] at returns
    obtain ⟨target, held, w, -, now, assigned, -⟩ := returns
    rw [assignField] at assigned
    split at assigned
    · cases assigned
    · rename_i m view
      rw [Located.ofValue?_eq_some_iff] at view
      exact ⟨m, (eval_name_eq_ok_iff.1 held).trans (congrArg some view)⟩

theorem MakesLocated.target? (h : op.MakesLocated) : op.target? = none := by
  cases h <;> rfl

theorem MakesLocated.result? (h : op.MakesLocated) :
    (op.run vars).Ensures fun reply => ∃ v, reply.report.result? = some v := by
  open Outcome in
  cases h with
  | map | mapLocation | mapFile | tryMap | toLocated | locateResult =>
    exact ensures_bind fun _ => ensures_bind fun _ => ensures_bind fun _ => ensures_pure ⟨_, rfl⟩
  | mapWithLocation =>
    exact ensures_bind fun _ => ensures_bind fun _ => ensures_bind fun _ => ensures_bind fun _ =>
      ensures_pure ⟨_, rfl⟩
  | unwrap | transposeResult | locate | locateOptional =>
    exact ensures_bind fun _ => ensures_bind fun _ => ensures_pure ⟨_, rfl⟩
  | transpose => exact ensures_bind fun _ => ensures_pure ⟨_, rfl⟩

end Operation

namespace Step

/-- The step returns, and its operation writes to the located value at the address. -/
def Mutates (step : Step) (s : Store) (r : Ref) : Prop :=
  (step.run s).1.Returns ∧ step.operation.Targets s r

theorem run_snd (step : Step) (s : Store) :
    (step.run s).2 = { s with heap := (step.operation.act s s.heap).2 }.store step.save
      (result? (step.operation.run s.values) (step.operation.act s s.heap).1) := rfl

theorem heap_run (step : Step) (s : Store) :
    (step.run s).2.heap = (step.operation.act s s.heap).2 :=
  Store.heap_store _ _ _

/-- A step changes no object of a variable but that of the one that it saves to. -/
theorem object?_run_of_ne (h : step.save ≠ some y) :
    (step.run s).2.object? y = s.object? y :=
  Store.object?_store_of_ne h _

theorem object?_run_of_error (h : (step.run s).1.result = .error fault) (y : String) :
    (step.run s).2.object? y = s.object? y := by
  have faulty : (step.operation.run s.values).result = .error fault := h
  have nothing : result? (step.operation.run s.values) (step.operation.act s s.heap).1 = none := by
    rw [result?, faulty]
  rw [run_snd, nothing]
  cases step.save <;> rfl

/-- A step changes no located value but the one that it writes to. -/
theorem getElem?_run (spared : ¬step.Mutates s r) (hc : s.heap[r]? = some c) :
    (step.run s).2.heap[r]? = some c := by
  rw [heap_run]
  exact (step.operation.acts s).kept r c (fun returns target => spared ⟨returns, target⟩) hc

theorem length_heap_run (step : Step) (s : Store) :
    s.heap.length ≤ (step.run s).2.heap.length := by
  rw [heap_run]
  exact (step.operation.acts s).longer

/-- What a step saves is an object for its answer. -/
theorem object?_run_of_save (returns : (step.run s).1.result = .ok reply)
    (save : step.save = some y) (result : reply.report.result? = some v) :
    ∃ o, (step.run s).2.object? y = some o ∧
      step.operation.Answers s.heap.length (step.run s).2.heap o reply := by
  have answered : (step.operation.run s.values).result = .ok reply := returns
  have alike := (step.operation.acts s).ended
  rw [answered] at alike
  rw [heap_run, run_snd, result?, answered, save]
  generalize (step.operation.act s s.heap).1.result = made at alike ⊢
  cases alike with
  | ok answers =>
    refine ⟨_, ?_, answers⟩
    dsimp only
    rw [result]
    exact Store.object?_set_self _ y _

/-- What is written to is a located value before and after. -/
theorem exists_cells_of_mutates (h : step.Mutates s r) :
    ∃ c d : Cell, s.heap[r]? = some c ∧ (step.run s).2.heap[r]? = some d := by
  obtain ⟨returns, x, target, held⟩ := h
  obtain ⟨m, shown⟩ := step.operation.exists_located_of_target target returns
  rw [Store.get?_values, Store.value?_of_object? held] at shown
  obtain ⟨c, hc, -⟩ := Heap.value?_located_eq_some_iff.1 shown
  have inside := (List.getElem?_eq_some_iff.1 hc).1
  have still := Nat.lt_of_lt_of_le inside (step.length_heap_run s)
  exact ⟨c, _, hc, List.getElem?_eq_getElem still⟩

/-- A step changes no value of an object that holds nothing which it writes to. -/
theorem shows_run (apart : ∀ r, step.Mutates s r → ¬s.heap.Holds o r) (shows : s.heap.Shows o v) :
    (step.run s).2.heap.Shows o v :=
  Heap.value?_of_kept (fun r _ held hc => getElem?_run (fun hit => apart r hit held) hc) shows

end Step

/-- The steps of a run, each with the store that it is taken on. -/
def passed (s : Store) : List Step → List (Store × Step)
  | [] => []
  | step :: steps => (s, step) :: passed (step.run s).2 steps

theorem runSteps_append (s : Store) (before : List Step) (step : Step) (later : List Step) :
    (runSteps s (before ++ step :: later)).1[before.length]? =
        some (step.run (runSteps s before).2).1 ∧
      (runSteps s (before ++ step :: later)).2 =
        (runSteps (step.run (runSteps s before).2).2 later).2 := by
  induction before generalizing s with
  | nil => exact ⟨rfl, rfl⟩
  | cons first before ih => exact ih (first.run s).2

/-- The steps of a run save to another variable than `y`, and write to nothing that the object
holds. -/
def Spares (h : Heap) (y : String) (o : Object) (steps : List (Store × Step)) : Prop :=
  ∀ p ∈ steps, p.2.save ≠ some y ∧ ∀ r, p.2.Mutates p.1 r → ¬h.Holds o r

/-- What a variable holds stays as it is over a run that spares it. -/
theorem kept_runSteps {h : Heap} {steps : List Step} (spares : Spares h y o (passed s steps))
    (held : s.object? y = some o)
    (kept : ∀ r c, h.Holds o r → h[r]? = some c → s.heap[r]? = some c) :
    (runSteps s steps).2.object? y = some o ∧
      ∀ r c, h.Holds o r → h[r]? = some c → (runSteps s steps).2.heap[r]? = some c := by
  induction steps generalizing s with
  | nil => exact ⟨held, kept⟩
  | cons step steps ih =>
    obtain ⟨⟨save, apart⟩, later⟩ := List.forall_mem_cons.1 spares
    have now : (step.run s).2.object? y = some o := (Step.object?_run_of_ne save).trans held
    refine ih later now fun r c inside hc => ?_
    exact Step.getElem?_run (fun hit => apart r hit inside) (kept r c inside hc)

theorem value?_runSteps_of_spares {steps : List Step}
    (spares : Spares s.heap y o (passed s steps)) (held : s.object? y = some o)
    (shown : s.value? y = some v) :
    (runSteps s steps).2.object? y = some o ∧ (runSteps s steps).2.value? y = some v := by
  obtain ⟨still, kept⟩ := kept_runSteps spares held fun _ _ _ hc => hc
  have shows : s.heap.Shows o v := (Store.value?_of_object? held).symm.trans shown
  exact ⟨still, (Store.value?_of_object? still).trans (Heap.value?_of_kept kept shows)⟩

theorem exists_cell_of_located {h : Heap} {d : Ref} (object : o = .located d ∨ o = .ok (.located d))
    (shows : h.Shows o v) : ∃ c, h[d]? = some c := by
  rcases object with rfl | rfl
  · obtain ⟨c, hc, -⟩ := Heap.value?_located_eq_some_iff.1 shows
    exact ⟨c, hc⟩
  · obtain ⟨w, inner, -⟩ := Option.map_eq_some_iff.1 shows
    obtain ⟨c, hc, -⟩ := Heap.value?_located_eq_some_iff.1 inner
    exact ⟨c, hc⟩

/-- What a located value holds, by itself or in a successful result, is itself or in its cell. -/
theorem eq_or_holds_of_located {h : Heap} {d : Ref} (object : o = .located d ∨ o = .ok (.located d))
    (hc : h[d]? = some c) (held : h.Holds o r) :
    r = d ∨ h.Holds c.value r ∨ h.Holds c.place.file r := by
  have only : ∀ r ∈ o.refs, r = d := by
    rcases object with rfl | rfl <;> exact fun r mem => List.mem_singleton.1 mem
  cases held with
  | here mem => exact .inl (only r mem)
  | inValue mem hc' held =>
    obtain rfl := only _ mem
    obtain rfl := Option.some.inj (hc.symm.trans hc')
    exact .inr (.inl held)
  | inFile mem hc' held =>
    obtain rfl := only _ mem
    obtain rfl := Option.some.inj (hc.symm.trans hc')
    exact .inr (.inr held)

/-- Steps that write to one address at most spare another located value that does not hold it. -/
theorem spares_located {h : Heap} {d : Ref} {steps : List (Store × Step)}
    (object : o = .located d ∨ o = .ok (.located d)) (hc : h[d]? = some c) (other : r ≠ d)
    (inValue : ¬h.Holds c.value r) (inFile : ¬h.Holds c.place.file r)
    (writes : ∀ p ∈ steps, p.2.save ≠ some y ∧ ∀ r', p.2.Mutates p.1 r' → r' = r) :
    Spares h y o steps := by
  intro p mem
  obtain ⟨save, only⟩ := writes p mem
  refine ⟨save, fun r' hit held => ?_⟩
  obtain rfl := only r' hit
  rcases eq_or_holds_of_located object hc held with same | held | held
  · exact other same
  · exact inValue held
  · exact inFile held

/-- What a step may do to the variables and the located values of a store. -/
structure StepFrame (step : Step) (s : Store) : Prop where
  /-- A step that ends with a fault changes no variable and no located value. -/
  refused : ∀ fault, (step.run s).1.result = .error fault →
    (∀ y, (step.run s).2.object? y = s.object? y) ∧
    (∀ (r : Ref) (c : Cell), s.heap[r]? = some c → (step.run s).2.heap[r]? = some c) ∧
    ∀ y v, s.value? y = some v → (step.run s).2.value? y = some v
  /-- Only the variable that the result is saved to holds another object. -/
  objects : ∀ y, step.save ≠ some y → (step.run s).2.object? y = s.object? y
  /-- Only the located value that the step writes to is changed. -/
  cells : ∀ (r : Ref) (c : Cell), ¬step.Mutates s r → s.heap[r]? = some c →
    (step.run s).2.heap[r]? = some c
  /-- So a variable that holds nothing of this keeps its value. -/
  values : ∀ y o v, step.save ≠ some y → s.object? y = some o → s.value? y = some v →
    (∀ r, step.Mutates s r → ¬s.heap.Holds o r) → (step.run s).2.value? y = some v
  /-- What is written to is a located value before and after. -/
  target : ∀ r, step.Mutates s r →
    ∃ c d : Cell, s.heap[r]? = some c ∧ (step.run s).2.heap[r]? = some d
  /-- The variable that the result is saved to holds an object that shows it. Only an assignment
  gives the located value itself that was written to. -/
  saved : ∀ y reply v, step.save = some y → (step.run s).1.result = .ok reply →
    reply.report.result? = some v → ∃ o, (step.run s).2.object? y = some o ∧
      ((∀ t field value, step.operation ≠ .onValue (.assign t field value)) →
        (step.run s).2.value? y = some v)

theorem stepFrame (step : Step) (s : Store) : StepFrame step s where
  refused fault faulty := by
    have spared : ∀ r, ¬step.Mutates s r := by
      rintro r ⟨⟨reply, returns⟩, -⟩
      cases faulty.symm.trans returns
    refine ⟨Step.object?_run_of_error faulty, fun r c => Step.getElem?_run (spared r), ?_⟩
    intro y v shown
    obtain ⟨o, held, shows⟩ := Store.value?_eq_some_iff.1 shown
    refine Store.value?_eq_some_iff.2 ⟨o, (Step.object?_run_of_error faulty y).trans held, ?_⟩
    exact Step.shows_run (fun r hit => absurd hit (spared r)) shows
  objects y := Step.object?_run_of_ne
  cells r c := Step.getElem?_run
  values y o v save held shown apart := by
    have still := (Step.object?_run_of_ne (s := s) save).trans held
    have shows : s.heap.Shows o v := (Store.value?_of_object? held).symm.trans shown
    exact (Store.value?_of_object? still).trans (Step.shows_run apart shows)
  target r := Step.exists_cells_of_mutates
  saved y reply v save returns result := by
    obtain ⟨o, held, answers⟩ := Step.object?_run_of_save returns save result
    exact ⟨o, held, fun other =>
      (Store.value?_of_object? held).trans (answers.shows other v result)⟩

/-- **A session changes only what its steps write to.** A step is run on what the steps before it
have left, and changes nothing but the variable that it saves to and the located value that a
replacement or an assignment writes to, and neither of them if it ends with a fault. A variable
keeps its object and its value over any run that saves to others and writes to nothing that the
object holds. A located value that was made out of another one and saved is a new one, and making it
has changed nothing that was there. So it is the same whatever is done in place to that other one
later, unless that other one was put inside it. -/
theorem session_frame (s : Store) (before : List Step) (step : Step) :
    let now := (runSteps s before).2
    let next := (step.run now).2
    (∀ later, (runSteps s (before ++ step :: later)).1[before.length]? = some (step.run now).1 ∧
      (runSteps s (before ++ step :: later)).2 = (runSteps next later).2) ∧
    StepFrame step now ∧
    (∀ y o v later, next.object? y = some o → next.value? y = some v →
      Spares next.heap y o (passed next later) →
        (runSteps next later).2.object? y = some o ∧ (runSteps next later).2.value? y = some v) ∧
    (step.operation.MakesLocated → ∀ y reply, step.save = some y →
      (step.run now).1.result = .ok reply →
      (∀ (r : Ref) (c : Cell), now.heap[r]? = some c → next.heap[r]? = some c) ∧
      ∃ o v, reply.report.result? = some v ∧ next.object? y = some o ∧ next.value? y = some v ∧
        ∀ d, o = .located d ∨ o = .ok (.located d) → now.heap.length ≤ d ∧
          ∃ c, next.heap[d]? = some c ∧ ∀ r, r < now.heap.length →
            ¬next.heap.Holds c.value r → ¬next.heap.Holds c.place.file r →
            ∀ later, (∀ p ∈ passed next later, p.2.save ≠ some y ∧
                ∀ r', p.2.Mutates p.1 r' → r' = r) →
              (runSteps next later).2.object? y = some o ∧
                (runSteps next later).2.value? y = some v) := by
  intro now next
  refine ⟨runSteps_append s before step, stepFrame step now, ?_, ?_⟩
  · intro y o v later held shown spares
    exact value?_runSteps_of_spares spares held shown
  · intro made y reply save returns
    have reads : ∀ r, ¬step.Mutates now r := by
      rintro r ⟨-, x, target, -⟩
      cases made.target?.symm.trans target
    refine ⟨fun r c => Step.getElem?_run (reads r), ?_⟩
    obtain ⟨v, result⟩ := made.result? reply returns
    obtain ⟨o, held, answers⟩ := Step.object?_run_of_save returns save result
    have plain : ∀ t field value, step.operation ≠ .onValue (.assign t field value) := by
      rintro t field value same
      rw [same] at made
      cases made
    have shows : next.heap.Shows o v := answers.shows plain v result
    have shown : next.value? y = some v := (Store.value?_of_object? held).trans shows
    refine ⟨o, v, result, held, shown, fun d object => ?_⟩
    have new : now.heap.length ≤ d := by
      rcases object with rfl | rfl <;> exact answers.new made
    obtain ⟨c, hc⟩ := exists_cell_of_located object shows
    refine ⟨new, c, hc, fun r old inValue inFile later writes => ?_⟩
    have other : r ≠ d := Nat.ne_of_lt (Nat.lt_of_lt_of_le old new)
    have spares := spares_located object hc other inValue inFile writes
    exact value?_runSteps_of_spares spares held shown

theorem not_holds_plain {h : Heap} {undivided : v.atom?.isSome = true} :
    ¬h.Holds (.plain v undivided) r := by
  intro held
  cases held with
  | here mem | inValue mem _ _ | inFile mem _ _ => cases mem

/-- A located value is made out of the one in `x` and saved as `y`. Then the payload in `x` is
replaced, a replacement of its span is refused, and neither makes a difference to `y`. -/
theorem session_frame_mapped :
    let f : Place := ⟨.plain (.text "f") rfl, ⟨0, 2⟩⟩
    let s : Store := ⟨[("x", .located 0)], [⟨.plain (.int 1) rfl, f⟩]⟩
    let made : Step := ⟨.onLocated (.map (.name "x") .increment), some "y"⟩
    let replaced : Step := ⟨.onLocated (.replace (.name "x") (.value (.constant (.int 7)))), none⟩
    let refused : Step := ⟨.onLocated (.replace (.name "x") (.span (.constant (.bool true)))), none⟩
    (runSteps s [made]).2.object? "y" = some (.located 1) ∧
      (runSteps s [made, replaced, refused]).2.value? "x" =
        some (Located.mk (.int 7) ⟨.text "f", ⟨0, 2⟩⟩).toValue ∧
      (runSteps s [made, replaced, refused]).2.value? "y" =
        some (Located.mk (.int 2) ⟨.text "f", ⟨0, 2⟩⟩).toValue := by
  intro f s made replaced refused
  let s₁ : Store := ⟨[("y", .located 1), ("x", .located 0)],
    [⟨.plain (.int 1) rfl, f⟩, ⟨.plain (.int 2) rfl, f⟩]⟩
  let s₂ : Store := ⟨[("y", .located 1), ("x", .located 0)],
    [⟨.plain (.int 7) rfl, f⟩, ⟨.plain (.int 2) rfl, f⟩]⟩
  have first : (made.run (runSteps s []).2).2 = s₁ := rfl
  have second : (runSteps s [made, replaced]).2 = s₂ := rfl
  have fault : (refused.run s₂).1.result = .error (.notSpanLike (.bool true)) := rfl
  obtain ⟨split, -, -, derived⟩ := session_frame s [] made
  obtain ⟨split', frame, -, -⟩ := session_frame s [made, replaced] refused
  rw [first] at derived
  rw [second] at frame
  have all : (runSteps s [made, replaced, refused]).2 = _ := (split [replaced, refused]).2
  have last : (runSteps s [made, replaced, refused]).2 = _ := (split' []).2
  rw [first] at all
  rw [second] at last
  obtain ⟨-, o, v, result, held, -, apart⟩ := derived (.map _ _) "y" _ rfl rfl
  cases result
  cases held
  obtain ⟨-, c, hc, kept⟩ := apart 1 (.inl rfl)
  cases hc
  refine ⟨rfl, ?_, ?_⟩
  · rw [last]
    exact (frame.refused _ fault).2.2 "x" _ rfl
  · rw [all]
    refine (kept 0 (by decide) not_holds_plain not_holds_plain [replaced, refused] ?_).2
    rintro p mem
    simp only [passed, List.mem_cons, List.not_mem_nil, or_false] at mem
    rcases mem with rfl | rfl
    · refine ⟨by decide, ?_⟩
      rintro r ⟨-, x, target, there⟩
      cases target
      cases there
      rfl
    · refine ⟨by decide, ?_⟩
      rintro r ⟨-, x, target, there⟩
      cases target
      cases there
      rfl

/-- A located value that another one was put into shows what is done to that one. -/
example :
    let f : Place := ⟨.plain (.text "f") rfl, ⟨0, 2⟩⟩
    let g : Location := ⟨.text "g", ⟨1, 4⟩⟩
    let s : Store := ⟨[("x", .located 0)], [⟨.plain (.int 1) rfl, f⟩]⟩
    let placed : Step := ⟨.onContainer (.locate (.name "x") (.constant g.toValue)), some "y"⟩
    let replaced : Step := ⟨.onLocated (.replace (.name "x") (.value (.constant (.int 7)))), none⟩
    (runSteps s [placed, replaced]).2.value? "y" =
      some (Located.mk (Located.mk (.int 7) ⟨.text "f", ⟨0, 2⟩⟩).toValue g).toValue := rfl

end Whereabouts.Script
