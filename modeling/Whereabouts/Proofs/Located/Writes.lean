import Whereabouts.Proofs.Object.Fresh
import Whereabouts.Proofs.Session.Frame

namespace Whereabouts.Located

open Script

/-- A write to a located value: the replacement of a part, or an assignment to a field, which gives
nothing back. -/
inductive Write where
  | replace (edit : Edit)
  | assignValue (v : Value)
  | assignLocation (l : Location)

def Write.run : Write → InPlace (Option Value)
  | replace edit => return some (← edit.run)
  | assignValue v => do
    Located.assignValue v
    return none
  | assignLocation l => do
    Located.assignLocation l
    return none

/-- Makes writes one after another, each on what the one before has left, however that has ended. -/
def runWrites : List Write → Located → List (Outcome (Option Value)) × Located
  | [], m => ([], m)
  | w :: ws, m =>
    let (o, m) := w.run m
    let (os, m) := runWrites ws m
    (o :: os, m)

theorem Write.run_replace (edit : Edit) (m : Located) :
    (replace edit).run m = ((edit.run m).1 >>= fun old => pure (some old), (edit.run m).2) :=
  Changing.bind_pure edit.run some m

/-- The replacement by terms that are values already. -/
def Edit.term : Edit → EditTerm
  | value v => .value (.constant v)
  | location l => .location (.constant l.toValue)
  | span spanLike => .span (.constant spanLike)
  | file v => .file (.constant v)

/-- The step that makes the write to the located value in a variable. -/
def Write.step (x : String) (w : Write) : Step where
  operation :=
    match w with
    | replace edit => .onLocated (.replace (.name x) edit.term)
    | assignValue v => .onValue (.assign (.name x) "value" (.constant v))
    | assignLocation l => .onValue (.assign (.name x) "location" (.constant l.toValue))

variable {x : String} {s : Store} {h now : Heap} {r : Ref} {c : Cell} {m : Located}

theorem make_name (held : s.object? x = some (.located r))
    (shows : s.heap.Shows (.located r) m.toValue) (h : Heap) :
    (Term.name x).make s h = (pure (.located r), h) := by
  have shown : s.values.get? x = some m.toValue := by
    rw [Store.get?_values]
    exact Option.bind_eq_some_iff.2 ⟨_, held, shows⟩
  unfold Term.make
  rw [shown, held]
  rfl

theorem act_replace {edit : EditTerm} {e : Object.Edit}
    (named : (Term.name x).make s s.heap = (pure (.located r), s.heap))
    (edited : edit.make s s.heap = (pure e, h)) :
    (Operation.onLocated (.replace (.name x) edit)).act s s.heap = e.run r h :=
  (Changing.bind_eq named _).trans <| (Changing.bind_eq (a := r) rfl _).trans <|
    Changing.bind_eq edited _

theorem act_assign {v : Value} {o : Object} {field : String}
    (named : (Term.name x).make s s.heap = (pure (.located r), s.heap))
    (made : Object.ofValue v s.heap = (pure o, h))
    (assigned : assignAt r field o h = (pure (), now)) :
    (Operation.onValue (.assign (.name x) field (.constant v))).act s s.heap =
      (pure (.located r), now) :=
  (Changing.bind_eq named _).trans <| (Changing.bind_eq made _).trans <|
    Changing.bind_eq assigned _

/-- A cell that shows a located value does not hold itself. -/
theorem apart_of_shows (hc : h[r]? = some c) (cell : h.ShowsCell c m) : h.Apart c r := by
  obtain ⟨value, file⟩ := Heap.not_holds_self (shows_located hc cell) hc
  exact ⟨value, file⟩

namespace Write

/-- What a write puts in is made anew, so it holds nothing that was there and can not come to hold
itself. -/
theorem shows_act_step (held : s.object? x = some (.located r)) (hc : s.heap[r]? = some c)
    (cell : s.heap.ShowsCell c m) (w : Write) :
    Heap.Shows ((w.step x).operation.act s s.heap).2 (.located r) (w.run m).2.toValue := by
  have named := make_name held (shows_located hc cell) s.heap
  have inside := (List.getElem?_eq_some_iff.1 hc).1
  have new (v : Value) : ∃ o, ∃ now : Heap, Object.ofValue v s.heap = (pure o, now) ∧
      now[r]? = some c ∧ r < now.length ∧ now.ShowsCell c m ∧ now.Shows o v ∧
      now.Apart c r ∧ ¬now.Holds o r := by
    obtain ⟨o, now, made, grown, shows, apart⟩ := Object.exists_ofValue s.heap v
    have hc' := Heap.getElem?_of_prefix grown hc
    exact ⟨o, now, made, hc', Nat.lt_of_lt_of_le inside grown.length_le, cell.mono grown, shows,
      apart_of_shows hc' (cell.mono grown), apart r inside⟩
  match w with
  | .replace (.value v) =>
    obtain ⟨o, now, made, hc', within, cell', shows, apart, free⟩ := new v
    have edited : (EditTerm.value (.constant v)).make s s.heap = _ := Changing.bind_eq made _
    have ran : ((replace (.value v)).step x).operation.act s s.heap = _ :=
      (act_replace named edited).trans (Heap.setValue_eq hc' o)
    rw [ran]
    exact shows_set within ⟨shows, cell'.location⟩ ⟨free, apart.file⟩
  | .replace (.location l) =>
    obtain ⟨o, now, made, hc', within, cell', shows, apart, free⟩ := new l.file
    have located : Object.ofValue l.toValue s.heap = (pure (.location o l.span), now) :=
      Changing.bind_eq made _
    have placed : (Term.constant l.toValue).makePlace s s.heap = (pure ⟨o, l.span⟩, now) :=
      Changing.bind_eq located fun p : Object => liftM p.asPlace
    have edited : (EditTerm.location (.constant l.toValue)).make s s.heap = _ :=
      Changing.bind_eq placed _
    have ran : ((replace (.location l)).step x).operation.act s s.heap = _ :=
      (act_replace named edited).trans (Heap.setLocation_eq hc' ⟨o, l.span⟩)
    rw [ran]
    exact shows_set within ⟨cell'.value, shows, rfl⟩ ⟨apart.value, free⟩
  | .replace (.file v) =>
    obtain ⟨o, now, made, hc', within, cell', shows, apart, free⟩ := new v
    have edited : (EditTerm.file (.constant v)).make s s.heap = _ := Changing.bind_eq made _
    have ran : ((replace (.file v)).step x).operation.act s s.heap = _ :=
      (act_replace named edited).trans (Heap.setFile_eq hc' o)
    rw [ran]
    exact shows_set within ⟨cell'.value, shows, cell'.location.span⟩ ⟨apart.value, free⟩
  | .replace (.span v) =>
    have edited : (EditTerm.span (.constant v)).make s s.heap = (pure (.span v), s.heap) := rfl
    have ran : ((replace (.span v)).step x).operation.act s s.heap = _ :=
      (act_replace named edited).trans (Heap.setSpan_eq hc v)
    have self := apart_of_shows hc cell
    rw [ran, run_replace, Edit.run, Changing.bind_pure, setSpan_snd]
    cases v.toSpan.result with
    | error fault => exact shows_located hc cell
    | ok span =>
      exact shows_set inside ⟨cell.value, cell.location.file, rfl⟩ ⟨self.value, self.file⟩
  | .assignValue v =>
    obtain ⟨o, now, made, hc', within, cell', shows, apart, free⟩ := new v
    have ran : ((assignValue v).step x).operation.act s s.heap = _ :=
      act_assign named made (Heap.assignValue_eq hc' o)
    rw [ran]
    exact shows_set within ⟨shows, cell'.location⟩ ⟨free, apart.file⟩
  | .assignLocation l =>
    obtain ⟨o, now, made, hc', within, cell', shows, apart, free⟩ := new l.file
    have located : Object.ofValue l.toValue s.heap = (pure (.location o l.span), now) :=
      Changing.bind_eq made _
    have ran : ((assignLocation l).step x).operation.act s s.heap = _ :=
      act_assign named located (Heap.assignLocation_eq hc' ⟨o, l.span⟩)
    rw [ran]
    exact shows_set within ⟨cell'.value, shows, rfl⟩ ⟨apart.value, free⟩

end Write

/-- A step leaves the located value in its variable as the write does, and the variable as it is. -/
theorem value?_run_step (h : s.value? x = some m.toValue) (w : Write) :
    ((w.step x).run s).2.value? x = some (w.run m).2.toValue := by
  obtain ⟨o, held, shows⟩ := Store.value?_eq_some_iff.1 h
  obtain ⟨r, c, rfl, hc, cell⟩ := exists_cell_of_shows shows
  have left := w.shows_act_step held hc cell
  rw [← Step.heap_run] at left
  refine Store.value?_eq_some_iff.2 ⟨_, (Step.object?_run_of_ne ?_).trans held, left⟩
  exact nofun

/-- A session whose steps make these writes to the located value in a variable leaves just that
there. -/
theorem value?_runSteps (h : s.value? x = some m.toValue) (ws : List Write) :
    (runSteps s (ws.map (Write.step x))).2.value? x = some (runWrites ws m).2.toValue := by
  induction ws generalizing s m with
  | nil => exact h
  | cons w ws ih => exact ih (value?_run_step h w)

end Whereabouts.Located
