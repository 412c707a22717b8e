import Whereabouts.Located.InPlace
import Whereabouts.Proofs.Object.Agreement

/-!
# Writing to one cell

`WritesTo`: a computation on the heap does to one cell what a computation in place does to the
located value there, and nothing to any other. What is written shows, by the heap before, what the
other one leaves. The heap afterwards shows the same as long as nothing that is stored in the cell
holds the cell itself (`shows_set`).
-/
namespace Whereabouts

variable {h h' : Heap} {r : Ref} {c : Cell} {m : Located} {o : Object} {v : Value}

/-- A computation goes with one on the located value at `r`. It ends like that, leaves all other
cells as they are, and after a fault that one too. -/
structure WritesTo {α β : Type} (r : Ref) (R : Heap → β → α → Prop) (x : Changing Heap β)
    (y : Located.InPlace α) (h : Heap) (m : Located) : Prop where
  ended : EndAlike (R h) (x h).1.result (y m).1.result
  left : ∃ c, h.ShowsCell c (y m).2 ∧ (x h).2 = h.set r c
  refused : ∀ fault, (y m).1.result = .error fault → (x h).2 = h

/-- One write, of a cell that shows what is left. -/
theorem WritesTo.of_eq {α β : Type} {R : Heap → β → α → Prop} {x : Changing Heap β}
    {y : Located.InPlace α} {b : β} {a : α} {n : Located} (ran : x h = (pure b, h.set r c))
    (done : y m = (pure a, n)) (related : R h b a) (shows : h.ShowsCell c n) :
    WritesTo r R x y h m := by
  refine ⟨?_, ⟨c, ?_, ?_⟩, ?_⟩
  · rw [ran, done]; exact .ok related
  · rw [done]; exact shows
  · rw [ran]
  · intro fault refused
    rw [done] at refused
    cases refused

theorem set_of_getElem? (hc : h[r]? = some c) : h.set r c = h := by
  obtain ⟨inside, rfl⟩ := List.getElem?_eq_some_iff.1 hc
  exact List.set_getElem_self inside

/-- A refusal before anything has been written. -/
theorem WritesTo.of_fail {α β : Type} {R : Heap → β → α → Prop} {x : Changing Heap β}
    {y : Located.InPlace α} {fault : Fault} (hc : h[r]? = some c) (held : h.ShowsCell c m)
    (ran : x h = (.fail fault, h)) (done : y m = (.fail fault, m)) : WritesTo r R x y h m := by
  refine ⟨?_, ⟨c, ?_, ?_⟩, ?_⟩
  · rw [ran, done]; exact .error fault
  · rw [done]; exact held
  · rw [ran, set_of_getElem? hc]
  · intro _ _; rw [ran]

/-- Something else is given back by the computation on the heap. -/
theorem WritesTo.map {α β γ : Type} {R : Heap → β → α → Prop} {S : Heap → γ → α → Prop}
    {x : Changing Heap β} {y : Located.InPlace α} (writes : WritesTo r R x y h m) (f : β → γ)
    (imp : ∀ b a, R h b a → S h (f b) a) :
    WritesTo r S (x >>= fun b => pure (f b)) y h m := by
  obtain ⟨ended, ⟨c, shows, left⟩, refused⟩ := writes
  have run := Changing.bind_pure x f h
  refine ⟨?_, ⟨c, shows, ?_⟩, ?_⟩
  · rw [run, Outcome.result_bind]
    generalize (x h).1.result = ending, (y m).1.result = ending' at ended
    cases ended with
    | ok related => exact .ok (imp _ _ related)
    | error fault => exact .error fault
  · rw [run]; exact left
  · rw [run]; exact refused

namespace Heap

theorem assignValue_eq (hc : h[r]? = some c) (o : Object) :
    assignValue r o h = (pure (), h.set r { c with value := o }) :=
  Changing.bind_eq (cell_eq hc) _

theorem assignLocation_eq (hc : h[r]? = some c) (p : Place) :
    assignLocation r p h = (pure (), h.set r { c with place := p }) :=
  Changing.bind_eq (cell_eq hc) _

theorem setValue_eq (hc : h[r]? = some c) (o : Object) :
    setValue r o h = (pure c.value, h.set r { c with value := o }) :=
  (Changing.bind_eq (cell_eq hc) _).trans (Changing.bind_eq (assignValue_eq hc o) _)

theorem setLocation_eq (hc : h[r]? = some c) (p : Place) :
    setLocation r p h = (pure c.place.toObject, h.set r { c with place := p }) :=
  (Changing.bind_eq (cell_eq hc) _).trans (Changing.bind_eq (assignLocation_eq hc p) _)

theorem setFile_eq (hc : h[r]? = some c) (o : Object) : setFile r o h =
    (pure c.place.file, h.set r { c with place := { c.place with file := o } }) :=
  (Changing.bind_eq (cell_eq hc) _).trans <| (Changing.bind_eq (cell_eq hc) _).trans <|
    Changing.bind_eq (assignLocation_eq hc _) _

theorem setSpan_eq (hc : h[r]? = some c) (spanLike : Value) : setSpan r spanLike h =
    (do
      let _ ← spanLike.toSpan
      return .plain (.span c.place.span) rfl,
    match spanLike.toSpan.result with
    | .ok s => h.set r { c with place := { c.place with span := s } }
    | .error _ => h) := by
  refine (Changing.bind_eq (cell_eq hc) _).trans ?_
  generalize spanLike.toSpan = converted
  obtain ⟨events, fault | s⟩ := converted
  · rfl
  · refine (Changing.bind_of_ok (a := s) rfl _).trans ?_
    have read := Changing.bind_eq (cell_eq hc) fun c' : Cell => do
      assignLocation r (← c'.place.withSpan (.span s))
      return (.plain (.span c.place.span) rfl : Object)
    have placed := read.trans (Changing.bind_eq (a := { c.place with span := s }) rfl _)
    have written := placed.trans (Changing.bind_eq (assignLocation_eq hc _) _)
    exact congrArg (fun ran : Outcome Object × Heap => (ran.1.following events, ran.2)) written

end Heap

/-- What takes the place of a part, as an object and as a value. -/
inductive ShowsEdit (h : Heap) : Object.Edit → Located.Edit → Prop where
  | value {o : Object} {v : Value} : h.Shows o v → ShowsEdit h (.value o) (.value v)
  | location {p : Place} {l : Location} : h.ShowsPlace p l → ShowsEdit h (.location p) (.location l)
  | span (spanLike : Value) : ShowsEdit h (.span spanLike) (.span spanLike)
  | file {o : Object} {v : Value} : h.Shows o v → ShowsEdit h (.file o) (.file v)

theorem writesTo_setSpan (hc : h[r]? = some c) (held : h.ShowsCell c m) (spanLike : Value) :
    WritesTo r Heap.Shows (Heap.setSpan r spanLike) (Located.Edit.span spanLike).run h m := by
  have ran := Heap.setSpan_eq hc spanLike
  have done : (Located.Edit.span spanLike).run m = _ := Changing.bind_pure _ Value.span m
  rw [Located.setSpan_fst, Located.setSpan_snd] at done
  generalize spanLike.toSpan = converted at ran done
  obtain ⟨events, fault | s⟩ := converted
  · refine ⟨?_, ⟨c, ?_, ?_⟩, ?_⟩
    · rw [ran, done]; exact .error fault
    · rw [done]; exact held
    · rw [ran, set_of_getElem? hc]
    · intro _ _; rw [ran]
  · refine ⟨?_, ⟨{ c with place := { c.place with span := s } }, ?_, ?_⟩, ?_⟩
    · rw [ran, done]; exact .ok (congrArg (some <| Value.span ·) held.location.span)
    · rw [done]; exact ⟨held.value, held.location.file, rfl⟩
    · rw [ran]
    · intro fault refused
      rw [done] at refused
      cases refused

/-- The replacement of a part of a cell does what it does to the located value. -/
theorem writesTo_edit (hc : h[r]? = some c) (held : h.ShowsCell c m) {e : Object.Edit}
    {w : Located.Edit} (shows : ShowsEdit h e w) :
    WritesTo r Heap.Shows (e.run r) w.run h m := by
  cases shows with
  | value value => exact .of_eq (Heap.setValue_eq hc _) rfl held.value ⟨value, held.location⟩
  | location place =>
    exact .of_eq (Heap.setLocation_eq hc _) rfl held.location.toObject ⟨held.value, place⟩
  | span spanLike => exact writesTo_setSpan hc held spanLike
  | file file =>
    exact .of_eq (Heap.setFile_eq hc _) rfl held.location.file
      ⟨held.value, file, held.location.span⟩

/-- Nothing that is stored in a cell holds the cell itself. -/
structure Heap.Apart (h : Heap) (c : Cell) (r : Ref) : Prop where
  value : ¬h.Holds c.value r
  file : ¬h.Holds c.place.file r

/-- What does not hold the cell that is written to shows the same. -/
theorem Heap.Shows.set (shows : h.Shows o v) (apart : ¬h.Holds o r) (c : Cell) :
    Heap.Shows (h.set r c) o v := by
  refine Heap.value?_of_kept (fun r' c' held hc => ?_) shows
  have other : r ≠ r' := fun same => apart (same ▸ held)
  rw [List.getElem?_set_ne other]
  exact hc

/-- A located value that is written to shows what has been written. -/
theorem shows_set (inside : r < h.length) (shows : h.ShowsCell c m) (apart : h.Apart c r) :
    Heap.Shows (h.set r c) (.located r) m.toValue := by
  refine shows_located (List.getElem?_set_self inside) ⟨?_, ?_, shows.location.span⟩
  · exact shows.value.set apart.value c
  · exact shows.location.file.set apart.file c

end Whereabouts
