import Whereabouts.Proofs.Object.Agreement

namespace Whereabouts

open Script

variable {h : Heap} {o : Object} {v : Value} {p : Place} {l : Location} {c : Cell} {m : Located}

theorem shows_pair {a b : Object} {v w : Value} (ha : h.Shows a v) (hb : h.Shows b w) :
    h.Shows (.tuple [a, b]) (.tuple [v, w]) := by
  have first : a.value? (h.look? h.length) = some v := ha
  have second : b.value? (h.look? h.length) = some w := hb
  simp only [Heap.Shows, Heap.value?, Object.value?, Object.values?, first, second,
    Option.bind_some, Option.map_some]

theorem shows_ok (shows : h.Shows o v) : h.Shows (.ok o) (.ok v) :=
  Option.map_eq_some_iff.2 ⟨v, shows, rfl⟩

theorem shows_err (shows : h.Shows o v) : h.Shows (.err o) (.err v) :=
  Option.map_eq_some_iff.2 ⟨v, shows, rfl⟩

namespace Place

/-- A function that keeps the file of a location moves a place. -/
theorem agrees_move (shows : h.ShowsPlace p l) {f : Location → Outcome Location}
    (keeps : (f l).Ensures fun n => n.file = l.file) :
    Agrees Heap.ShowsPlace (p.move f) (f l) h := by
  refine agrees_of_reads (place_view_eq shows) ?_
  refine agrees_lift_map fun n moved => ⟨?_, rfl⟩
  rw [keeps n moved]
  exact shows.file

theorem agrees_mapFile (shows : h.ShowsPlace p l) {f : Object → Changing Heap Object}
    {g : Value → Outcome Value} (hf : Agrees Heap.Shows (f p.file) (g l.file) h) :
    Agrees Heap.ShowsPlace (p.mapFile f) (l.mapFile g) h :=
  hf.map fun _ _ _ _ file => ⟨file, shows.span⟩

end Place

theorem Object.New.ok {n : Nat} (new : o.New n) : (Object.ok o).New n := by
  cases o with
  | located r => exact new
  | _ => trivial

namespace Heap

variable {n : Nat}

theorem ShowsNew.ok (shows : h.ShowsNew n o v) : h.ShowsNew n (.ok o) (.ok v) :=
  ⟨shows_ok shows.shows, shows.new.ok⟩

end Heap

namespace Cell

variable {n : Nat} (le : n ≤ h.length)

include le

theorem agrees_map (shows : h.ShowsCell c m) {f : Object → Changing Heap Object}
    {g : Value → Outcome Value} (hf : Agrees Heap.Shows (f c.value) (g m.value) h) :
    Agrees (fun h o (m : Located) => h.ShowsNew n o m.toValue) (c.map f) (m.map g) h :=
  hf.bind fun _ _ _ grown value =>
    agrees_alloc (Nat.le_trans le grown.length_le) ⟨value, (shows.mono grown).location⟩

theorem agrees_mapLocation (shows : h.ShowsCell c m) {f : Place → Changing Heap Place}
    {g : Location → Outcome Location} (hf : Agrees Heap.ShowsPlace (f c.place) (g m.location) h) :
    Agrees (fun h o (m : Located) => h.ShowsNew n o m.toValue) (c.mapLocation f)
      (m.mapLocation g) h :=
  hf.bind fun _ _ _ grown place =>
    agrees_alloc (Nat.le_trans le grown.length_le) ⟨(shows.mono grown).value, place⟩

theorem agrees_mapWithLocation {f : Object → Place → Changing Heap Cell}
    {g : Value → Location → Outcome Located}
    (hf : Agrees Heap.ShowsCell (f c.value c.place) (g m.value m.location) h) :
    Agrees (fun h o (m : Located) => h.ShowsNew n o m.toValue) (c.mapWithLocation f)
      (m.mapWithLocation g) h := by
  rw [Located.mapWithLocation, ← bind_pure (g _ _)]
  exact hf.bind fun _ _ _ grown shows => agrees_alloc (Nat.le_trans le grown.length_le) shows

theorem agrees_tryMap (shows : h.ShowsCell c m) {f : Object → Changing Heap Object}
    {g : Value → Outcome Value} (hf : Agrees Heap.Shows (f c.value) (g m.value) h) :
    Agrees (Heap.ShowsNew n) (c.tryMap f) (m.tryMap g) h := by
  refine hf.bind fun o v h₁ grown result => ?_
  cases result.form with
  | ok value =>
    have cell : h₁.ShowsCell { c with value := _ } { m with value := _ } :=
      ⟨value, (shows.mono grown).location⟩
    exact (agrees_alloc (Nat.le_trans le grown.length_le) cell).map
      (g := fun n => Value.ok n.toValue) fun _ _ _ _ => Heap.ShowsNew.ok
  | err error => exact agrees_pure h₁ ⟨result, trivial⟩
  | plain v undivided => cases v <;> first | exact agrees_fail _ h₁ | cases undivided
  | _ => exact agrees_fail _ h₁

theorem agrees_transpose (shows : h.ShowsCell c m) : Agrees (Heap.ShowsNew n) c.transpose
    (pure ((m.transpose?.map Located.toValue).getD .absent)) h := by
  obtain ⟨o, p⟩ := c
  obtain ⟨v, l⟩ := m
  have stored := (agrees_alloc le shows).answer (g := Located.toValue) fun _ _ _ _ shown => shown
  cases shows.value.form with
  | plain v undivided =>
    cases v <;> first | exact stored | exact agrees_pure h ⟨rfl, trivial⟩
  | _ => exact stored

theorem agrees_unwrap (shows : h.ShowsCell c m) :
    Agrees (fun h o (m : Located) => h.ShowsNew n o m.toValue) c.unwrap m.unwrap h := by
  obtain ⟨o, p⟩ := c
  obtain ⟨v, l⟩ := m
  have refused : Agrees (fun h o (m : Located) => h.ShowsNew n o m.toValue)
      (do Outcome.fail (.absentPayload (← p.view))) (Outcome.fail (.absentPayload l)) h :=
    agrees_of_reads (place_view_eq shows.location) (agrees_fail _ h)
  cases shows.value.form with
  | plain v undivided =>
    cases v <;> first | exact agrees_alloc le shows | exact refused
  | _ => exact agrees_alloc le shows

end Cell

namespace Object

/-- An optional located value, as a cell and as a value. -/
inductive ShowsOptional (h : Heap) : Option Cell → Option Located → Prop where
  | none : ShowsOptional h none none
  | some {c : Cell} {m : Located} : h.ShowsCell c m → ShowsOptional h (some c) (some m)

theorem ShowsOptional.mono {h₁ : Heap} {cell? : Option Cell} {located? : Option Located}
    (shows : ShowsOptional h cell? located?) (grown : h <+: h₁) :
    ShowsOptional h₁ cell? located? := by
  cases shows with
  | none => exact .none
  | some shows => exact .some (shows.mono grown)

theorem agrees_asOptional (shows : h.Shows o v) : Agrees ShowsOptional o.asOptional
    (expect "a located value or nothing" Optional.ofValue? v) h := by
  cases shows.form with
  | located hc held => exact agrees_of_reads (cell_eq hc) (agrees_pure h (.some held))
  | plain v undivided =>
    cases v <;> first | exact agrees_fail _ h | exact agrees_pure h .none | cases undivided
  | _ => exact agrees_fail _ h

theorem agrees_locate? {n : Nat} (le : n ≤ h.length) (shows : h.Shows o v)
    (place : h.ShowsPlace p l) : Agrees (Heap.ShowsNew n) (o.locate? p)
      (pure (Optional.toValue (Optional.locate? v l))) h := by
  have cell : h.ShowsCell ⟨o, p⟩ ⟨v, l⟩ := ⟨shows, place⟩
  have stored := (agrees_alloc le cell).answer (g := Located.toValue) fun _ _ _ _ shown => shown
  cases shows.form with
  | plain v undivided =>
    cases v <;> first | exact stored | exact agrees_pure h ⟨rfl, trivial⟩
  | _ => exact stored

variable {cell? : Option Cell} {located? : Option Located}

theorem shows_stripOptional (shows : ShowsOptional h cell? located?) :
    h.Shows (stripOptional cell?) (Optional.strip located?) := by
  cases shows with
  | none => rfl
  | some shows => exact shows.value

theorem shows_splitOptional (shows : ShowsOptional h cell? located?) :
    h.Shows (splitOptional cell?) (.tuple [(Optional.split located?).1,
      ((Optional.split located?).2.map Location.toValue).getD .absent]) := by
  cases shows with
  | none => rfl
  | some shows => exact shows_pair shows.value shows.location.toObject

theorem agrees_toLocated {n : Nat} (le : n ≤ h.length) (shows : ShowsOptional h cell? located?)
    {x : Changing Heap Place} {q : Outcome Location} (hx : Agrees Heap.ShowsPlace x q h) :
    Agrees (fun h o (m : Located) => h.ShowsNew n o m.toValue) (toLocated cell? x)
      (Optional.toLocated located? q) h := by
  cases shows with
  | none =>
    exact hx.bind fun _ _ _ grown place =>
      agrees_alloc (Nat.le_trans le grown.length_le) ⟨rfl, place⟩
  | some shows => exact agrees_alloc le shows

/-- The sides of a result, as objects and as values. -/
inductive ShowsSide (h : Heap) : Except Object Object → Except Value Value → Prop where
  | ok {o : Object} {v : Value} : h.Shows o v → ShowsSide h (.ok o) (.ok v)
  | error {o : Object} {v : Value} : h.Shows o v → ShowsSide h (.error o) (.error v)

theorem agrees_sides (shows : h.Shows o v) :
    Agrees ShowsSide (liftM o.sides) (Fallible.sides v) h := by
  cases shows.form with
  | ok value => exact agrees_pure h (.ok value)
  | err error => exact agrees_pure h (.error error)
  | plain v undivided => cases v <;> first | exact agrees_fail _ h | cases undivided
  | _ => exact agrees_fail _ h

theorem agrees_locateResult {n : Nat} (le : n ≤ h.length) (shows : h.Shows o v)
    (place : h.ShowsPlace p l) :
    Agrees (Heap.ShowsNew n) (o.locateResult p) (Fallible.locate v l) h := by
  cases shows.form with
  | ok value =>
    have cell : h.ShowsCell ⟨_, p⟩ ⟨_, l⟩ := ⟨value, place⟩
    exact (agrees_alloc le cell).map (g := fun n => Value.ok n.toValue)
      fun _ _ _ _ => Heap.ShowsNew.ok
  | err error => exact agrees_pure h ⟨shows, trivial⟩
  | plain v undivided => cases v <;> first | exact agrees_fail _ h | cases undivided
  | _ => exact agrees_fail _ h

/-- The located value in a side of a result. -/
theorem agrees_located (shows : h.Shows o v) :
    Agrees Heap.ShowsCell o.asCell (Fallible.located v) h := by
  have same : Fallible.located v = asLocated v := by
    unfold Fallible.located asLocated expect
    cases Located.ofValue? v <;> rfl
  rw [same]
  exact agrees_asCell shows

theorem agrees_stripResult (shows : h.Shows o v) :
    Agrees Heap.Shows o.stripResult (Fallible.strip v) h := by
  refine (agrees_sides shows).bind fun _ _ h₁ grown side => ?_
  cases side with
  | ok value => exact (agrees_located value).map fun _ _ _ _ cell => shows_ok cell.value
  | error error => exact agrees_pure h₁ (shows.mono grown)

theorem agrees_splitResult (shows : h.Shows o v) :
    Agrees (fun h o (r : Value × Option Location) =>
      h.Shows o (.tuple [r.1, (r.2.map Location.toValue).getD .absent]))
      o.splitResult (Fallible.split v) h := by
  refine (agrees_sides shows).bind fun _ _ h₁ grown side => ?_
  cases side with
  | ok value =>
    exact (agrees_located value).map fun _ _ _ _ cell =>
      shows_pair (shows_ok cell.value) cell.location.toObject
  | error error => exact agrees_pure h₁ (shows_pair (shows.mono grown) rfl)

theorem agrees_locateError (shows : h.Shows o v) {x : Changing Heap Place} {q : Outcome Location}
    (hx : ∀ h₁ : Heap, h <+: h₁ → Agrees Heap.ShowsPlace x q h₁) :
    Agrees Heap.Shows (o.locateError x) (Fallible.locateError v q) h := by
  refine (agrees_sides shows).bind fun _ _ h₁ grown side => ?_
  cases side with
  | ok value => exact agrees_pure h₁ (shows.mono grown)
  | error error =>
    refine (hx h₁ grown).bind fun p l h₂ grown₁ place => ?_
    have cell : h₂.ShowsCell ⟨_, p⟩ ⟨_, l⟩ := ⟨error.mono grown₁, place⟩
    exact (agrees_alloc (Nat.zero_le _) cell).map (g := fun n => Value.err n.toValue)
      fun _ _ _ _ shown => shows_err shown.shows

theorem agrees_mapError (shows : h.Shows o v) {f : Object → Changing Heap Object}
    {g : Value → Outcome Value}
    (hf : ∀ o v (h₁ : Heap), h <+: h₁ → h₁.Shows o v → Agrees Heap.Shows (f o) (g v) h₁) :
    Agrees Heap.Shows (o.mapError f) (Fallible.mapError v g) h := by
  refine (agrees_sides shows).bind fun _ _ h₁ grown side => ?_
  cases side with
  | ok value => exact agrees_pure h₁ (shows.mono grown)
  | error error =>
    refine (agrees_located error).bind fun c m h₂ grown₁ cell => ?_
    have mapped := Cell.agrees_map (Nat.zero_le _) cell
      (hf _ _ h₂ (grown.trans grown₁) cell.value)
    exact mapped.map fun _ _ _ _ shown => shows_err shown.shows

end Object
end Whereabouts
