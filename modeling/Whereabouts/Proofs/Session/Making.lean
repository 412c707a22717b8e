import Whereabouts.Proofs.Object.Collections
import Whereabouts.Script.Making

namespace Whereabouts

open Outcome

namespace Location

theorem ofParts_file (file spanLike : Value) :
    (ofParts file spanLike).Ensures fun l => l.file = file :=
  ensures_bind fun _ => ensures_pure rfl

theorem withSpan_file (l : Location) (spanLike : Value) :
    (l.withSpan spanLike).Ensures fun n => n.file = l.file :=
  ensures_bind fun _ => ofParts_file l.file _

theorem extend_file (l : Location) (spanLike : Value) :
    (l.extend spanLike).Ensures fun n => n.file = l.file :=
  ensures_bind fun _ => ofParts_file l.file _

theorem union_file (a b : Location) : (a.union b).Ensures fun n => n.file = a.file :=
  ensures_bind fun _ => ensures_pure rfl

theorem intersection?_file {a b l : Location} (h : a.intersection? b = some l) :
    l.file = a.file := by
  unfold intersection? at h
  split at h
  · obtain ⟨span, -, rfl⟩ := Option.map_eq_some_iff.1 h
    rfl
  · cases h

end Location

namespace Script

variable {s : Store} {h : Heap} {o : Object} {v : Value} {p : Place} {l : Location} {x : String}

theorem lookup_filter_ne {α : Type} (x y : String) (vars : List (String × α)) :
    (vars.filter fun e => e.1 != x).lookup y = if y = x then none else vars.lookup y := by
  induction vars with
  | nil => split <;> rfl
  | cons e vars ih =>
    obtain ⟨z, a⟩ := e
    by_cases dropped : z = x
    · have out : ((z, a).1 != x) = false := by simpa using dropped
      rw [List.filter_cons_of_neg (by rw [out]; exact Bool.false_ne_true), ih]
      by_cases same : y = x
      · rw [if_pos same, if_pos same]
      · have differ : (y == z) = false := by simpa [dropped] using same
        rw [if_neg same, if_neg same, List.lookup_cons, differ]
    · have kept : (z != x) = true := by simpa using dropped
      rw [List.filter_cons, if_pos kept, List.lookup_cons, List.lookup_cons, ih]
      by_cases found : y = z
      · have other : ¬y = x := by rw [found]; exact dropped
        rw [if_neg other, if_neg other]
      · have differ : (y == z) = false := by simpa using found
        rw [differ]

namespace Store

theorem get?_valuesIn (h : Heap) (vars : List (String × Object)) (x : String) :
    Bindings.get? (valuesIn h vars) x = (vars.lookup x).bind h.value? := by
  induction vars with
  | nil => rfl
  | cons e vars ih =>
    obtain ⟨y, o⟩ := e
    rw [valuesIn, List.lookup_cons]
    cases shown : h.value? o with
    | some v =>
      rw [Bindings.get?, List.lookup_cons]
      cases x == y with
      | true => exact shown.symm
      | false => exact ih
    | none =>
      change ((valuesIn h vars).filter fun e => e.1 != y).lookup x = _
      rw [lookup_filter_ne]
      by_cases same : x = y
      · rw [if_pos same, beq_iff_eq.2 same]
        exact shown.symm
      · have differ : (x == y) = false := by simpa using same
        rw [if_neg same, differ]
        exact ih

theorem value?_eq_some_iff : s.value? x = some v ↔ ∃ o, s.object? x = some o ∧ s.heap.Shows o v :=
  Option.bind_eq_some_iff

/-- The value of a variable is what its object shows. -/
theorem get?_values (s : Store) (x : String) : s.values.get? x = s.value? x :=
  get?_valuesIn s.heap s.vars x

end Store

namespace Term

theorem agrees_name (grown : s.heap <+: h) (x : String) :
    Agrees Heap.Shows ((name x).make s) ((name x).eval s.values) h := by
  unfold make eval
  rw [Store.get?_values, Store.value?]
  cases s.object? x with
  | none => exact agrees_fail _ h
  | some o =>
    rw [Option.bind_some]
    cases shown : s.heap.value? o with
    | none => exact agrees_fail _ h
    | some v => exact agrees_pure h (Heap.Shows.mono shown grown)

/-- A located value that is made of its parts, from left to right. -/
theorem agrees_makeLocated {n : Nat} (le : n ≤ h.length) {payload place : Term}
    (make₁ : Agrees Heap.Shows (payload.make s) (payload.eval s.values) h)
    (make₂ : ∀ h₁ : Heap, h <+: h₁ → Agrees Heap.Shows (place.make s) (place.eval s.values) h₁) :
    Agrees (Heap.ShowsNew n) ((located payload place).make s)
      ((located payload place).eval s.values) h := by
  refine make₁.bind fun o v h₁ grown value => (make₂ h₁ grown).bind fun q w h₂ grown₁ shows => ?_
  refine (agrees_asPlace shows).bind fun p l h₃ grown₂ place => ?_
  have cell : h₃.ShowsCell ⟨o, p⟩ ⟨v, l⟩ := ⟨value.mono (grown₁.trans grown₂), place⟩
  have longer := Nat.le_trans le (grown.trans (grown₁.trans grown₂)).length_le
  exact (agrees_alloc longer cell).answer fun _ _ _ _ shown => shown

mutual

/-- A term makes an object that shows its value. -/
theorem agrees_make : ∀ (t : Term) {h : Heap}, s.heap <+: h →
    Agrees Heap.Shows (t.make s) (t.eval s.values) h
  | constant v, h, _ => Object.agrees_ofValue v h
  | name x, _, grown => agrees_name grown x
  | list items, _, grown => (agrees_makeAll items grown).map fun _ _ _ _ => Object.shows_list
  | tuple items, _, grown => (agrees_makeAll items grown).map fun _ vs _ _ shows =>
    Option.map_eq_some_iff.2 ⟨vs, shows, rfl⟩
  | table entries, _, grown => (agrees_makeEntries entries grown).map fun _ es _ _ shows =>
    Option.map_eq_some_iff.2 ⟨es, shows, rfl⟩
  | location file spanLike, _, grown => by
    refine (agrees_make file grown).bind fun o f h₁ _ shows => ?_
    refine agrees_lift_bind fun v _ => ?_
    rw [Location.ofParts, bind_assoc]
    refine agrees_lift_bind fun span _ => agrees_pure h₁ ?_
    exact Option.map_eq_some_iff.2 ⟨f, shows, rfl⟩
  | located payload place, _, grown =>
    (agrees_makeLocated (Nat.zero_le _) (agrees_make payload grown)
      fun _ grown₁ => agrees_make place (grown.trans grown₁)).imp fun _ _ _ _ shown => shown.shows
  | ok value, _, grown => (agrees_make value grown).map fun _ _ _ _ => shows_ok
  | err error, _, grown => (agrees_make error grown).map fun _ _ _ _ => shows_err
  | stripped value, _, grown => (agrees_make value grown).map fun _ v _ _ shows =>
    Option.map_eq_some_iff.2 ⟨v, shows, rfl⟩
  | label role file span message, _, grown => by
    refine agrees_lift_bind fun v _ => agrees_lift_bind fun role _ => ?_
    exact (agrees_make file grown).map fun _ f _ _ shows =>
      Option.map_eq_some_iff.2 ⟨f, shows, rfl⟩

theorem agrees_makeAll : ∀ (ts : List Term) {h : Heap}, s.heap <+: h →
    Agrees (fun h os vs => h.values? os = some vs) (makeAll s ts) (evalAll s.values ts) h
  | [], h, _ => agrees_pure h rfl
  | t :: ts, _, grown => (agrees_make t grown).bind fun _ _ _ grown₁ first =>
    (agrees_makeAll ts (grown.trans grown₁)).map fun _ _ _ grown₂ rest =>
      Object.values?_cons (first.mono grown₂) rest

theorem agrees_makeEntries : ∀ (entries : List (Term × Term)) {h : Heap}, s.heap <+: h →
    Agrees (fun h os es => Object.entries? (h.look? h.length) os = some es)
      (makeEntries s entries) (evalEntries s.values entries) h
  | [], h, _ => agrees_pure h rfl
  | (k, t) :: entries, _, grown => (agrees_make k grown).bind fun _ _ _ grown₁ inKey =>
    (agrees_make t (grown.trans grown₁)).bind fun _ _ _ grown₂ first =>
      (agrees_makeEntries entries ((grown.trans grown₁).trans grown₂)).map
        fun _ _ _ grown₃ rest =>
          Object.entries?_cons ((inKey.mono grown₂).mono grown₃) (first.mono grown₃) rest

end

variable (t : Term)

theorem agrees_makePlace (grown : s.heap <+: h) :
    Agrees Heap.ShowsPlace (t.makePlace s) (t.place s.values) h :=
  (agrees_make t grown).bind fun _ _ _ _ => agrees_asPlace

theorem agrees_makeCell (grown : s.heap <+: h) :
    Agrees Heap.ShowsCell (t.makeCell s) (t.locatedValue s.values) h :=
  (agrees_make t grown).bind fun _ _ _ _ => agrees_asCell

end Term

/-- Whatever is made of the value anew shows it. -/
theorem agrees_made (answer : Outcome Value) (h : Heap) :
    Agrees Heap.Shows (do Object.ofValue (← answer)) answer h := by
  have made := agrees_lift_bind (Q := Heap.Shows) (o := answer) (h := h) (f := Object.ofValue)
    (g := pure) fun v _ => Object.agrees_ofValue v h
  rwa [bind_pure] at made

/-- If both values are locations, they are in one file. -/
def KeepsFile (v w : Value) : Prop :=
  ∀ file s file' s', v = .location file s → w = .location file' s' → file' = file

theorem keepsFile_of_no_location {v w : Value} (h : ∀ file s, w ≠ .location file s) :
    KeepsFile v w := fun _ _ _ _ _ same => absurd same (h _ _)

theorem agrees_like {v w : Value} (shows : h.Shows o v) (keeps : KeepsFile v w) :
    Agrees Heap.Shows (o.like w) (pure w) h := by
  cases shows.form with
  | @location file f span inFile =>
    cases w with
    | location f' span' =>
      obtain rfl : f' = f := keeps _ _ _ _ rfl rfl
      exact agrees_pure h (Option.map_eq_some_iff.2 ⟨f', inFile, rfl⟩)
    | _ => exact Object.agrees_ofValue _ h
  | _ => exact Object.agrees_ofValue w h

/-- A function does to objects, from this heap on, what it does to the values that these show. -/
def AgreesOn (h : Heap) (f : Object → Changing Heap Object) (g : Value → Outcome Value) : Prop :=
  ∀ o v (h₁ : Heap), h <+: h₁ → h₁.Shows o v → Agrees Heap.Shows (f o) (g v) h₁

theorem AgreesOn.mono {h₁ : Heap} {f : Object → Changing Heap Object} {g : Value → Outcome Value}
    (agrees : AgreesOn h f g) (grown : h <+: h₁) : AgreesOn h₁ f g :=
  fun o v h₂ later => agrees o v h₂ (grown.trans later)

/-- A call, with its event. -/
theorem AgreesOn.call {f : Object → Changing Heap Object} {g : Value → Outcome Value}
    (agrees : AgreesOn h f g) (shows : h.Shows o v) :
    Agrees Heap.Shows (f o).counted (g v).counted h :=
  (agrees o v h List.prefix_rfl shows).counted

theorem agreesOn_like {g : Value → Outcome Value} (keeps : ∀ v, (g v).Ensures (KeepsFile v)) :
    AgreesOn h (fun o => do o.like (← g (← o.view))) g := by
  intro o v h₁ _ shows
  have made := agrees_of_reads (f := fun v => do o.like (← g v)) (p := g v >>= pure)
    (view_eq shows) (agrees_lift_bind fun w answered => agrees_like shows (keeps v w answered))
  rwa [bind_pure] at made

theorem keepsFile_onLocation {f : Location → Outcome Location}
    (keeps : ∀ l, (f l).Ensures fun n => n.file = l.file) (v : Value) :
    (onLocation f v).Ensures (KeepsFile v) := by
  intro w answered file s file' s' rfl rfl
  obtain ⟨l, viewed, rest⟩ := result_bind_eq_ok_iff.1 answered
  cases viewed
  obtain ⟨n, moved, same⟩ := result_bind_eq_ok_iff.1 rest
  cases same
  exact keeps _ n moved

theorem readNumber_ne_location (text : String) (file : Value) (span : Span) :
    readNumber text ≠ .location file span := by
  unfold readNumber
  split <;> exact Value.noConfusion

/-- What is made of a value by a function that is no location, or stays in the file. -/
theorem agrees_make_like {g : Outcome (Value → Outcome Value)}
    (keeps : g.Ensures fun g => ∀ v, (g v).Ensures (KeepsFile v)) :
    Agrees AgreesOn (do
      let g ← g
      return fun o => do Object.like o (← g (← o.view))) g h :=
  agrees_lift_map fun g answered => agreesOn_like (keeps g answered)

theorem Callback.agrees_make (f : Callback) (grown : s.heap <+: h) :
    Agrees AgreesOn (f.make s) (f.resolve s.values) h := by
  cases f with
  | identity => exact agrees_pure h fun o v h₁ _ shows => agrees_pure h₁ shows
  | constant value =>
    refine (value.agrees_make grown).map fun o v h₁ _ shows => ?_
    exact fun _ _ h₂ grown₁ _ => agrees_pure h₂ (shows.mono grown₁)
  | pair => exact agrees_pure h fun o v h₁ _ shows => agrees_pure h₁ (shows_pair shows shows)
  | singleton =>
    exact agrees_pure h fun o v h₁ _ shows =>
      agrees_pure h₁ (Object.shows_list (Object.values?_cons shows rfl))
  | ok => exact agrees_pure h fun o v h₁ _ shows => agrees_pure h₁ (shows_ok shows)
  | err => exact agrees_pure h fun o v h₁ _ shows => agrees_pure h₁ (shows_err shows)
  | withFile file =>
    refine (file.agrees_make grown).map fun o f h₁ _ inFile => ?_
    intro o' v h₂ grown₁ shows
    exact (agrees_asPlace shows).map (g := fun l => (l.withFile f).toValue)
      fun p l h₃ grown₂ place =>
        Heap.ShowsPlace.toObject (p := ⟨o, p.span⟩) (l := l.withFile f)
          ⟨(inFile.mono grown₁).mono grown₂, place.span⟩
  | display | debug =>
    exact agrees_make_like (ensures_pure fun v =>
      ensures_pure (keepsFile_of_no_location fun _ _ => Value.noConfusion))
  | length | increment | upper =>
    exact agrees_make_like (ensures_pure fun v => ensures_bind fun _ =>
      ensures_pure (keepsFile_of_no_location fun _ _ => Value.noConfusion))
  | parseInt =>
    exact agrees_make_like (ensures_pure fun v => ensures_bind fun text =>
      ensures_pure (keepsFile_of_no_location (readNumber_ne_location text)))
  | fail message =>
    refine agrees_make_like (ensures_bind fun _ => ensures_pure fun v w answered => ?_)
    cases answered
  | stopAt stop =>
    exact agrees_make_like (ensures_bind fun _ => ensures_pure
      (keepsFile_onLocation fun l => ensures_pure rfl))
  | withSpan spanLike =>
    exact agrees_make_like (ensures_bind fun _ => ensures_pure
      (keepsFile_onLocation fun l => l.withSpan_file _))
  | extend spanLike =>
    exact agrees_make_like (ensures_bind fun _ => ensures_pure
      (keepsFile_onLocation fun l => l.extend_file _))
  | narrow left right =>
    exact agrees_make_like (ensures_bind fun _ => ensures_bind fun _ => ensures_pure
      (keepsFile_onLocation fun l => ensures_pure rfl))

/-- The map of a payload does to objects what it does to values. -/
theorem PayloadMap.agrees_make (f : PayloadMap) (grown : s.heap <+: h) :
    Agrees (fun h g k => ∀ o v p l (h₁ : Heap), h <+: h₁ → h₁.Shows o v → h₁.ShowsPlace p l →
      Agrees Heap.Shows (g o p) (k v l) h₁) (f.make s) (f.resolve s.values) h := by
  cases f with
  | extract =>
    refine agrees_pure h fun o v p l h₁ _ shows place => ?_
    refine agrees_of_reads (view_eq shows) ?_
    rw [place.span]
    exact agrees_made (extractFrom l.span v) h₁
  | function f =>
    exact (f.agrees_make grown).map fun g k h₁ _ agrees o v p l h₂ grown₁ shows _ =>
      agrees o v h₂ grown₁ shows

theorem agrees_askPlace {f : Object → Changing Heap Object} {g : Value → Outcome Value}
    (agrees : AgreesOn h f g) : Agrees Heap.ShowsPlace (askPlace f) (askLocation g) h :=
  (agrees.call (o := .absent) (v := .absent) rfl).bind fun _ _ _ _ => agrees_asPlace

/-- A located value and a function are evaluated before anything else is done with them. -/
theorem agrees_onCell {β γ : Type} {Q : Heap → β → γ → Prop} {located : Term} {f : Callback}
    {k : Cell → (Object → Changing Heap Object) → Changing Heap β}
    {k' : Located → (Value → Outcome Value) → Outcome γ} (grown : s.heap <+: h)
    (hk : ∀ c m f g (h₁ : Heap), s.heap.length ≤ h₁.length → h₁.ShowsCell c m → AgreesOn h₁ f g →
      Agrees Q (k c f) (k' m g) h₁) :
    Agrees Q
      (do
        let c ← located.makeCell s
        k c (← f.make s))
      (do
        let m ← located.locatedValue s.values
        k' m (← f.resolve s.values)) h := by
  refine (located.agrees_makeCell grown).bind fun c m h₁ grown₁ cell => ?_
  refine (f.agrees_make (grown.trans grown₁)).bind fun f g h₂ grown₂ agrees => ?_
  have le := (grown.trans (grown₁.trans grown₂)).length_le
  exact hk c m f g h₂ le (cell.mono grown₂) agrees

end Script
end Whereabouts
