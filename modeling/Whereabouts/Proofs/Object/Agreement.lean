import Whereabouts.Proofs.Object.Showing
import Whereabouts.Script.Making

/-!
# Objects go with the values that they show

`Agrees`: a computation on objects ends like one on values, with the same events and the same fault
or with an object for the value, and all that it does to the heap is to store new cells. Agreement
goes through a bind, where the cells that have been stored meanwhile make no difference.
-/
namespace Whereabouts

/-- The object shows the value. -/
abbrev Heap.Shows (h : Heap) (o : Object) (v : Value) : Prop := h.value? o = some v

/-- No located value that stands here for itself, or in a successful result, is among the first
`n`. -/
def Object.New (n : Nat) : Object → Prop
  | .located r => n ≤ r
  | .ok (.located r) => n ≤ r
  | _ => True

/-- The object shows the value, and stands for a new located value if it stands for one. -/
structure Heap.ShowsNew (n : Nat) (h : Heap) (o : Object) (v : Value) : Prop where
  shows : h.Shows o v
  new : o.New n

/-- The place shows the location. -/
structure Heap.ShowsPlace (h : Heap) (p : Place) (l : Location) : Prop where
  file : h.Shows p.file l.file
  span : p.span = l.span

/-- The cell shows the located value. -/
structure Heap.ShowsCell (h : Heap) (c : Cell) (m : Located) : Prop where
  value : h.Shows c.value m.value
  location : h.ShowsPlace c.place m.location

/-- Two computations end alike: with results that belong together or with one fault. -/
inductive EndAlike {α β : Type} (R : β → α → Prop) : Except Fault β → Except Fault α → Prop where
  | ok {b : β} {a : α} : R b a → EndAlike R (.ok b) (.ok a)
  | error (fault : Fault) : EndAlike R (.error fault) (.error fault)

theorem EndAlike.map {α β γ : Type} {R : β → α → Prop} {S : β → γ → Prop} {g : α → γ}
    {r : Except Fault β} {r' : Except Fault α} (h : EndAlike R r r')
    (imp : ∀ b a, R b a → S b (g a)) : EndAlike S r (r'.map g) := by
  cases h with
  | ok related => exact .ok (imp _ _ related)
  | error fault => exact .error fault

/-- A computation on objects stores new cells at most, and otherwise is like the one on values. -/
structure Agrees {α β : Type} (R : Heap → β → α → Prop) (x : Changing Heap β) (o : Outcome α)
    (h : Heap) : Prop where
  grown : h <+: (x h).2
  events : (x h).1.events = o.events
  ended : EndAlike (R (x h).2) (x h).1.result o.result

section Rules

variable {α β γ δ : Type} {R : Heap → β → α → Prop} {Q : Heap → δ → γ → Prop}
  {x : Changing Heap β} {o : Outcome α} {h : Heap}

theorem agrees_pure {b : β} {a : α} (h : Heap) (related : R h b a) :
    Agrees R (pure b) (pure a) h :=
  ⟨List.prefix_rfl, rfl, .ok related⟩

theorem agrees_fail (fault : Fault) (h : Heap) :
    Agrees R (liftM (Outcome.fail fault : Outcome β)) (Outcome.fail fault) h :=
  ⟨List.prefix_rfl, rfl, .error fault⟩

theorem Agrees.bind {f : β → Changing Heap δ} {g : α → Outcome γ} (hx : Agrees R x o h)
    (hf : ∀ b a (h' : Heap), h <+: h' → R h' b a → Agrees Q (f b) (g a) h') :
    Agrees Q (x >>= f) (o >>= g) h := by
  obtain ⟨grown, events, ended⟩ := hx
  obtain ⟨before, result⟩ := o
  generalize answered : (x h).1.result = ending at ended
  cases ended with
  | ok related =>
    obtain ⟨grown', events', ended'⟩ := hf _ _ (x h).2 grown related
    have left := Changing.bind_of_ok answered f
    refine ⟨?_, ?_, ?_⟩
    · rw [left]; exact grown.trans grown'
    · rw [left]
      change (x h).1.events ++ _ = before ++ _
      rw [events, events']
    · rw [left]; exact ended'
  | error fault =>
    have left := Changing.bind_of_error answered f
    refine ⟨?_, ?_, ?_⟩
    · rw [left]; exact grown
    · rw [left]; exact events
    · rw [left]; exact .error fault

/-- A step that is taken on objects alone, and only reads. -/
theorem agrees_of_reads {f : β → Changing Heap δ} {p : Outcome γ} {b : β}
    (reads : x h = (pure b, h)) (hf : Agrees Q (f b) p h) : Agrees Q (x >>= f) p h := by
  have same : (x >>= f) h = f b h := Changing.bind_eq reads f
  obtain ⟨grown, events, ended⟩ := hf
  exact ⟨by rw [same]; exact grown, by rw [same]; exact events, by rw [same]; exact ended⟩

theorem agrees_read {b : β} {a : α} (reads : x h = (pure b, h)) (related : R h b a) :
    Agrees R x (pure a) h := by
  refine ⟨?_, ?_, ?_⟩
  · simp only [reads, List.prefix_rfl]
  · exact congrArg (fun ran : Outcome β × Heap => ran.1.events) reads
  · rw [reads]; exact .ok related

/-- An outcome that is the same on both sides. -/
theorem agrees_lift_bind {f : α → Changing Heap δ} {g : α → Outcome γ}
    (hf : ∀ a, o.result = .ok a → Agrees Q (f a) (g a) h) :
    Agrees Q ((liftM o : Changing Heap α) >>= f) (o >>= g) h := by
  obtain ⟨events, fault | a⟩ := o
  · exact ⟨List.prefix_rfl, rfl, .error fault⟩
  · obtain ⟨grown, events', ended⟩ := hf a rfl
    have left := Changing.bind_of_ok (x := (liftM (⟨events, .ok a⟩ : Outcome α) : Changing Heap α))
      (s := h) (a := a) rfl f
    refine ⟨?_, ?_, ?_⟩
    · rw [left]; exact grown
    · rw [left]; exact congrArg (events ++ ·) events'
    · rw [left]; exact ended

theorem agrees_lift_map {f : α → β} (related : ∀ a, o.result = .ok a → R h (f a) a) :
    Agrees R ((liftM o : Changing Heap α) >>= fun a => pure (f a)) o h := by
  have both := agrees_lift_bind (g := pure) fun a answered => agrees_pure h (related a answered)
  rwa [bind_pure] at both

theorem Agrees.imp {S : Heap → β → α → Prop} (hx : Agrees R x o h)
    (imp : ∀ b a (h' : Heap), h <+: h' → R h' b a → S h' b a) : Agrees S x o h := by
  obtain ⟨grown, events, ended⟩ := hx
  refine ⟨grown, events, ?_⟩
  generalize (x h).1.result = ending, o.result = ending' at ended
  cases ended with
  | ok related => exact .ok (imp _ _ _ grown related)
  | error fault => exact .error fault

/-- Another answer that goes with the same object. -/
theorem Agrees.of_pure {S : Heap → β → γ → Prop} {a : α} {c : γ} (hx : Agrees R x (pure a) h)
    (imp : ∀ b (h' : Heap), h <+: h' → R h' b a → S h' b c) : Agrees S x (pure c) h := by
  obtain ⟨grown, events, ended⟩ := hx
  refine ⟨grown, events, ?_⟩
  generalize (x h).1.result = ending at ended
  cases ended with
  | ok related => exact .ok (imp _ _ grown related)

/-- The answer is put together differently for values. -/
theorem Agrees.answer {S : Heap → β → γ → Prop} {g : α → γ} (hx : Agrees R x o h)
    (imp : ∀ b a (h' : Heap), h <+: h' → R h' b a → S h' b (g a)) :
    Agrees S x (o >>= fun a => pure (g a)) h := by
  obtain ⟨grown, events, ended⟩ := hx
  have alike := ended.map (g := g) fun b a => imp b a _ grown
  obtain ⟨before, fault | a⟩ := o
  · exact ⟨grown, events, alike⟩
  · exact ⟨grown, events.trans (List.append_nil before).symm, alike⟩

theorem Agrees.exists_eq {a : α} (hx : Agrees R x (pure a) h) :
    ∃ b, x h = (pure b, (x h).2) ∧ R (x h).2 b a := by
  obtain ⟨-, events, ended⟩ := hx
  generalize x h = left at events ended ⊢
  obtain ⟨⟨trail, result⟩, now⟩ := left
  cases events
  cases ended with
  | ok related => exact ⟨_, rfl, related⟩

theorem Agrees.map {f : β → δ} {g : α → γ} (hx : Agrees R x o h)
    (imp : ∀ b a (h' : Heap), h <+: h' → R h' b a → Q h' (f b) (g a)) :
    Agrees Q (x >>= fun b => pure (f b)) (o >>= fun a => pure (g a)) h :=
  hx.bind fun b a h' grown related => agrees_pure h' (imp b a h' grown related)

theorem Agrees.counted (hx : Agrees R x o h) : Agrees R x.counted o.counted h :=
  ⟨hx.grown, congrArg ([Event.called] ++ ·) hx.events, hx.ended⟩

end Rules

open Script

variable {h h' : Heap} {o : Object} {v : Value} {p : Place} {l : Location} {c : Cell} {m : Located}

theorem Heap.Shows.mono (shows : h.Shows o v) (grown : h <+: h') : h'.Shows o v :=
  Heap.value?_of_prefix grown shows

theorem Heap.ShowsPlace.mono (shows : h.ShowsPlace p l) (grown : h <+: h') : h'.ShowsPlace p l :=
  ⟨shows.file.mono grown, shows.span⟩

theorem Heap.ShowsCell.mono (shows : h.ShowsCell c m) (grown : h <+: h') : h'.ShowsCell c m :=
  ⟨shows.value.mono grown, shows.location.mono grown⟩

theorem Heap.ShowsPlace.toObject (shows : h.ShowsPlace p l) : h.Shows p.toObject l.toValue := by
  obtain ⟨file, span⟩ := shows
  change (h.value? p.file).map _ = _
  rw [file, span]
  rfl

/-- The forms of an object that shows a value. -/
inductive ShownBy (h : Heap) : Object → Value → Prop where
  | plain (v : Value) (undivided : v.atom?.isSome = true) : ShownBy h (.plain v undivided) v
  | list {os : List Object} {vs : List Value} :
      h.values? os = some vs → ShownBy h (.list os) (.list vs)
  | tuple {os : List Object} {vs : List Value} :
      h.values? os = some vs → ShownBy h (.tuple os) (.tuple vs)
  | table {os : List (Object × Object)} {es : List (Value × Value)} :
      Object.entries? (h.look? h.length) os = some es → ShownBy h (.table os) (.table es)
  | location {file : Object} {f : Value} (s : Span) :
      h.Shows file f → ShownBy h (.location file s) (.location f s)
  | located {r : Ref} {c : Cell} {m : Located} :
      h[r]? = some c → h.ShowsCell c m → ShownBy h (.located r) m.toValue
  | ok {o : Object} {v : Value} : h.Shows o v → ShownBy h (.ok o) (.ok v)
  | err {o : Object} {v : Value} : h.Shows o v → ShownBy h (.err o) (.err v)
  | stripped {o : Object} {v : Value} : h.Shows o v → ShownBy h (.stripped o) (.stripped v)
  | label {file : Object} {f : Value} (role : Label.Style) (s : Span) (message : String) :
      h.Shows file f → ShownBy h (.label role file s message) (.label role f s message)

theorem Heap.Shows.form (shows : h.Shows o v) : ShownBy h o v := by
  cases o with
  | plain w undivided => cases shows; exact .plain v undivided
  | list os => obtain ⟨vs, hvs, rfl⟩ := Option.map_eq_some_iff.1 shows; exact .list hvs
  | tuple os => obtain ⟨vs, hvs, rfl⟩ := Option.map_eq_some_iff.1 shows; exact .tuple hvs
  | table os => obtain ⟨es, hes, rfl⟩ := Option.map_eq_some_iff.1 shows; exact .table hes
  | location file s => obtain ⟨f, hf, rfl⟩ := Option.map_eq_some_iff.1 shows; exact .location s hf
  | ok o => obtain ⟨v, hv, rfl⟩ := Option.map_eq_some_iff.1 shows; exact .ok hv
  | err o => obtain ⟨v, hv, rfl⟩ := Option.map_eq_some_iff.1 shows; exact .err hv
  | stripped o => obtain ⟨v, hv, rfl⟩ := Option.map_eq_some_iff.1 shows; exact .stripped hv
  | label role file s message =>
    obtain ⟨f, hf, rfl⟩ := Option.map_eq_some_iff.1 shows
    exact .label role s message hf
  | located r =>
    obtain ⟨c, hc, w, f, hw, hf, rfl⟩ := Heap.value?_located_eq_some_iff.1 shows
    exact .located (m := ⟨w, f, c.place.span⟩) hc ⟨hw, hf, rfl⟩

theorem Heap.Shows.kind (shows : h.Shows o v) : o.kind = v.kind := by
  cases shows.form <;> rfl

theorem shows_located {r : Ref} (hc : h[r]? = some c) (shows : h.ShowsCell c m) :
    h.Shows (.located r) m.toValue := by
  obtain ⟨value, file, span⟩ := shows
  exact Heap.value?_located_eq_some_iff.2 ⟨c, hc, m.value, m.location.file, value, file, by
    rw [span]; rfl⟩

/-- Only a reference to a cell shows a located value. -/
theorem exists_cell_of_shows (shows : h.Shows o m.toValue) :
    ∃ r c, o = .located r ∧ h[r]? = some c ∧ h.ShowsCell c m := by
  have kind : o.kind = .located := shows.kind
  cases o with
  | located r =>
    obtain ⟨c, hc, v, f, value, file, same⟩ := Heap.value?_located_eq_some_iff.1 shows
    obtain ⟨rfl, rfl, span⟩ := Value.located.inj same
    exact ⟨r, c, rfl, hc, value, file, span.symm⟩
  | plain v undivided =>
    cases shows
    cases undivided
  | _ => cases kind

theorem view_eq (shows : h.Shows o v) : o.view h = (pure v, h) := by
  have shown : h.value? o = some v := shows
  unfold Object.view
  rw [shown]

theorem place_view_eq (shows : h.ShowsPlace p l) : p.view h = (pure l, h) := by
  obtain ⟨file, span⟩ := shows
  have run : p.view h = ((p.file.view h).1 >>= fun f => pure (Location.mk f p.span),
      (p.file.view h).2) := Changing.bind_pure _ _ h
  rw [run, view_eq file, span]
  rfl

theorem cell_eq {r : Ref} (hc : h[r]? = some c) : Heap.cell r h = (pure c, h) := by
  unfold Heap.cell
  rw [hc]

/-- A new located value shows what its cell does. -/
theorem agrees_alloc {n : Nat} (le : n ≤ h.length) (shows : h.ShowsCell c m) :
    Agrees (fun h o (m : Located) => h.ShowsNew n o m.toValue) c.alloc (pure m) h := by
  have grown : h <+: h ++ [c] := List.prefix_append h [c]
  refine ⟨grown, rfl, .ok ⟨?_, le⟩⟩
  exact shows_located List.getElem?_concat_length (shows.mono grown)

theorem agrees_asPlace (shows : h.Shows o v) :
    Agrees Heap.ShowsPlace (liftM o.asPlace) (asLocation v) h := by
  cases shows.form with
  | location s file => exact agrees_pure h ⟨file, rfl⟩
  | plain v undivided => cases v <;> first | exact agrees_fail _ h | cases undivided
  | _ => exact agrees_fail _ h

theorem agrees_asCell (shows : h.Shows o v) :
    Agrees Heap.ShowsCell o.asCell (asLocated v) h := by
  cases shows.form with
  | located hc held => exact agrees_of_reads rfl (agrees_read (cell_eq hc) held)
  | plain v undivided => cases v <;> first | exact agrees_fail _ h | cases undivided
  | _ => exact agrees_fail _ h

end Whereabouts
