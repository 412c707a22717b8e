import Whereabouts.Proofs.Session.Making

namespace Whereabouts

namespace Script.Operation

/-- The operations that make a located value, or a result with one in it, out of what is given. -/
inductive MakesLocated : Operation → Prop where
  | map (m : Term) (f : Callback) : MakesLocated (.onLocated (.map m f))
  | mapLocation (m : Term) (f : Callback) : MakesLocated (.onLocated (.mapLocation m f))
  | mapFile (m : Term) (f : Callback) : MakesLocated (.onLocated (.mapFile m f))
  | mapWithLocation (m : Term) (g : PayloadMap) (f : Callback) :
    MakesLocated (.onLocated (.mapWithLocation m g f))
  | tryMap (m : Term) (f : Callback) : MakesLocated (.onLocated (.tryMap m f))
  | unwrap (m : Term) : MakesLocated (.onLocated (.unwrap m))
  | transpose (m : Term) : MakesLocated (.onLocated (.transpose m))
  | toLocated (o : Term) (f : Callback) : MakesLocated (.onContainer (.toLocated o f))
  | locate (v l : Term) : MakesLocated (.onContainer (.locate v l))
  | locateOptional (v l : Term) : MakesLocated (.onContainer (.locateOptional v l))
  | locateResult (r l : Term) : MakesLocated (.onContainer (.locateResult r l))
  | transposeResult (m : Term) : MakesLocated (.onContainer (.transposeResult m))

/-- The operations that write to a located value. -/
inductive WritesLocated : Operation → Prop where
  | replace (m : Term) (edit : EditTerm) : WritesLocated (.onLocated (.replace m edit))
  | assign (target : Term) (field : String) (v : Term) :
    WritesLocated (.onValue (.assign target field v))

end Script.Operation

/-- The object shows the value that is answered, if there is one. -/
def Heap.Answers (h : Heap) (o : Object) (reply : Script.Reply) : Prop :=
  ∀ v, reply.report.result? = some v → h.Shows o v

namespace Script

variable {s : Store} {h : Heap} {o : Object} {v : Value}

theorem answers_value (shows : h.Shows o v) : h.Answers o (.value v) := by
  rintro w ⟨⟩
  exact shows

theorem answers_called (shows : h.Shows o v) : h.Answers o (.called v) := by
  rintro w ⟨⟩
  exact shows

theorem agrees_madeFrom (answer : Outcome Reply) (h : Heap) :
    Agrees Heap.Answers (madeFrom answer) answer h := by
  have made : Agrees Heap.Answers (madeFrom answer) (answer >>= pure) h := by
    refine agrees_lift_bind fun reply _ => ?_
    cases answered : reply.report.result? with
    | none =>
      refine agrees_pure h fun v same => ?_
      rw [answered] at same
      cases same
    | some v =>
      refine (Object.agrees_ofValue v h).of_pure fun o now _ shows w same => ?_
      rw [answered] at same
      cases same
      exact shows
  rwa [bind_pure] at made

theorem LocationOperation.agrees_act (op : LocationOperation) (grown : s.heap <+: h) :
    Agrees Heap.Answers (op.act s) (op.run s.values) h := by
  cases op with
  | make file spanLike =>
    refine (file.agrees_make grown).bind fun o f h₁ _ shows => ?_
    refine agrees_lift_bind fun v _ => ?_
    rw [Location.ofParts, bind_assoc]
    refine agrees_lift_bind fun span _ => agrees_pure h₁ (answers_value ?_)
    exact Heap.ShowsPlace.toObject (p := ⟨o, span⟩) (l := ⟨f, span⟩) ⟨shows, rfl⟩
  | union a b =>
    refine (a.agrees_makePlace grown).bind fun p l h₁ _ place => ?_
    refine agrees_lift_bind fun m _ => ?_
    exact (Place.agrees_move place (l.union_file m)).map fun _ _ _ _ moved =>
      answers_value moved.toObject
  | intersection a b =>
    refine (a.agrees_makePlace grown).bind fun p l h₁ _ place => ?_
    refine agrees_lift_bind fun m _ => ?_
    refine agrees_of_reads (place_view_eq place) ?_
    cases common : l.intersection? m with
    | none => exact agrees_pure h₁ (answers_value rfl)
    | some n =>
      have file : n.file = l.file := Location.intersection?_file common
      refine agrees_pure h₁ (answers_value ?_)
      exact Heap.ShowsPlace.toObject (p := ⟨p.file, n.span⟩) (l := n) ⟨file ▸ place.file, rfl⟩
  | withFile location file =>
    refine (location.agrees_makePlace grown).bind fun p l h₁ grown₁ place => ?_
    refine (file.agrees_make (grown.trans grown₁)).map fun o f h₂ _ shows => answers_value ?_
    exact Heap.ShowsPlace.toObject (p := ⟨o, p.span⟩) (l := l.withFile f) ⟨shows, place.span⟩
  | withSpan location spanLike =>
    refine (location.agrees_makePlace grown).bind fun p l h₁ _ place => ?_
    refine agrees_lift_bind fun v _ => ?_
    exact (Place.agrees_move place (l.withSpan_file v)).map fun _ _ _ _ moved =>
      answers_value moved.toObject
  | extend location spanLike =>
    refine (location.agrees_makePlace grown).bind fun p l h₁ _ place => ?_
    refine agrees_lift_bind fun v _ => ?_
    exact (Place.agrees_move place (l.extend_file v)).map fun _ _ _ _ moved =>
      answers_value moved.toObject
  | mapFile location f =>
    refine (location.agrees_makePlace grown).bind fun p l h₁ grown₁ place => ?_
    refine (f.agrees_make (grown.trans grown₁)).bind fun f g h₂ grown₂ agrees => ?_
    have moved := place.mono grown₂
    have called := agrees.call moved.file
    exact (Place.agrees_mapFile (g := fun file => (g file).counted) moved called).map
      fun _ _ _ _ mapped => answers_called mapped.toObject
  | withStop location stop =>
    refine (location.agrees_makePlace grown).bind fun p l h₁ _ place => ?_
    refine agrees_lift_bind fun n _ => ?_
    have moved := Place.agrees_move (f := fun l => pure (l.withStop n)) place
      (Outcome.ensures_pure rfl)
    exact moved.map (g := fun l => Reply.location l) fun _ _ _ _ moved =>
      answers_value moved.toObject
  | describe | sameFile | covers | overlaps => exact agrees_madeFrom _ h

/-- What an operation gives when the first `n` located values are there already: an object that
shows the answer, and a new located value if it makes one. -/
structure Operation.Gives (op : Operation) (n : Nat) (h : Heap) (o : Object) (reply : Reply) :
    Prop where
  answers : h.Answers o reply
  new : op.MakesLocated → o.New n

section Gives

variable {op : Operation} {n : Nat}

theorem gives_value (shows : h.ShowsNew n o v) : op.Gives n h o (.value v) :=
  ⟨answers_value shows.shows, fun _ => shows.new⟩

theorem gives_called (shows : h.ShowsNew n o v) : op.Gives n h o (.called v) :=
  ⟨answers_called shows.shows, fun _ => shows.new⟩

/-- An operation that makes no located value has to give an object for its answer alone. -/
theorem gives_of_agrees {x : Changing Heap Object} {answer : Outcome Reply}
    (other : ¬op.MakesLocated) (agrees : Agrees Heap.Answers x answer h) :
    Agrees (op.Gives n) x answer h :=
  agrees.imp fun _ _ _ _ answers => ⟨answers, fun makes => absurd makes other⟩

end Gives

theorem LocatedOperation.agrees_act (op : LocatedOperation)
    (reads : ¬(Operation.onLocated op).WritesLocated) (grown : s.heap <+: h) :
    Agrees ((Operation.onLocated op).Gives s.heap.length) (op.act s) (op.run s.values) h := by
  cases op with
  | replace located edit => exact absurd (.replace located edit) reads
  | describe located => exact gives_of_agrees nofun (agrees_madeFrom _ h)
  | map located f =>
    refine agrees_onCell grown fun c m f g h₁ le held agrees => ?_
    have called := agrees.call held.value
    exact (Cell.agrees_map (g := fun v => (g v).counted) le held called).answer
      fun _ _ _ _ => gives_called
  | mapLocation located f =>
    refine agrees_onCell grown fun c m f g h₁ le held agrees => ?_
    have called := agrees.call held.location.toObject
    have place := called.bind (g := asLocation) fun _ _ _ _ => agrees_asPlace
    exact (Cell.agrees_mapLocation (g := fun l => do asLocation (← (g l.toValue).counted)) le held
      place).answer fun _ _ _ _ => gives_called
  | mapFile located f =>
    refine agrees_onCell grown fun c m f g h₁ le held agrees => ?_
    have called := agrees.call held.location.file
    have place := Place.agrees_mapFile (f := fun o => (f o).counted)
      (g := fun file => (g file).counted) held.location called
    exact (Cell.agrees_mapLocation le held place).answer fun _ _ _ _ => gives_called
  | mapWithLocation located valueMap locationMap =>
    refine (located.agrees_makeCell grown).bind fun c m h₁ grown₁ cell => ?_
    refine (valueMap.agrees_make (grown.trans grown₁)).bind fun k g h₂ grown₂ onPayload => ?_
    refine (locationMap.agrees_make ((grown.trans grown₁).trans grown₂)).bind
      fun k' f h₃ grown₃ onLocation => ?_
    have le := (grown.trans (grown₁.trans (grown₂.trans grown₃))).length_le
    have held := (cell.mono grown₂).mono grown₃
    have both : Agrees Heap.ShowsCell
        (do
          let place ← (← k' c.place.toObject).asPlace
          return { value := ← k c.value place, place })
        (do
          let location ← asLocation (← f m.location.toValue)
          return { value := ← g m.value location, location }) h₃ := by
      refine (onLocation _ _ h₃ List.prefix_rfl held.location.toObject).bind
        fun q w h₄ later shows => (agrees_asPlace shows).bind fun p l h₅ later' place => ?_
      have payload := held.value.mono (later.trans later')
      refine (onPayload _ _ p l h₅ (grown₃.trans (later.trans later')) payload place).bind
        fun o v h₆ last value => ?_
      exact agrees_pure h₆ ⟨value, place.mono last⟩
    exact (Cell.agrees_mapWithLocation le both.counted).answer fun _ _ _ _ => gives_called
  | tryMap located f =>
    refine agrees_onCell grown fun c m f g h₁ le held agrees => ?_
    have called := agrees.call held.value
    exact (Cell.agrees_tryMap (g := fun v => (g v).counted) le held called).answer
      fun _ _ _ _ => gives_called
  | unwrap located =>
    refine (located.agrees_makeCell grown).bind fun c m h₁ grown₁ cell => ?_
    have le := (grown.trans grown₁).length_le
    exact (Cell.agrees_unwrap le cell).answer fun _ _ _ _ => gives_value
  | transpose located =>
    refine (located.agrees_makeCell grown).bind fun c m h₁ grown₁ cell => ?_
    have le := (grown.trans grown₁).length_le
    exact (Cell.agrees_transpose le cell).of_pure fun _ _ _ => gives_value

theorem ContainerOperation.agrees_act (op : ContainerOperation) (grown : s.heap <+: h) :
    Agrees ((Operation.onContainer op).Gives s.heap.length) (op.act s) (op.run s.values) h := by
  cases op with
  | locate value location =>
    refine (value.agrees_make grown).bind fun o v h₁ grown₁ payload => ?_
    refine (location.agrees_makePlace (grown.trans grown₁)).bind fun p l h₂ grown₂ place => ?_
    have le := (grown.trans (grown₁.trans grown₂)).length_le
    have held : h₂.ShowsCell ⟨o, p⟩ ⟨v, l⟩ := ⟨payload.mono grown₂, place⟩
    exact (agrees_alloc le held).of_pure fun _ _ _ => gives_value
  | locateOptional value location =>
    refine (value.agrees_make grown).bind fun o v h₁ grown₁ payload => ?_
    refine (location.agrees_makePlace (grown.trans grown₁)).bind fun p l h₂ grown₂ place => ?_
    have le := (grown.trans (grown₁.trans grown₂)).length_le
    exact (Object.agrees_locate? le (payload.mono grown₂) place).of_pure fun _ _ _ => gives_value
  | toLocated optional location =>
    simp only [run, Term.optional, bind_assoc]
    refine (optional.agrees_make grown).bind fun o v h₁ grown₁ shows => ?_
    refine (Object.agrees_asOptional shows).bind fun c m h₂ grown₂ held => ?_
    refine (location.agrees_make ((grown.trans grown₁).trans grown₂)).bind
      fun f g h₃ grown₃ agrees => ?_
    have le := (grown.trans (grown₁.trans (grown₂.trans grown₃))).length_le
    exact (Object.agrees_toLocated le (held.mono grown₃) (agrees_askPlace agrees)).answer
      fun _ _ _ _ => gives_called
  | locateResult result location =>
    refine (result.agrees_make grown).bind fun o v h₁ grown₁ shows => ?_
    refine (location.agrees_makePlace (grown.trans grown₁)).bind fun p l h₂ grown₂ place => ?_
    have le := (grown.trans (grown₁.trans grown₂)).length_le
    exact (Object.agrees_locateResult le (shows.mono grown₂) place).answer
      fun _ _ _ _ => gives_value
  | transposeResult located =>
    refine (located.agrees_makeCell grown).bind fun c m h₁ grown₁ cell => ?_
    have le := (grown.trans grown₁).length_le
    exact (Object.agrees_locateResult le cell.value cell.location).answer
      fun _ _ _ _ => gives_value
  | stripOptional optional =>
    simp only [run, Term.optional, bind_assoc]
    refine (optional.agrees_make grown).bind fun o v h₁ _ shows => ?_
    exact (Object.agrees_asOptional shows).map fun _ _ _ _ held =>
      ⟨answers_value (Object.shows_stripOptional held), nofun⟩
  | splitOptional optional =>
    simp only [run, Term.optional, bind_assoc]
    refine (optional.agrees_make grown).bind fun o v h₁ _ shows => ?_
    exact (Object.agrees_asOptional shows).map fun _ _ _ _ held =>
      ⟨answers_value (Object.shows_splitOptional held), nofun⟩
  | stripResult result =>
    refine (result.agrees_make grown).bind fun o v h₁ _ shows => ?_
    exact (Object.agrees_stripResult shows).answer fun _ _ _ _ shown =>
      ⟨answers_value shown, nofun⟩
  | splitResult result =>
    refine (result.agrees_make grown).bind fun o v h₁ _ shows => ?_
    exact (Object.agrees_splitResult shows).answer fun _ _ _ _ shown =>
      ⟨answers_value shown, nofun⟩
  | locateError result location =>
    refine (result.agrees_make grown).bind fun o v h₁ grown₁ shows => ?_
    refine (location.agrees_make (grown.trans grown₁)).bind fun f g h₂ grown₂ agrees => ?_
    exact (Object.agrees_locateError (shows.mono grown₂) fun h₃ grown₃ =>
      agrees_askPlace (agrees.mono grown₃)).answer fun _ _ _ _ shown =>
        ⟨answers_called shown, nofun⟩
  | mapError result f =>
    refine (result.agrees_make grown).bind fun o v h₁ grown₁ shows => ?_
    refine (f.agrees_make (grown.trans grown₁)).bind fun f g h₂ grown₂ agrees => ?_
    exact (Object.agrees_mapError (g := fun v => (g v).counted) (shows.mono grown₂)
      fun o v h₃ grown₃ shown => (agrees o v h₃ grown₃ shown).counted).answer
        fun _ _ _ _ shown => ⟨answers_called shown, nofun⟩

theorem shows_labelAt {p : Place} {l : Location} (place : h.ShowsPlace p l) (role : Label.Style)
    (message : String) :
    h.Shows (labelAt role p message) (Label.ofLocation role l message).toValue := by
  obtain ⟨file, span⟩ := place
  rw [labelAt, span]
  exact Option.map_eq_some_iff.2 ⟨l.file, file, rfl⟩

theorem LabelOperation.agrees_act (op : LabelOperation) (grown : s.heap <+: h) :
    Agrees Heap.Answers (op.act s) (op.run s.values) h := by
  cases op with
  | make style file start stop message =>
    refine agrees_lift_bind fun v _ => agrees_lift_bind fun role _ => ?_
    refine (file.agrees_make grown).bind fun o f h₁ _ shows => ?_
    refine agrees_lift_bind fun start _ => agrees_lift_bind fun stop _ => ?_
    refine agrees_lift_bind fun message _ => agrees_pure h₁ (answers_value ?_)
    exact Option.map_eq_some_iff.2 ⟨f, shows, rfl⟩
  | ofLocation style location message =>
    refine agrees_lift_bind fun v _ => agrees_lift_bind fun role _ => ?_
    refine (location.agrees_makePlace grown).bind fun p l h₁ _ place => ?_
    refine agrees_lift_bind fun message _ => agrees_pure h₁ (answers_value ?_)
    exact shows_labelAt place role message
  | primary location message | secondary location message =>
    refine (location.agrees_makePlace grown).bind fun p l h₁ _ place => ?_
    refine agrees_lift_bind fun message _ => agrees_pure h₁ (answers_value ?_)
    exact shows_labelAt place _ message
  | withMessage label message =>
    simp only [run, Term.diagnosticLabel, bind_assoc]
    refine (label.agrees_make grown).bind fun o v h₁ _ shows => ?_
    cases shows.form with
    | @label file f role span _ inFile =>
      refine agrees_lift_bind fun message _ => agrees_pure h₁ (answers_value ?_)
      exact Option.map_eq_some_iff.2 ⟨f, inFile, rfl⟩
    | plain v undivided => cases v <;> first | exact agrees_fail _ h₁ | cases undivided
    | _ => exact agrees_fail _ h₁
  | readStyle | describe | mismatch => exact agrees_madeFrom _ h

theorem keepsFile_union (v w : Value) : (v.union w).Ensures (KeepsFile v) := by
  unfold Value.union
  split
  · exact Outcome.ensures_pure (keepsFile_of_no_location fun _ _ => Value.noConfusion)
  · rename_i file s file' s'
    intro u answered f₁ s₁ f₂ s₂ left right
    obtain ⟨l, united, same⟩ := Outcome.result_bind_eq_ok_iff.1 answered
    cases same
    cases left
    cases right
    exact Location.union_file _ _ l united
  · rintro u ⟨⟩

theorem ValueOperation.agrees_act (op : ValueOperation)
    (reads : ¬(Operation.onValue op).WritesLocated) (grown : s.heap <+: h) :
    Agrees Heap.Answers (op.act s) (op.run s.values) h := by
  cases op with
  | assign target field value => exact absurd (.assign target field value) reads
  | union a b =>
    refine (a.agrees_make grown).bind fun o v h₁ _ shows => ?_
    refine agrees_lift_bind fun w _ => agrees_of_reads (view_eq shows) ?_
    refine agrees_lift_bind fun u answered => ?_
    exact (agrees_like shows (keepsFile_union v w u answered)).of_pure fun _ _ _ => answers_value
  | sort items =>
    simp only [run, Term.items, bind_assoc]
    refine (items.agrees_make grown).bind fun o v h₁ _ shows => ?_
    refine (Object.agrees_asList shows).bind fun os vs h₂ _ held => ?_
    exact Object.agrees_picked (sortValues_map Prod.fst) (sortBy_ensures Prod.fst) held
      fun _ _ => answers_value
  | distinct items =>
    simp only [run, Term.items, bind_assoc]
    refine (items.agrees_make grown).bind fun o v h₁ _ shows => ?_
    refine (Object.agrees_asList shows).bind fun os vs h₂ _ held => ?_
    exact Object.agrees_picked (distinctValues_map Prod.fst .coarse)
      (distinctBy_ensures Prod.fst .coarse) held fun _ _ => answers_value
  | strip value =>
    refine (value.agrees_make grown).bind fun o v h₁ _ shows => ?_
    exact (Object.agrees_strip shows).of_pure fun _ _ _ => answers_value
  | intersection | compare | display | debug | strippedEq => exact agrees_madeFrom _ h

/-- An operation that writes nothing in place gives an object for its answer. -/
theorem Operation.agrees_act (op : Operation) (reads : ¬op.WritesLocated)
    (grown : s.heap <+: h) :
    Agrees (op.Gives s.heap.length) (op.act s) (op.run s.values) h := by
  cases op with
  | onSpan op => exact gives_of_agrees nofun (agrees_madeFrom _ h)
  | onValue op => exact gives_of_agrees nofun (op.agrees_act reads grown)
  | onLocation op => exact gives_of_agrees nofun (op.agrees_act grown)
  | onLocated op => exact op.agrees_act reads grown
  | onContainer op => exact op.agrees_act grown
  | onLabel op => exact gives_of_agrees nofun (op.agrees_act grown)

end Script
end Whereabouts
