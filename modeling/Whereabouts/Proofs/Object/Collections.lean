import Whereabouts.Proofs.Object.Functions
import Whereabouts.Proofs.Keys.Distinct

namespace Whereabouts

open Script

variable {h : Heap} {o : Object} {v : Value} {os : List Object} {vs : List Value}

namespace Object

theorem values?_cons (first : h.Shows o v) (rest : h.values? os = some vs) :
    h.values? (o :: os) = some (v :: vs) := by
  have ho : o.value? (h.look? h.length) = some v := first
  have hos : values? (h.look? h.length) os = some vs := rest
  simp only [Heap.values?, values?, ho, hos, Option.bind_some, Option.map_some]

theorem entries?_cons {k : Object} {key : Value} {entries : List (Object × Object)}
    {es : List (Value × Value)} (inKey : h.Shows k key) (first : h.Shows o v)
    (rest : entries? (h.look? h.length) entries = some es) :
    entries? (h.look? h.length) ((k, o) :: entries) = some ((key, v) :: es) := by
  have hk : k.value? (h.look? h.length) = some key := inKey
  have ho : o.value? (h.look? h.length) = some v := first
  simp only [entries?, hk, ho, rest, Option.bind_some, Option.map_some]

theorem shows_list (shows : h.values? os = some vs) : h.Shows (.list os) (.list vs) :=
  Option.map_eq_some_iff.2 ⟨vs, shows, rfl⟩

/-- A located value that is made anew from its parts. -/
theorem agrees_ofLocated {n : Nat} {value file : Value} (le : n ≤ h.length)
    (ofValue₁ : ∀ h, Agrees Heap.Shows (ofValue value) (pure value) h)
    (ofValue₂ : ∀ h, Agrees Heap.Shows (ofValue file) (pure file) h) (s : Span) :
    Agrees (Heap.ShowsNew n) (ofValue (.located value file s))
      (pure (.located value file s)) h := by
  have made := (ofValue₁ h).bind (Q := Heap.ShowsNew n)
    (g := fun v => pure file >>= fun f => pure (Located.mk v ⟨f, s⟩) >>= fun m => pure m.toValue)
    fun o v h' grown payload => (ofValue₂ h').bind fun p f h'' grown' place =>
      (agrees_alloc (c := ⟨o, p, s⟩) (Nat.le_trans le (grown.trans grown').length_le)
        ⟨payload.mono grown', place, rfl⟩).answer fun _ _ _ _ shown => shown
  exact made

mutual

/-- `ofValue` makes an object that shows the value. -/
theorem agrees_ofValue : ∀ (v : Value) (h : Heap), Agrees Heap.Shows (ofValue v) (pure v) h
  | .list items, h => (agrees_ofValues items h).map (g := Value.list) fun _ _ _ _ => shows_list
  | .tuple items, h => (agrees_ofValues items h).map (g := Value.tuple) fun _ vs _ _ shows =>
    Option.map_eq_some_iff.2 ⟨vs, shows, rfl⟩
  | .table entries, h => (agrees_ofEntries entries h).map (g := Value.table) fun _ es _ _ shows =>
    Option.map_eq_some_iff.2 ⟨es, shows, rfl⟩
  | .location file s, h => (agrees_ofValue file h).map (g := (Value.location · s))
    fun _ f _ _ shows => Option.map_eq_some_iff.2 ⟨f, shows, rfl⟩
  | .located value file s, _ =>
    (agrees_ofLocated (Nat.zero_le _) (agrees_ofValue value) (agrees_ofValue file) s).imp
      fun _ _ _ _ shown => shown.shows
  | .ok value, h => (agrees_ofValue value h).map (g := Value.ok) fun _ _ _ _ => shows_ok
  | .err error, h => (agrees_ofValue error h).map (g := Value.err) fun _ _ _ _ => shows_err
  | .stripped value, h => (agrees_ofValue value h).map (g := Value.stripped) fun _ v _ _ shows =>
    Option.map_eq_some_iff.2 ⟨v, shows, rfl⟩
  | .label role file s message, h =>
    (agrees_ofValue file h).map (g := (Value.label role · s message)) fun _ f _ _ shows =>
      Option.map_eq_some_iff.2 ⟨f, shows, rfl⟩
  | .absent, h | .bool _, h | .int _, h | .float _, h | .text _, h | .bytes _, h | .range _, h
  | .span _, h | .style _, h => agrees_pure h rfl

theorem agrees_ofValues : ∀ (vs : List Value) (h : Heap),
    Agrees (fun h os vs => h.values? os = some vs) (ofValues vs) (pure vs) h
  | [], h => agrees_pure h rfl
  | v :: vs, h => by
    have made := (agrees_ofValue v h).bind (Q := fun (h : Heap) os vs => h.values? os = some vs)
      (g := fun v => pure vs >>= fun vs => pure (v :: vs))
      fun o v h' _ first => (agrees_ofValues vs h').map fun _ _ _ grown rest =>
        values?_cons (first.mono grown) rest
    exact made

theorem agrees_ofEntries : ∀ (entries : List (Value × Value)) (h : Heap),
    Agrees (fun h os es => entries? (h.look? h.length) os = some es) (ofEntries entries)
      (pure entries) h
  | [], h => agrees_pure h rfl
  | (k, v) :: entries, h => by
    have made := (agrees_ofValue k h).bind
      (Q := fun (h : Heap) os es => entries? (h.look? h.length) os = some es)
      (g := fun k => pure v >>= fun v => pure entries >>= fun es => pure ((k, v) :: es))
      fun _ _ h' _ inKey => (agrees_ofValue v h').bind fun _ _ h'' grown first =>
        (agrees_ofEntries entries h'').map fun _ _ _ grown' rest =>
          entries?_cons ((inKey.mono grown).mono grown') (first.mono grown') rest
    exact made

end

variable {look : Ref → Option Value} {lookStripped : Ref → Option Object}

/-- What stands for the references in an object, with and without located values. -/
structure StripsRefs (h : Heap) (look : Ref → Option Value) (lookStripped : Ref → Option Object) :
    Prop where
  left : ∀ r w, look r = some w → ∃ p, lookStripped r = some p ∧ h.Shows p w.strip
  shown : ∀ o v, Object.value? look o = some v → h.Shows o v

mutual

/-- What is left of an object without located values shows what is left of its value, if it does so
for the references in it. -/
theorem strip?_shows (refs : StripsRefs h look lookStripped) : ∀ (o : Object) {v : Value},
    o.value? look = some v → ∃ p, o.strip? lookStripped = some p ∧ h.Shows p v.strip
  | located r, v, shows => refs.left r v shows
  | plain v undivided, _, shows => by
    cases shows
    refine ⟨_, rfl, ?_⟩
    cases v <;> first | exact rfl | cases undivided
  | list os, _, shows | tuple os, _, shows => by
    obtain ⟨vs, hvs, rfl⟩ := Option.map_eq_some_iff.1 shows
    obtain ⟨ps, hps, left⟩ := stripAll?_shows refs os hvs
    exact ⟨_, Option.map_eq_some_iff.2 ⟨ps, hps, rfl⟩, Option.map_eq_some_iff.2 ⟨_, left, rfl⟩⟩
  | table entries, _, shows => by
    obtain ⟨es, hes, rfl⟩ := Option.map_eq_some_iff.1 shows
    obtain ⟨ps, hps, left⟩ := stripEntries?_shows refs entries hes
    exact ⟨_, Option.map_eq_some_iff.2 ⟨ps, hps, rfl⟩, Option.map_eq_some_iff.2 ⟨_, left, rfl⟩⟩
  | ok o, _, shows | err o, _, shows => by
    obtain ⟨v, hv, rfl⟩ := Option.map_eq_some_iff.1 shows
    obtain ⟨p, hp, left⟩ := strip?_shows refs o hv
    exact ⟨_, Option.map_eq_some_iff.2 ⟨p, hp, rfl⟩, Option.map_eq_some_iff.2 ⟨_, left, rfl⟩⟩
  | location _ _, _, shows | stripped _, _, shows | label _ _ _ _, _, shows => by
    obtain ⟨v, hv, rfl⟩ := Option.map_eq_some_iff.1 shows
    exact ⟨_, rfl, Option.map_eq_some_iff.2 ⟨v, refs.shown _ _ hv, rfl⟩⟩

theorem stripAll?_shows (refs : StripsRefs h look lookStripped) :
    ∀ (os : List Object) {vs : List Value}, values? look os = some vs →
      ∃ ps, stripAll? lookStripped os = some ps ∧ h.values? ps = some (Value.stripAll vs)
  | [], _, shows => by
    cases shows
    exact ⟨[], rfl, rfl⟩
  | o :: os, _, shows => by
    obtain ⟨v, hv, rest⟩ := Option.bind_eq_some_iff.1 shows
    obtain ⟨vs, hvs, rfl⟩ := Option.map_eq_some_iff.1 rest
    obtain ⟨p, hp, first⟩ := strip?_shows refs o hv
    obtain ⟨ps, hps, others⟩ := stripAll?_shows refs os hvs
    refine ⟨p :: ps, ?_, values?_cons first others⟩
    rw [stripAll?, hp, hps]
    rfl

theorem stripEntries?_shows (refs : StripsRefs h look lookStripped) :
    ∀ (entries : List (Object × Object)) {es : List (Value × Value)},
      entries? look entries = some es → ∃ ps, stripEntries? lookStripped entries = some ps ∧
        entries? (h.look? h.length) ps = some (Value.stripEntries es)
  | [], _, shows => by
    cases shows
    exact ⟨[], rfl, rfl⟩
  | (k, o) :: entries, _, shows => by
    obtain ⟨key, hk, rest⟩ := Option.bind_eq_some_iff.1 shows
    obtain ⟨v, hv, rest⟩ := Option.bind_eq_some_iff.1 rest
    obtain ⟨es, hes, rfl⟩ := Option.map_eq_some_iff.1 rest
    obtain ⟨p, hp, first⟩ := strip?_shows refs o hv
    obtain ⟨ps, hps, others⟩ := stripEntries?_shows refs entries hes
    refine ⟨(k, p) :: ps, ?_, entries?_cons (refs.shown k key hk) first others⟩
    rw [stripEntries?, hp, hps]
    rfl

end

theorem stripAt?_shows {n : Nat} {r : Ref} {w : Value} (shows : h.look? n r = some w) :
    ∃ p, h.stripAt? n r = some p ∧ h.Shows p w.strip := by
  induction n generalizing r w with
  | zero => cases shows
  | succ n ih =>
    rw [Heap.look?_succ] at shows
    obtain ⟨c, hc, shows⟩ := Option.bind_eq_some_iff.1 shows
    obtain ⟨v, f, hv, -, rfl⟩ := Cell.value?_eq_some_iff.1 shows
    have refs : StripsRefs h (h.look? n) (h.stripAt? n) :=
      ⟨fun _ _ => ih, fun _ _ => Heap.value?_of_look?⟩
    obtain ⟨p, hp, left⟩ := strip?_shows refs c.value hv
    rw [Heap.stripAt?, hc]
    exact ⟨p, hp, left⟩

theorem agrees_strip (shows : h.Shows o v) : Agrees Heap.Shows o.strip (pure v.strip) h := by
  have refs : StripsRefs h (h.look? h.length) (h.stripAt? h.length) :=
    ⟨fun _ _ => stripAt?_shows, fun _ _ => Heap.value?_of_look?⟩
  obtain ⟨p, hp, left⟩ := strip?_shows refs o shows
  refine agrees_read ?_ left
  unfold strip
  rw [hp]

end Object

section Keys

variable {α : Type} (key : α → Value)

namespace Value

theorem map_insertOn (a : α) (bs : List α) :
    (insertOn key a bs).map key = insertOn id (key a) (bs.map key) := by
  induction bs with
  | nil => rfl
  | cons b bs ih =>
    simp only [insertOn, List.map_cons, id]
    split
    · rw [List.map_cons, ih]
    · rfl

theorem map_sortOn (items : List α) : (sortOn key items).map key = sortOn id (items.map key) := by
  induction items with
  | nil => rfl
  | cons a as ih =>
    have inserted := map_insertOn key a (sortOn key as)
    rw [ih] at inserted
    exact inserted

end Value

/-- Items that are sorted by their keys have their keys sorted. -/
theorem sortValues_map (items : List α) :
    sortValues (items.map key) = sortBy key items >>= fun sorted => pure (sorted.map key) := by
  unfold sortValues sortBy Value.sortOn?
  rw [List.map_id]
  by_cases comparable : Value.allComparable (items.map key) = true
  · simp only [if_pos comparable, Outcome.pure_bind, Value.map_sortOn]
  · simp only [if_neg comparable, Outcome.fail_bind]

theorem sortBy_ensures (items : List α) : (sortBy key items).Ensures (· ⊆ items) := by
  unfold sortBy Value.sortOn?
  by_cases comparable : Value.allComparable (items.map key) = true
  · simp only [if_pos comparable]
    exact Outcome.ensures_pure (Value.sortOn_perm key items).subset
  · simp only [if_neg comparable]
    rintro sorted ⟨⟩

variable (H : Hasher)

theorem putKey_map (kept : List α) (a : α) :
    putKey H id (kept.map key) (key a) =
      putKey H key kept a >>= fun now => pure (now.map key) := by
  simp only [putKey_eq, id, List.any_map]
  cases (key a).unhashable? with
  | some kind => rfl
  | none =>
    simp only [Outcome.pure_bind, Function.comp_def]
    split
    · rfl
    · rw [List.map_append]; rfl

theorem foldlM_putKey_map (items kept : List α) :
    (items.map key).foldlM (putKey H id) (kept.map key) =
      items.foldlM (putKey H key) kept >>= fun now => pure (now.map key) := by
  induction items generalizing kept with
  | nil => rfl
  | cons a as ih =>
    rw [List.map_cons, List.foldlM_cons, List.foldlM_cons, putKey_map, bind_assoc, bind_assoc]
    refine bind_congr fun now => ?_
    rw [Outcome.pure_bind]
    exact ih now

/-- Items of which the first for every key is kept have the first of their keys kept. -/
theorem distinctValues_map (items : List α) : distinctValues H (items.map key) =
    distinctBy H key items >>= fun kept => pure (kept.map key) :=
  foldlM_putKey_map key H items []

theorem putKey_ensures (kept : List α) (a : α) :
    (putKey H key kept a).Ensures (· ⊆ kept ++ [a]) := by
  unfold putKey
  split
  · rintro now ⟨⟩
  · apply Outcome.ensures_pure
    split
    · exact List.subset_append_left kept [a]
    · exact List.Subset.refl _

theorem foldlM_putKey_ensures (items kept : List α) :
    (items.foldlM (putKey H key) kept).Ensures (· ⊆ kept ++ items) := by
  induction items generalizing kept with
  | nil => exact Outcome.ensures_pure (List.subset_append_left kept [])
  | cons a as ih =>
    intro last answered
    rw [List.foldlM_cons] at answered
    obtain ⟨now, put, folded⟩ := Outcome.result_bind_eq_ok_iff.1 answered
    have first := putKey_ensures key H kept a now put
    have rest := ih now last folded
    intro b mem
    rcases List.mem_append.1 (rest mem) with old | new
    · have moved : kept ++ [a] ⊆ kept ++ a :: as := by simp
      exact moved (first old)
    · exact List.mem_append_right _ (List.mem_cons_of_mem _ new)

theorem distinctBy_ensures (items : List α) : (distinctBy H key items).Ensures (· ⊆ items) :=
  foldlM_putKey_ensures key H items []

end Keys

namespace Object

/-- Objects that each show their value show the list of the values. -/
theorem values?_map {pairs : List (Value × Object)} (shows : ∀ p ∈ pairs, h.Shows p.2 p.1) :
    h.values? (pairs.map Prod.snd) = some (pairs.map Prod.fst) := by
  induction pairs with
  | nil => rfl
  | cons p ps ih =>
    obtain ⟨first, rest⟩ := List.forall_mem_cons.1 shows
    exact values?_cons first (ih rest)

theorem exists_viewAll (shows : h.values? os = some vs) : ∃ pairs, viewAll os h = (pure pairs, h) ∧
    pairs.map Prod.fst = vs ∧ ∀ p ∈ pairs, h.Shows p.2 p.1 := by
  induction os generalizing vs with
  | nil =>
    cases shows
    exact ⟨[], rfl, rfl, fun p mem => by cases mem⟩
  | cons o os ih =>
    obtain ⟨v, first, rest⟩ := Option.bind_eq_some_iff.1 shows
    obtain ⟨vs, others, rfl⟩ := Option.map_eq_some_iff.1 rest
    obtain ⟨pairs, read, keys, shown⟩ := ih others
    refine ⟨(v, o) :: pairs, ?_, congrArg (v :: ·) keys, List.forall_mem_cons.2 ⟨first, shown⟩⟩
    unfold viewAll
    rw [Changing.bind_of_ok (a := v) (by rw [view_eq first]; rfl), view_eq first,
      Changing.bind_pure, read]
    rfl

theorem agrees_asList (shows : h.Shows o v) :
    Agrees (fun h os vs => h.values? os = some vs) (liftM o.asList) (Script.asList v) h := by
  cases shows.form with
  | list held => exact agrees_pure h held
  | plain v undivided => cases v <;> first | exact agrees_fail _ h | cases undivided
  | _ => exact agrees_fail _ h

/-- What is picked out of the objects of a list shows what is picked out of its values. -/
theorem agrees_picked {γ : Type} {R : Heap → Object → γ → Prop} {g : List Value → γ}
    {pick : List (Value × Object) → Outcome (List (Value × Object))}
    {pickValues : List Value → Outcome (List Value)}
    (natural : ∀ pairs, pickValues (pairs.map Prod.fst) =
      pick pairs >>= fun picked => pure (picked.map Prod.fst))
    (among : ∀ pairs, (pick pairs).Ensures (· ⊆ pairs)) (shows : h.values? os = some vs)
    (imp : ∀ os vs, h.Shows (.list os) (.list vs) → R h (.list os) (g vs)) :
    Agrees R (do return .list ((← pick (← viewAll os)).map Prod.snd))
      (do return g (← pickValues vs)) h := by
  obtain ⟨pairs, read, rfl, shown⟩ := exists_viewAll shows
  refine agrees_of_reads read ?_
  rw [natural, bind_assoc]
  refine agrees_lift_bind fun picked answered => agrees_pure h (imp _ _ (shows_list ?_))
  exact values?_map fun p mem => shown p (among pairs picked answered mem)

end Object
end Whereabouts
