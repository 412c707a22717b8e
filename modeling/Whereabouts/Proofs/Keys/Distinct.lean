import Whereabouts.Proofs.Equality.Stripped
import Whereabouts.Proofs.Keys.Hashes
import Whereabouts.Script.Values

/-!
# The first of every class of equal values

`distinctValues` puts one value after the other into a table as a key, and a table looks for a key
by its hash first. Since equal values hash alike, no equal one is overlooked (`putKey_eq`): what is
kept are the members that equal no earlier one, and every member equals exactly one that is kept.

For wrapped values only the stripped payloads count.
-/
namespace Whereabouts

open Value Script

/-- The positions of the members that equal no earlier one. -/
def firstPositions (items : List Value) : List Nat :=
  (List.range items.length).filter fun i => (List.range i).all fun j => items[j]? != items[i]?

/-- The list that keeps the first of every class of equal members, in their order. -/
structure FirstOfEach (items kept : List Value) : Prop where
  positions : kept = (firstPositions items).filterMap fun i => items[i]?
  sublist : kept.Sublist items
  unequal : kept.Pairwise fun v w => (v == w) = false ∧ (w == v) = false
  once : ∀ v ∈ items, kept.countP (v == ·) = 1

/-! ### Positions -/

theorem firstPositions_cons (v : Value) (vs : List Value) :
    firstPositions (v :: vs) =
      0 :: ((firstPositions vs).filter fun i => some v != vs[i]?).map Nat.succ := by
  have step (i : Nat) : ((List.range (i + 1)).all fun j => (v :: vs)[j]? != vs[i]?) =
      ((some v != vs[i]?) && (List.range i).all fun j => vs[j]? != vs[i]?) := by
    rw [List.range_succ_eq_map, List.all_cons, List.all_map]
    rfl
  rw [firstPositions, List.length_cons, List.range_succ_eq_map, List.filter_cons_of_pos rfl,
    List.filter_map, firstPositions, List.filter_filter]
  congr 2
  exact List.filter_congr fun i _ => step i

theorem firsts_eq_positions (items : List Value) :
    firsts items = (firstPositions items).filterMap fun i => items[i]? := by
  induction items with
  | nil => rfl
  | cons v vs ih =>
    rw [firsts, ih, firstPositions_cons]
    simp only [List.filterMap_cons, List.getElem?_cons_zero]
    rw [List.filterMap_map, List.filter_filterMap, List.filterMap_filter]
    congr 2
    funext i
    rw [Function.comp_apply, List.getElem?_cons_succ]
    cases vs[i]? with
    | none => simp
    | some w => rw [Option.filter_some]; rfl

/-! ### What is kept -/

theorem firsts_sublist (items : List Value) : (firsts items).Sublist items := by
  induction items with
  | nil => exact List.Sublist.slnil
  | cons v vs ih => exact (List.filter_sublist.trans ih).cons_cons v

theorem mem_firsts {items : List Value} {v : Value} (h : v ∈ firsts items) : v ∈ items :=
  (firsts_sublist items).subset h

theorem firsts_pairwise {items : List Value} (keys : ∀ v ∈ items, v.wellKeyed = true) :
    (firsts items).Pairwise fun v w => (v == w) = false ∧ (w == v) = false := by
  induction items with
  | nil => exact List.Pairwise.nil
  | cons v vs ih =>
    obtain ⟨hv, hvs⟩ := List.forall_mem_cons.1 keys
    refine List.pairwise_cons.2 ⟨?_, (ih hvs).filter _⟩
    intro w hw
    obtain ⟨mem, unequal⟩ := List.mem_filter.1 hw
    have hvw : (v == w) = false := by simpa using unequal
    refine ⟨hvw, Bool.eq_false_iff.2 ?_⟩
    intro hwv
    rw [beq_symm (hvs w (mem_firsts mem)) hwv] at hvw
    cases hvw

theorem countP_firsts {items : List Value} (keys : ∀ v ∈ items, v.wellKeyed = true) :
    ∀ v ∈ items, (firsts items).countP (v == ·) = 1 := by
  induction items with
  | nil => intro v hv; cases hv
  | cons v vs ih =>
    obtain ⟨hv, hvs⟩ := List.forall_mem_cons.1 keys
    intro w hw
    rw [firsts, List.countP_cons, List.countP_filter]
    by_cases hwv : (w == v) = true
    · have none : (firsts vs).countP (fun k => w == k && !(v == k)) = 0 := by
        apply List.countP_eq_zero.2
        intro k _ h
        rw [Bool.and_eq_true, Bool.not_eq_true'] at h
        have hvk : (v == k) = true := beq_trans (beq_symm (keys w hw) hwv) h.1
        rw [h.2] at hvk
        cases hvk
      rw [none, if_pos hwv]
    · have mem : w ∈ vs := by
        rcases List.mem_cons.1 hw with rfl | mem
        · exact absurd (beq_refl w) hwv
        · exact mem
      have same : (firsts vs).countP (fun k => w == k && !(v == k)) =
          (firsts vs).countP (w == ·) := by
        apply List.countP_congr
        intro k _
        rw [Bool.and_eq_true, Bool.not_eq_true']
        constructor
        · rintro ⟨hwk, -⟩; exact hwk
        · intro hwk
          refine ⟨hwk, Bool.eq_false_iff.2 ?_⟩
          intro hvk
          exact hwv (beq_trans hwk (beq_symm hv hvk))
      rw [same, ih hvs w mem, if_neg hwv]

theorem firsts_firstOfEach {items : List Value} (keys : ∀ v ∈ items, v.wellKeyed = true) :
    FirstOfEach items (firsts items) :=
  ⟨firsts_eq_positions items, firsts_sublist items, firsts_pairwise keys, countP_firsts keys⟩

/-! ### Keys are put in one by one -/

/-- The values that equal none of the keys. -/
def unlisted (keys values : List Value) : List Value :=
  values.filter fun v => !keys.any (· == v)

theorem unlisted_nil (values : List Value) : unlisted [] values = values := by
  apply List.filter_eq_self.2
  intro v _
  rfl

/-- A value that equals a key takes all its equals out with it. -/
theorem unlisted_firsts_of_listed {keys : List Value} {v : Value}
    (listed : keys.any (· == v) = true) (vs : List Value) :
    unlisted keys (firsts (v :: vs)) = unlisted keys (firsts vs) := by
  have head : ¬(!keys.any (· == v)) = true := by simpa using listed
  rw [unlisted, firsts, List.filter_cons, if_neg head, List.filter_filter, unlisted]
  apply List.filter_congr
  intro w _
  by_cases hvw : (v == w) = true
  · obtain ⟨k, mem, hkv⟩ := List.any_eq_true.1 listed
    have listed' : keys.any (· == w) = true :=
      List.any_eq_true.2 ⟨k, mem, beq_trans hkv hvw⟩
    rw [listed']
    rfl
  · rw [eq_false_of_ne_true hvw, Bool.not_false, Bool.and_true]

/-- A value that equals no key becomes the last one. -/
theorem unlisted_firsts_of_unlisted {keys : List Value} {v : Value}
    (new : keys.any (· == v) = false) (vs : List Value) :
    unlisted keys (firsts (v :: vs)) = v :: unlisted (keys ++ [v]) (firsts vs) := by
  have head : (!keys.any (· == v)) = true := by rw [new, Bool.not_false]
  rw [unlisted, firsts, List.filter_cons, if_pos head, List.filter_filter, unlisted]
  congr 1
  apply List.filter_congr
  intro w _
  rw [List.any_append, Bool.not_or, List.any_cons, List.any_nil, Bool.or_false]

/-- Whoever is equal has the hash as well. -/
theorem keyedBy_eq (H : Hasher) {α : Type} {key : α → Value} {a : α} {hash : Int} {v : Value}
    (hashed : H.hash v = .ok hash) : keyedBy H key a hash v = (key a == v) := by
  unfold keyedBy
  by_cases equal : (key a == v) = true
  · have alike : H.hash (key a) = .ok hash := (H.hash_congr equal).trans hashed
    simp only [alike, equal, beq_self_eq_true, Bool.and_self]
  · have unequal : (key a == v) = false := eq_false_of_ne_true equal
    cases H.hash (key a) with
    | error kind => exact unequal.symm
    | ok hash' => simp only [unequal, Bool.and_false]

/-- To put a key in is to look for an equal one, whatever the hashes are. -/
theorem putKey_eq (H : Hasher) {α : Type} (key : α → Value) (kept : List α) (a : α) :
    putKey H key kept a =
      match (key a).unhashable? with
      | some kind => .fail (.unhashable kind)
      | none => pure (if kept.any (key · == key a) then kept else kept ++ [a]) := by
  unfold putKey
  cases hashed : H.hash (key a) with
  | error kind =>
    have barred := H.hash_eq_error_iff.1 hashed
    simp only [barred]
  | ok hash =>
    have free : (key a).unhashable? = none := by
      apply Option.eq_none_iff_forall_ne_some.2
      intro kind barred
      rw [H.hash_eq_error_iff.2 barred] at hashed
      cases hashed
    simp only [free, keyedBy_eq H hashed]

variable (H : Hasher)

theorem foldlM_putKey (keys items : List Value) : items.foldlM (putKey H id) keys =
    match items.findSome? Value.unhashable? with
    | some kind => .fail (.unhashable kind)
    | none => pure (keys ++ unlisted keys (firsts items)) := by
  induction items generalizing keys with
  | nil => simp [firsts, unlisted]
  | cons v vs ih =>
    rw [List.foldlM_cons, putKey_eq, List.findSome?_cons, id]
    cases v.unhashable? with
    | some kind => rfl
    | none =>
      rw [Outcome.pure_bind, ih]
      cases vs.findSome? Value.unhashable? with
      | some kind => rfl
      | none =>
        by_cases listed : keys.any (· == v) = true
        · simp only [id, if_pos listed, unlisted_firsts_of_listed listed]
        · have new : keys.any (· == v) = false := eq_false_of_ne_true listed
          simp only [id, if_neg listed, unlisted_firsts_of_unlisted new, List.append_assoc,
            List.singleton_append]

theorem distinctValues_eq (items : List Value) : distinctValues H items =
    match items.findSome? Value.unhashable? with
    | some kind => .fail (.unhashable kind)
    | none => pure (firsts items) := by
  have run := foldlM_putKey H [] items
  rw [List.nil_append, unlisted_nil] at run
  exact run

theorem distinctValues_eq_fail_iff {items : List Value} :
    (∃ kind, distinctValues H items = .fail (.unhashable kind)) ↔
      ∃ v ∈ items, v.isHashable = false := by
  simp only [isHashable, Option.isNone_eq_false_iff, ← List.findSome?_isSome_iff, distinctValues_eq]
  cases items.findSome? Value.unhashable? with
  | some kind => exact ⟨fun _ => rfl, fun _ => ⟨kind, rfl⟩⟩
  | none =>
    constructor
    · rintro ⟨kind, h⟩
      cases congrArg Outcome.result h
    · intro h
      cases h

theorem distinctValues_of_hashable {items : List Value}
    (h : ∀ v ∈ items, v.isHashable = true) : distinctValues H items = pure (firsts items) := by
  have none : items.findSome? Value.unhashable? = none := by
    apply List.findSome?_eq_none_iff.2
    intro v hv
    simpa only [isHashable, Option.isNone_iff_eq_none] using h v hv
  rw [distinctValues_eq, none]

/-! ### Wrapped values -/

variable {pairs : List (Value × Value)}

theorem firstPositions_stripped (keys : ∀ p ∈ pairs, p.2.wellKeyed = true)
    (alike : ∀ p ∈ pairs, p.2.strippedEq p.1 = true) :
    firstPositions (pairs.map fun p => stripped p.1) =
      firstPositions (pairs.map fun p => stripped p.2) := by
  simp only [firstPositions, List.length_map, List.getElem?_map]
  refine List.filter_congr fun i _ => List.all_congr rfl fun j => ?_
  cases hj : pairs[j]? with
  | none => cases pairs[i]? <;> rfl
  | some p =>
    cases hi : pairs[i]? with
    | none => rfl
    | some q =>
      have hp := List.mem_of_getElem? hj
      have hq := List.mem_of_getElem? hi
      have equal : (stripped p.1 == stripped q.1) = (stripped p.2 == stripped q.2) := by
        rw [stripped_beq_stripped, stripped_beq_stripped]
        exact strippedEq_congr (keys p hp) (keys q hq) (alike p hp) (alike q hq)
      exact congrArg not equal

/-- Equal stripped payloads are kept from being keys by the same kind of part. -/
theorem findSome?_unhashable?_stripped (alike : ∀ p ∈ pairs, p.2.strippedEq p.1 = true) :
    (pairs.map fun p => stripped p.1).findSome? Value.unhashable? =
      (pairs.map fun p => stripped p.2).findSome? Value.unhashable? := by
  induction pairs with
  | nil => rfl
  | cons p ps ih =>
    obtain ⟨hp, hps⟩ := List.forall_mem_cons.1 alike
    have payload : p.2.strip.unhashable? = p.1.strip.unhashable? := unhashable?_congr hp
    simp only [List.map_cons, List.findSome?_cons, unhashable?_stripped, payload, ih hps]

theorem isOk_distinctValues_stripped (alike : ∀ p ∈ pairs, p.2.strippedEq p.1 = true) :
    (distinctValues H (pairs.map fun p => stripped p.1)).result.isOk =
      (distinctValues H (pairs.map fun p => stripped p.2)).result.isOk := by
  rw [distinctValues_eq, distinctValues_eq, findSome?_unhashable?_stripped alike]
  split <;> rfl

/-- **What is kept of a list.** Whatever the hashes are made of, equal values have the same, and a
wrapped value has that of its stripped payload. -/
theorem distinct_laws (H : Hasher) {items : List Value}
    (keys : ∀ v ∈ items, v.wellKeyed = true) :
    (∀ v w : Value, (v == w) = true → H.hash v = H.hash w) ∧
    (∀ v : Value, H.hash (stripped v) = H.hash v.strip) ∧
    (∀ v : Value, (∃ kind, H.hash v = .error kind) ↔
      ∃ part, KeyPart v part ∧ part.barred = true) ∧
    ((∃ kind, distinctValues H items = .fail (.unhashable kind)) ↔
      ∃ v ∈ items, ∃ part, KeyPart v part ∧ part.barred = true) ∧
    ((¬∃ v ∈ items, ∃ part, KeyPart v part ∧ part.barred = true) →
      ∃ kept, distinctValues H items = pure kept ∧ FirstOfEach items kept) ∧
    (∀ v w : Value, (v == w) = true → v.isHashable = w.isHashable) ∧
    ∀ pairs : List (Value × Value), items = (pairs.map fun p => stripped p.1) →
      (∀ p ∈ pairs, p.2.wellKeyed = true ∧ p.2.strippedEq p.1 = true) →
      (distinctValues H items).result.isOk =
          (distinctValues H (pairs.map fun p => stripped p.2)).result.isOk ∧
        firstPositions items = firstPositions (pairs.map fun p => stripped p.2) := by
  simp only [← isHashable_eq_false_iff]
  refine ⟨fun v w h => H.hash_congr h, H.hash_stripped, H.exists_hash_eq_error_iff,
    distinctValues_eq_fail_iff H, ?_, ?_, ?_⟩
  · intro free
    refine ⟨firsts items, distinctValues_of_hashable H fun v hv => ?_, firsts_firstOfEach keys⟩
    exact eq_true_of_ne_false fun h => free ⟨v, hv, h⟩
  · intro v w h
    rw [isHashable, isHashable, unhashable?_congr h]
  · rintro pairs rfl replaced
    exact ⟨isOk_distinctValues_stripped H fun p hp => (replaced p hp).2,
      firstPositions_stripped (fun p hp => (replaced p hp).1) fun p hp => (replaced p hp).2⟩

/-- Numbers and truth values, texts and styles, and wrapped payloads with and without a location,
in a file that could not be a key itself. -/
theorem distinct_laws_mixed :
    let at' (n : Int) : Value := located (text "primary") (list []) ⟨n, n⟩
    let items := [int 1, bool true, stripped (at' 7), text "secondary", stripped (text "primary"),
      style .secondary, stripped (int 1)]
    (∀ v ∈ items, v.wellKeyed = true) ∧
      (¬∃ v ∈ items, ∃ part, KeyPart v part ∧ part.barred = true) ∧
      ∃ kept, distinctValues .coarse items = pure kept ∧ FirstOfEach items kept ∧
        firstPositions items = [0, 2, 3, 6] := by
  intro at' items
  have keys : ∀ v ∈ items, v.wellKeyed = true := by decide
  have free : ¬∃ v ∈ items, ∃ part, KeyPart v part ∧ part.barred = true := by
    simp only [← isHashable_eq_false_iff]
    decide
  obtain ⟨kept, done, first⟩ := (distinct_laws .coarse keys).2.2.2.2.1 free
  exact ⟨keys, free, kept, done, first, by decide⟩

end Whereabouts
