import Whereabouts.Proofs.Equality.Stripped
import Whereabouts.Proofs.Order.Coherence

/-!
# Positions in ascending order

A ranking of a list lists its positions so that no later item is less than an earlier one and that
equal items stay in the order they have. `Ranking.unique`: a list has one ranking at most. So the
ranking says all there is to say about a stable sort, whatever the algorithm.

`PayloadsAlike.ranking_iff`: wrapped values are ranked by what is left of them without locations.
-/
namespace Whereabouts

open Value

/-- The item at `i` may stand in front of the one at `j`: that one is not less, and if they are
equal it comes later already. -/
def InOrder (items : List Value) (i j : Nat) : Prop :=
  ∃ v w, items[i]? = some v ∧ items[j]? = some w ∧ w.relate .lt v = .ok false ∧
    ((v == w) = true → i < j)

/-- The positions of all items in ascending order. -/
structure Ranking (items : List Value) (positions : List Nat) : Prop where
  perm : positions.Perm (List.range items.length)
  ascending : positions.Pairwise (InOrder items)

variable {items : List Value} {v w : Value} {i j : Nat}

theorem relate_lt_eq_false_iff : v.relate .lt w = .ok false ↔
    ∃ o, v.settled.order? w.settled = some o ∧ o ≠ .lt := by
  rw [← Except.toOption_eq_some_iff, toOption_lt]
  simp only [Option.map_eq_some_iff, beq_eq_false_iff_ne]

instance : DecidableRel (InOrder items) := fun i j =>
  decidable_of_iff (∃ v ∈ items[i]?, ∃ w ∈ items[j]?,
    (∃ o ∈ w.settled.order? v.settled, o ≠ .lt) ∧ ((v == w) = true → i < j)) (by
      simp only [InOrder, relate_lt_eq_false_iff, Option.mem_def, exists_and_left])

instance (positions : List Nat) : Decidable (Ranking items positions) :=
  decidable_of_iff (positions.Perm (List.range items.length) ∧ positions.Pairwise (InOrder items))
    ⟨fun h => ⟨h.1, h.2⟩, fun h => ⟨h.perm, h.ascending⟩⟩

theorem order?_settled_swap (hv : v.wellKeyed = true) (hw : w.wellKeyed = true) :
    w.settled.order? v.settled = (v.settled.order? w.settled).map Ordering.swap :=
  order?_swap (keysDiffer_settled v hv) (keysDiffer_settled w hw)

/-- Neither of two values is less only if they are equal. -/
theorem beq_of_not_less (hv : v.wellKeyed = true) (hw : w.wellKeyed = true)
    (hvw : v.relate .lt w = .ok false) (hwv : w.relate .lt v = .ok false) : (v == w) = true := by
  obtain ⟨o, found, notLess⟩ := relate_lt_eq_false_iff.1 hvw
  obtain ⟨o', found', notLess'⟩ := relate_lt_eq_false_iff.1 hwv
  rw [order?_settled_swap hv hw, found] at found'
  cases found'
  have equal : o = .eq := by
    cases o with
    | lt => exact absurd rfl notLess
    | eq => rfl
    | gt => exact absurd rfl notLess'
  rw [equal] at found
  exact same_of_order? found

theorem InOrder.asymm (keys : ∀ v ∈ items, v.wellKeyed = true) (h : InOrder items i j) :
    ¬InOrder items j i := by
  intro h'
  obtain ⟨v, w, hi, hj, hwv, earlier⟩ := h
  obtain ⟨w', v', hj', hi', hvw, later⟩ := h'
  obtain rfl : v = v' := Option.some.inj (hi.symm.trans hi')
  obtain rfl : w = w' := Option.some.inj (hj.symm.trans hj')
  have hv := keys v (List.mem_of_getElem? hi)
  have hw := keys w (List.mem_of_getElem? hj)
  have equal : (v == w) = true := beq_of_not_less hv hw hvw hwv
  have := earlier equal
  have := later (beq_symm hv equal)
  omega

/-- **A list has one ranking at most.** -/
theorem Ranking.unique {positions others : List Nat} (keys : ∀ v ∈ items, v.wellKeyed = true)
    (h : Ranking items positions) (h' : Ranking items others) : others = positions := by
  refine List.Perm.eq_of_pairwise ?_ h'.ascending h.ascending (h'.perm.trans h.perm.symm)
  intro i j _ _ hij hji
  exact absurd hji (hij.asymm keys)

theorem order?_stripped (v w : Value) : (stripped v).settled.order? (stripped w).settled =
    v.strip.settled.order? w.strip.settled := by
  rw [settled, settled, ← settled_strip, ← settled_strip, order?, verdict]
  rfl

/-- Payloads that are equal without their locations are ordered alike. -/
theorem order?_stripped_congr {v v' w w' : Value} (hv : v.wellKeyed = true)
    (hv' : v'.wellKeyed = true) (hw : w.wellKeyed = true) (hw' : w'.wellKeyed = true)
    (hvv : v'.strippedEq v = true) (hww : w'.strippedEq w = true) :
    (stripped v).settled.order? (stripped w).settled =
      (stripped v').settled.order? (stripped w').settled := by
  have keys {u : Value} (hu : u.wellKeyed = true) : u.strip.settled.keysDiffer same = true :=
    keysDiffer_settled _ (keysDiffer_strip u hu)
  rw [order?_stripped, order?_stripped, order?_congr (keys hv') hvv,
    order?_congr_right (keys hv) (keys hw') (keys hw) hww]

/-- Pairs of payloads, the two of each pair equal without their locations. -/
structure PayloadsAlike (pairs : List (Value × Value)) : Prop where
  keys : ∀ p ∈ pairs, p.1.wellKeyed = true ∧ p.2.wellKeyed = true
  alike : ∀ p ∈ pairs, p.2.strippedEq p.1 = true

section Payloads

variable {pairs : List (Value × Value)} {p q : Value × Value}

theorem PayloadsAlike.order?_eq (h : PayloadsAlike pairs) (hp : p ∈ pairs) (hq : q ∈ pairs) :
    (stripped p.1).settled.order? (stripped q.1).settled =
      (stripped p.2).settled.order? (stripped q.2).settled :=
  order?_stripped_congr (h.keys p hp).1 (h.keys p hp).2 (h.keys q hq).1 (h.keys q hq).2
    (h.alike p hp) (h.alike q hq)

theorem PayloadsAlike.beq_eq (h : PayloadsAlike pairs) (hp : p ∈ pairs) (hq : q ∈ pairs) :
    (stripped p.1 == stripped q.1) = (stripped p.2 == stripped q.2) := by
  rw [stripped_beq_stripped, stripped_beq_stripped]
  exact strippedEq_congr (h.keys p hp).2 (h.keys q hq).2 (h.alike p hp) (h.alike q hq)

theorem inOrder_map_iff {α : Type} {f : α → Value} {xs : List α} :
    InOrder (xs.map f) i j ↔ ∃ x y, xs[i]? = some x ∧ xs[j]? = some y ∧
      (f y).relate .lt (f x) = .ok false ∧ ((f x == f y) = true → i < j) := by
  simp only [InOrder, List.getElem?_map, Option.map_eq_some_iff]
  constructor
  · rintro ⟨_, _, ⟨x, hx, rfl⟩, ⟨y, hy, rfl⟩, less, earlier⟩
    exact ⟨x, y, hx, hy, less, earlier⟩
  · rintro ⟨x, y, hx, hy, less, earlier⟩
    exact ⟨_, _, ⟨x, hx, rfl⟩, ⟨y, hy, rfl⟩, less, earlier⟩

theorem PayloadsAlike.inOrder_iff (h : PayloadsAlike pairs) :
    InOrder (pairs.map fun p => stripped p.1) i j ↔
      InOrder (pairs.map fun p => stripped p.2) i j := by
  rw [inOrder_map_iff, inOrder_map_iff]
  refine exists_congr fun p => exists_congr fun q => and_congr_right fun hi =>
    and_congr_right fun hj => ?_
  have hp := List.mem_of_getElem? hi
  have hq := List.mem_of_getElem? hj
  rw [relate_lt_eq_false_iff, relate_lt_eq_false_iff, h.order?_eq hq hp, h.beq_eq hp hq]

theorem PayloadsAlike.ranking_iff (h : PayloadsAlike pairs) {positions : List Nat} :
    Ranking (pairs.map fun p => stripped p.1) positions ↔
      Ranking (pairs.map fun p => stripped p.2) positions := by
  constructor
  · intro ranked
    refine ⟨?_, ranked.ascending.imp h.inOrder_iff.1⟩
    simpa only [List.length_map] using ranked.perm
  · intro ranked
    refine ⟨?_, ranked.ascending.imp h.inOrder_iff.2⟩
    simpa only [List.length_map] using ranked.perm

/-- Whether payloads can be compared is not changed either. -/
theorem PayloadsAlike.comparable (h : PayloadsAlike pairs)
    (comparable : (pairs.map fun p => stripped p.1).Pairwise fun v w =>
      (v.relate .lt w).isOk = true) :
    (pairs.map fun p => stripped p.2).Pairwise fun v w => (v.relate .lt w).isOk = true := by
  rw [List.pairwise_map] at comparable ⊢
  refine comparable.imp_of_mem ?_
  intro p q hp hq answered
  rw [isOk_lt, h.order?_eq hp hq] at answered
  rwa [isOk_lt]

end Payloads

end Whereabouts
