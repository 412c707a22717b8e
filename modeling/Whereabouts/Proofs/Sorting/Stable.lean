import Whereabouts.Proofs.Sorting.Ranking
import Whereabouts.Script.Values

/-!
# Sorting is stable

Insertion splits a sorted list where the members stop being less. In front of the new item are its
lesser ones alone, so an item that was there before its equals stays before them; behind it nothing
is less, as the list was sorted. So sorting a list of values that can be compared gives its items at
the positions of a ranking (`exists_sortedBy`).
-/
namespace Whereabouts

open Value Script

/-- The result has the items at the positions of a ranking, in that order. -/
structure SortedBy (items result : List Value) (positions : List Nat) : Prop where
  ranking : Ranking items positions
  placed : result.map some = positions.map fun i => items[i]?

variable {items result : List Value} {positions : List Nat} {u v w : Value}

theorem less_iff : v.less w = true ↔ v.relate .lt w = .ok true := by
  rw [less]
  cases v.relate .lt w with
  | ok answer => simp
  | error reason => simp

theorem relate_lt_of_not_less (answered : (v.relate .lt w).isOk = true) (h : ¬v.less w = true) :
    v.relate .lt w = .ok false := by
  rw [less_iff] at h
  cases hr : v.relate .lt w with
  | ok answer =>
    cases answer with
    | true => exact absurd hr h
    | false => rfl
  | error reason => rw [hr] at answered; cases answered

/-- A value that is less than another one is not equal to it, and the other one is not less. -/
theorem not_less_of_less (hv : v.wellKeyed = true) (hw : w.wellKeyed = true)
    (h : v.relate .lt w = .ok true) : w.relate .lt v = .ok false ∧ ¬(v == w) = true := by
  rw [relate_lt_iff] at h
  constructor
  · rw [relate_lt_eq_false_iff, order?_settled_swap hv hw, h]
    exact ⟨.gt, rfl, by decide⟩
  · intro equal
    cases order?_of_same equal h

/-- What is less than `v` is less than every value that is not. -/
theorem less_of_less_of_not_less (hu : u.wellKeyed = true) (hv : v.wellKeyed = true)
    (hw : w.wellKeyed = true) (huv : u.relate .lt v = .ok true)
    (hwv : w.relate .lt v = .ok false) : u.relate .lt w = .ok true := by
  have ku := keysDiffer_settled u hu
  have kv := keysDiffer_settled v hv
  have kw := keysDiffer_settled w hw
  obtain ⟨o, found, notLess⟩ := relate_lt_eq_false_iff.1 hwv
  rw [relate_lt_iff] at huv ⊢
  cases o with
  | lt => exact absurd rfl notLess
  | eq => rw [order?_congr_right ku kw kv (same_of_order? found), huv]
  | gt =>
    have hvw : v.settled.order? w.settled = some .lt := by
      rw [order?_settled_swap hw hv, found]
      rfl
    exact order?_lt_trans ku kv kw huv hvw

theorem insertSorted_eq (v : Value) (ws : List Value) :
    insertSorted v ws = ws.takeWhile (·.less v) ++ v :: ws.dropWhile (·.less v) := by
  induction ws with
  | nil => rfl
  | cons w ws ih =>
    rw [insertSorted_cons, List.takeWhile_cons, List.dropWhile_cons]
    by_cases h : w.less v = true
    · rw [if_pos h, if_pos h, if_pos h, ih]
      rfl
    · rw [if_neg h, if_neg h, if_neg h]
      rfl

theorem less_of_mem_takeWhile {ws : List Value} (h : w ∈ ws.takeWhile (·.less v)) :
    w.relate .lt v = .ok true := by
  have all := List.all_takeWhile (p := (·.less v)) (l := ws)
  exact less_iff.1 (List.all_eq_true.1 all w h)

/-- In a sorted list whatever comes behind a value that is not less than `v` is not less either. -/
theorem not_less_of_mem_dropWhile {ws : List Value} (hv : v.wellKeyed = true)
    (keys : ∀ w ∈ ws, w.wellKeyed = true) (answered : ∀ w ∈ ws, (w.relate .lt v).isOk = true)
    (sorted : ws.Pairwise fun v w => w.relate .lt v = .ok false) :
    ∀ w ∈ ws.dropWhile (·.less v), w.relate .lt v = .ok false := by
  induction ws with
  | nil => intro w hw; cases hw
  | cons w ws ih =>
    obtain ⟨hw, keys⟩ := List.forall_mem_cons.1 keys
    obtain ⟨answer, answered⟩ := List.forall_mem_cons.1 answered
    obtain ⟨first, sorted⟩ := List.pairwise_cons.1 sorted
    rw [List.dropWhile_cons]
    by_cases h : w.less v = true
    · rw [if_pos h]
      exact ih keys answered sorted
    · have head : w.relate .lt v = .ok false := relate_lt_of_not_less answer h
      rw [if_neg h]
      refine List.forall_mem_cons.2 ⟨head, fun u hu => ?_⟩
      apply relate_lt_of_not_less (answered u hu)
      intro less
      have huw := less_of_less_of_not_less (keys u hu) hv hw (less_iff.1 less) head
      rw [first u hu] at huw
      cases huw

theorem exists_of_placed {part : List Value} {places : List Nat} {items : List Value}
    (placed : part.map some = places.map fun i => items[i]?) {i : Nat} (hi : i ∈ places) :
    ∃ w ∈ part, items[i]? = some w := by
  have mem : items[i]? ∈ part.map some := by
    rw [placed]
    exact List.mem_map.2 ⟨i, hi, rfl⟩
  obtain ⟨w, hw, found⟩ := List.mem_map.1 mem
  exact ⟨w, hw, found.symm⟩

theorem SortedBy.mem (h : SortedBy items result positions) (hv : v ∈ result) : v ∈ items := by
  have mem : some v ∈ positions.map fun i => items[i]? := by
    rw [← h.placed]
    exact List.mem_map.2 ⟨v, hv, rfl⟩
  obtain ⟨i, -, found⟩ := List.mem_map.1 mem
  exact List.mem_of_getElem? found

/-- No later member is less than an earlier one. -/
theorem SortedBy.pairwise (h : SortedBy items result positions) :
    result.Pairwise fun v w => w.relate .lt v = .ok false := by
  have placed : (result.map some).Pairwise fun x y =>
      ∀ v w, x = some v → y = some w → w.relate .lt v = .ok false := by
    rw [h.placed, List.pairwise_map]
    refine h.ranking.ascending.imp ?_
    rintro i j ⟨v, w, hi, hj, notLess, -⟩ v' w' hi' hj'
    obtain rfl : v = v' := Option.some.inj (hi.symm.trans hi')
    obtain rfl : w = w' := Option.some.inj (hj.symm.trans hj')
    exact notLess
  exact (List.pairwise_map.1 placed).imp fun ordered => ordered _ _ rfl rfl

theorem inOrder_succ_iff {i j : Nat} {vs : List Value} :
    InOrder (v :: vs) (i + 1) (j + 1) ↔ InOrder vs i j := by
  simp only [InOrder, List.getElem?_cons_succ, Nat.add_lt_add_iff_right]

/-- What goes in front of a new item is less, so it is not one of its equals. -/
theorem inOrder_succ_zero {i : Nat} {vs : List Value} (hv : v.wellKeyed = true)
    (hw : w.wellKeyed = true) (found : vs[i]? = some w) (less : w.relate .lt v = .ok true) :
    InOrder (v :: vs) (i + 1) 0 := by
  obtain ⟨notLess, unequal⟩ := not_less_of_less hw hv less
  exact ⟨w, v, found, rfl, notLess, fun equal => absurd equal unequal⟩

theorem inOrder_zero_succ {j : Nat} {vs : List Value} (found : vs[j]? = some w)
    (notLess : w.relate .lt v = .ok false) : InOrder (v :: vs) 0 (j + 1) :=
  ⟨v, w, rfl, found, notLess, fun _ => Nat.succ_pos j⟩

/-- A new first item can be put between two parts of a ranking. -/
theorem Ranking.insert {vs : List Value} {low high : List Nat} (h : Ranking vs (low ++ high))
    (before : ∀ i ∈ low, InOrder (v :: vs) (i + 1) 0)
    (behind : ∀ j ∈ high, InOrder (v :: vs) 0 (j + 1)) :
    Ranking (v :: vs) (low.map (· + 1) ++ 0 :: high.map (· + 1)) := by
  obtain ⟨ascendingLow, ascendingHigh, across⟩ := List.pairwise_append.1 h.ascending
  constructor
  case perm =>
    have moved := (h.perm.map Nat.succ).cons 0
    rw [List.map_append] at moved
    rw [List.length_cons, List.range_succ_eq_map]
    exact List.perm_middle.trans moved
  case ascending =>
    simp only [List.pairwise_append, List.pairwise_cons, List.pairwise_map, List.mem_cons,
      List.forall_mem_map, inOrder_succ_iff]
    refine ⟨ascendingLow, ⟨behind, ascendingHigh⟩, fun i hi j' hj' => ?_⟩
    rcases hj' with rfl | hj'
    · exact before i hi
    · obtain ⟨j, hj, rfl⟩ := List.mem_map.1 hj'
      exact inOrder_succ_iff.2 (across i hi j hj)

/-- One more item in front of the list moves every position up by one and goes in where it is
inserted. -/
theorem exists_sortedBy_cons {vs ws : List Value} {positions : List Nat}
    (hv : v.wellKeyed = true) (keys : ∀ w ∈ vs, w.wellKeyed = true)
    (answered : ∀ w ∈ vs, (v.relate .lt w).isOk = true) (h : SortedBy vs ws positions) :
    ∃ positions', SortedBy (v :: vs) (insertSorted v ws) positions' := by
  have keysWs : ∀ w ∈ ws, w.wellKeyed = true := fun w hw => keys w (h.mem hw)
  have answeredWs : ∀ w ∈ ws, (w.relate .lt v).isOk = true := by
    intro w hw
    have answer := answered w (h.mem hw)
    rw [isOk_lt] at answer ⊢
    rwa [order?_settled_swap hv (keysWs w hw), Option.isSome_map]
  have notLess := not_less_of_mem_dropWhile hv keysWs answeredWs h.pairwise
  rw [insertSorted_eq]
  have cut := h.placed.symm
  rw [← List.takeWhile_append_dropWhile (p := (·.less v)) (l := ws), List.map_append] at cut
  obtain ⟨low, high, rfl, placedLow, placedHigh⟩ := List.map_eq_append_iff.1 cut
  refine ⟨low.map (· + 1) ++ 0 :: high.map (· + 1), h.ranking.insert ?_ ?_, ?_⟩
  · intro i hi
    obtain ⟨w, hw, found⟩ := exists_of_placed placedLow.symm hi
    have hkw := keys w (List.mem_of_getElem? found)
    exact inOrder_succ_zero hv hkw found (less_of_mem_takeWhile hw)
  · intro j hj
    obtain ⟨w, hw, found⟩ := exists_of_placed placedHigh.symm hj
    exact inOrder_zero_succ found (notLess w hw)
  · rw [List.map_append, List.map_cons, ← placedLow, ← placedHigh, List.map_append,
      List.map_cons, List.map_map, List.map_map]
    rfl

theorem exists_sortedBy (keys : ∀ v ∈ items, v.wellKeyed = true)
    (comparable : items.Pairwise fun v w => (v.relate .lt w).isOk = true) :
    ∃ positions, SortedBy items (sorted items) positions := by
  induction items with
  | nil => exact ⟨[], ⟨List.Perm.refl _, List.Pairwise.nil⟩, rfl⟩
  | cons v vs ih =>
    obtain ⟨hv, keys⟩ := List.forall_mem_cons.1 keys
    obtain ⟨answered, comparable⟩ := List.pairwise_cons.1 comparable
    obtain ⟨positions, h⟩ := ih keys comparable
    exact exists_sortedBy_cons hv keys answered h

theorem allComparable_iff :
    allComparable items = true ↔ items.Pairwise fun v w => (v.relate .lt w).isOk = true := by
  induction items with
  | nil => exact ⟨fun _ => List.Pairwise.nil, fun _ => rfl⟩
  | cons v vs ih =>
    rw [allComparable, Bool.and_eq_true, List.all_eq_true, ih, List.pairwise_cons]
    rfl

theorem sortValues_of_comparable
    (comparable : items.Pairwise fun v w => (v.relate .lt w).isOk = true) :
    sortValues items = pure (sorted items) := by
  have all : allComparable (items.map id) = true := by
    rw [List.map_id]
    exact allComparable_iff.2 comparable
  rw [sortValues, sortBy, sortOn?, if_pos all]
  rfl

end Whereabouts
