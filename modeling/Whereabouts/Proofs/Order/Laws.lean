import Whereabouts.Proofs.Order.Found

/-!
# Laws of the order

Which part decides depends on equality, so each law is proved part by part from equality: only
values that are the same are found equal, values that are the same are ordered alike, exchange
turns the order round, and less is transitive. Each law is first shown for parts in a row.
-/
namespace Whereabouts.Value

theorem same_comm {v w : Value} (hv : v.keysDiffer same = true) (hw : w.keysDiffer same = true) :
    v.same w = w.same v :=
  Bool.eq_iff_iff.2 ⟨same_symm hv, same_symm hw⟩

/-! ### Equal is the same -/

theorem orderAll?_of_sameAll {vs ws : List Value} (h : sameAll vs ws = true) :
    orderAll? vs ws = some .eq := by
  induction vs generalizing ws with
  | nil =>
    obtain rfl := sameAll_nil_iff.1 h
    exact orderAll?_nil_nil
  | cons v vs ih =>
    obtain ⟨w, ws, rfl, hw, hrest⟩ := sameAll_cons_iff.1 h
    rw [orderAll?_cons_cons, if_pos hw]
    exact ih hrest

theorem sameAll_of_orderAll? {vs ws : List Value}
    (eq : ∀ v ∈ vs, ∀ {w : Value}, v.order? w = some .eq → v.same w = true)
    (h : orderAll? vs ws = some .eq) : sameAll vs ws = true := by
  induction vs generalizing ws with
  | nil =>
    cases ws with
    | nil => rw [sameAll]
    | cons => rw [orderAll?_nil_cons] at h; cases h
  | cons v vs ih =>
    cases ws with
    | nil => rw [orderAll?_cons_nil] at h; cases h
    | cons w ws =>
      obtain ⟨hv, hvs⟩ := List.forall_mem_cons.1 eq
      rw [orderAll?_cons_cons] at h
      rw [sameAll, Bool.and_eq_true]
      split at h
      · rename_i head
        exact ⟨head, ih hvs h⟩
      · rename_i head
        exact absurd (hv h) head

theorem same_of_order? {v w : Value} (h : v.order? w = some .eq) : v.same w = true := by
  induction v using shapeInduction generalizing w with
  | atom v a hv =>
    rw [order?_eq, hv] at h
    rw [same_iff, hv]
    cases hw : w.shape with
    | atom b => rw [hw] at h; exact Atom.eq_of_order? h
    | table | parts => rw [hw] at h; cases h
  | table v es hv => rw [order?_eq, hv] at h; cases h
  | parts v kind vs hv ih =>
    obtain ⟨ws, hw, h⟩ := order?_of_parts hv h
    rw [same_iff, hv, hw]
    refine ⟨rfl, ?_⟩
    rcases orderParts?_eq_some h with ⟨-, row⟩ | ⟨-, v, w, rfl, rfl, single⟩
    · exact sameAll_of_orderAll? ih row
    · have head := ih v List.mem_cons_self single
      rw [sameAll, head]
      rfl

theorem order?_of_same {v w : Value} {o : Ordering} (h : v.same w = true)
    (found : v.order? w = some o) : o = .eq := by
  induction v using shapeInduction generalizing w with
  | atom v a hv =>
    rw [same_iff, hv, Shape.atom_alike_iff] at h
    rw [order?_eq, hv, h] at found
    exact Atom.eq_of_order?_self found
  | table v es hv => rw [order?_eq, hv] at found; cases found
  | parts v kind vs hv ih =>
    obtain ⟨ws, hw, found⟩ := order?_of_parts hv found
    rw [same_iff, hv, hw] at h
    rcases orderParts?_eq_some found with ⟨-, row⟩ | ⟨-, v, w, rfl, rfl, single⟩
    · rw [orderAll?_of_sameAll h.2] at row
      cases row
      rfl
    · have head : v.same w = true := by simpa [sameAll] using h.2
      exact ih v List.mem_cons_self head single

/-! ### Values that are the same are ordered alike -/

theorem orderAll?_congr {vs ws us : List Value} (keys : keysDifferAll same vs = true)
    (congr : ∀ v ∈ vs, ∀ {w : Value}, v.keysDiffer same = true → v.same w = true →
      ∀ u : Value, v.order? u = w.order? u)
    (h : sameAll vs ws = true) : orderAll? vs us = orderAll? ws us := by
  induction vs generalizing ws us with
  | nil =>
    obtain rfl := sameAll_nil_iff.1 h
    rfl
  | cons v vs ih =>
    obtain ⟨w, ws, rfl, hw, hrest⟩ := sameAll_cons_iff.1 h
    rw [keysDifferAll, Bool.and_eq_true] at keys
    obtain ⟨hv, hvs⟩ := List.forall_mem_cons.1 congr
    cases us with
    | nil => rw [orderAll?_cons_nil, orderAll?_cons_nil]
    | cons u us =>
      have heads : v.same u = true ↔ w.same u = true :=
        ⟨same_trans (same_symm keys.1 hw), same_trans hw⟩
      rw [orderAll?_cons_cons, orderAll?_cons_cons, hv keys.1 hw u, ih keys.2 hvs hrest]
      simp only [heads]

theorem orderPayload?_congr {vs ws us : List Value} (keys : keysDifferAll same vs = true)
    (congr : ∀ v ∈ vs, ∀ {w : Value}, v.keysDiffer same = true → v.same w = true →
      ∀ u : Value, v.order? u = w.order? u)
    (h : sameAll vs ws = true) : orderPayload? vs us = orderPayload? ws us := by
  match vs, us with
  | [], us =>
    obtain rfl := sameAll_nil_iff.1 h
    rfl
  | [v], us =>
    obtain ⟨w, ws, rfl, hw, hrest⟩ := sameAll_cons_iff.1 h
    obtain rfl := sameAll_nil_iff.1 hrest
    match us with
    | [] | _ :: _ :: _ => rfl
    | [u] =>
      rw [keysDifferAll, Bool.and_eq_true] at keys
      exact congr v List.mem_cons_self keys.1 hw u
  | _ :: _ :: _, us =>
    obtain ⟨_, _, rfl, _, hrest⟩ := sameAll_cons_iff.1 h
    obtain ⟨_, _, rfl, _, _⟩ := sameAll_cons_iff.1 hrest
    rfl

theorem order?_congr {v w : Value} (keys : v.keysDiffer same = true) (h : v.same w = true)
    (u : Value) : v.order? u = w.order? u := by
  induction v using shapeInduction generalizing w u with
  | atom v a hv =>
    rw [same_iff, hv, Shape.atom_alike_iff] at h
    rw [order?_eq, order?_eq, hv, h]
  | table v es hv =>
    rw [same_iff, hv, Shape.table_alike_iff] at h
    obtain ⟨gs, hw, -⟩ := h
    rw [order?_eq, order?_eq, hv, hw]
    cases u.shape <;> rfl
  | parts v kind vs hv ih =>
    rw [keysDiffer_parts hv] at keys
    rw [same_iff, hv, Shape.parts_alike_iff] at h
    obtain ⟨ws, hw, hs⟩ := h
    rw [order?_eq, order?_eq, hv, hw]
    cases hu : u.shape with
    | atom | table => rfl
    | parts kind' us =>
      simp only [Shape.order?, orderParts?, orderAll?_congr keys ih hs,
        orderPayload?_congr keys ih hs]

/-! ### Exchange turns the order round -/

theorem orderAll?_swap {vs ws : List Value} (hvs : keysDifferAll same vs = true)
    (hws : keysDifferAll same ws = true)
    (swap : ∀ v ∈ vs, ∀ {w : Value}, v.keysDiffer same = true → w.keysDiffer same = true →
      w.order? v = (v.order? w).map Ordering.swap) :
    orderAll? ws vs = (orderAll? vs ws).map Ordering.swap := by
  induction vs generalizing ws with
  | nil =>
    cases ws with
    | nil => rw [orderAll?_nil_nil]; rfl
    | cons => rw [orderAll?_cons_nil, orderAll?_nil_cons]; rfl
  | cons v vs ih =>
    cases ws with
    | nil => rw [orderAll?_cons_nil, orderAll?_nil_cons]; rfl
    | cons w ws =>
      rw [keysDifferAll, Bool.and_eq_true] at hvs hws
      obtain ⟨head, rest⟩ := List.forall_mem_cons.1 swap
      rw [orderAll?_cons_cons, orderAll?_cons_cons, same_comm hws.1 hvs.1]
      split
      · exact ih hvs.2 hws.2 rest
      · exact head hvs.1 hws.1

theorem orderPayload?_swap {vs ws : List Value} (hvs : keysDifferAll same vs = true)
    (hws : keysDifferAll same ws = true)
    (swap : ∀ v ∈ vs, ∀ {w : Value}, v.keysDiffer same = true → w.keysDiffer same = true →
      w.order? v = (v.order? w).map Ordering.swap) :
    orderPayload? ws vs = (orderPayload? vs ws).map Ordering.swap := by
  match vs, ws with
  | [], [] | [], [_] | [], _ :: _ :: _ => rfl
  | [_], [] | [_], _ :: _ :: _ => rfl
  | _ :: _ :: _, [] | _ :: _ :: _, [_] | _ :: _ :: _, _ :: _ :: _ => rfl
  | [v], [w] =>
    rw [keysDifferAll, Bool.and_eq_true] at hvs hws
    exact swap v List.mem_cons_self hvs.1 hws.1

theorem order?_swap {v w : Value} (hv : v.keysDiffer same = true)
    (hw : w.keysDiffer same = true) : w.order? v = (v.order? w).map Ordering.swap := by
  induction v using shapeInduction generalizing w with
  | atom v a sv =>
    rw [order?_eq, order?_eq, sv]
    cases w.shape with
    | atom b => exact Atom.order?_swap a b
    | table | parts => rfl
  | table v es sv =>
    rw [order?_eq, order?_eq, sv]
    cases w.shape <;> rfl
  | parts v kind vs sv ih =>
    rw [keysDiffer_parts sv] at hv
    rw [order?_eq, order?_eq, sv]
    cases sw : w.shape with
    | atom | table => rfl
    | parts kind' ws =>
      rw [keysDiffer_parts sw] at hw
      by_cases hk : kind = kind'
      · subst hk
        simp only [Shape.order?, reduceIte, orderParts?, orderAll?_swap hv hw ih,
          orderPayload?_swap hv hw ih]
        split
        · rfl
        · split <;> rfl
      · simp only [Shape.order?, hk, Ne.symm hk, reduceIte, Option.map_none]

theorem order?_congr_right {u v w : Value} (hu : u.keysDiffer same = true)
    (hv : v.keysDiffer same = true) (hw : w.keysDiffer same = true) (h : v.same w = true) :
    u.order? v = u.order? w := by
  rw [order?_swap hv hu, order?_swap hw hu, order?_congr hv h]

/-! ### Less is transitive -/

theorem orderAll?_lt_trans {us vs ws : List Value} (hus : keysDifferAll same us = true)
    (hvs : keysDifferAll same vs = true) (hws : keysDifferAll same ws = true)
    (trans : ∀ u ∈ us, ∀ {v w : Value}, u.keysDiffer same = true → v.keysDiffer same = true →
      w.keysDiffer same = true → u.order? v = some .lt → v.order? w = some .lt →
        u.order? w = some .lt)
    (huv : orderAll? us vs = some .lt) (hvw : orderAll? vs ws = some .lt) :
    orderAll? us ws = some .lt := by
  induction us generalizing vs ws with
  | nil =>
    cases vs with
    | nil => rw [orderAll?_nil_nil] at huv; cases huv
    | cons v vs =>
      cases ws with
      | nil => rw [orderAll?_cons_nil] at hvw; cases hvw
      | cons => exact orderAll?_nil_cons
  | cons u us ih =>
    cases vs with
    | nil => rw [orderAll?_cons_nil] at huv; cases huv
    | cons v vs =>
      cases ws with
      | nil => rw [orderAll?_cons_nil] at hvw; cases hvw
      | cons w ws =>
        simp only [keysDifferAll, Bool.and_eq_true] at hus hvs hws
        obtain ⟨head, rest⟩ := List.forall_mem_cons.1 trans
        rw [orderAll?_cons_cons] at huv hvw ⊢
        by_cases suv : u.same v = true <;> by_cases svw : v.same w = true <;>
          simp only [suv, svw, if_true] at huv hvw
        · rw [if_pos (same_trans suv svw)]
          exact ih hus.2 hvs.2 hws.2 rest huv hvw
        · have suw : ¬u.same w = true := fun h => svw (same_trans (same_symm hus.1 suv) h)
          rw [if_neg suw, order?_congr hus.1 suv]
          exact hvw
        · have suw : ¬u.same w = true := fun h => suv (same_trans h (same_symm hvs.1 svw))
          rw [if_neg suw, ← order?_congr_right hus.1 hvs.1 hws.1 svw]
          exact huv
        · have found := head hus.1 hvs.1 hws.1 huv hvw
          have suw : ¬u.same w = true := fun h => by cases order?_of_same h found
          rw [if_neg suw]
          exact found

theorem order?_lt_trans {u v w : Value} (hu : u.keysDiffer same = true)
    (hv : v.keysDiffer same = true) (hw : w.keysDiffer same = true)
    (huv : u.order? v = some .lt) (hvw : v.order? w = some .lt) : u.order? w = some .lt := by
  induction u using shapeInduction generalizing v w with
  | atom u a su =>
    rw [order?_eq, su] at huv ⊢
    rw [order?_eq] at hvw
    cases sv : v.shape with
    | table | parts => rw [sv] at huv; cases huv
    | atom b =>
      rw [sv] at huv hvw
      cases sw : w.shape with
      | table | parts => rw [sw] at hvw; cases hvw
      | atom c =>
        rw [sw] at hvw
        exact Atom.order?_lt_trans huv hvw
  | table u es su => rw [order?_eq, su] at huv; cases huv
  | parts u kind us su ih =>
    obtain ⟨vs, sv, huv⟩ := order?_of_parts su huv
    obtain ⟨ws, sw, hvw⟩ := order?_of_parts sv hvw
    rw [keysDiffer_parts su] at hu
    rw [keysDiffer_parts sv] at hv
    rw [keysDiffer_parts sw] at hw
    rw [order?_eq, su, sw, Shape.order?, if_pos rfl]
    rcases orderParts?_eq_some huv with ⟨row, uv⟩ | ⟨rfl, u, v, rfl, rfl, uv⟩
    · rw [orderParts?_of_row row] at hvw ⊢
      exact orderAll?_lt_trans hu hv hw ih uv hvw
    · rcases orderParts?_eq_some hvw with ⟨row, -⟩ | ⟨-, v', w, hvs, rfl, vw⟩
      · cases row
      · cases hvs
        simp only [keysDifferAll, Bool.and_true] at hu hv hw
        exact ih u List.mem_cons_self hu hv hw uv vw

end Whereabouts.Value
