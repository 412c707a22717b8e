import Whereabouts.Proofs.Equality.Keys

namespace Whereabouts.Value

theorem sameAll_refl {items : List Value} (refl : ∀ v ∈ items, v.same v = true) :
    sameAll items items = true := by
  induction items with
  | nil => rw [sameAll]
  | cons v vs ih =>
    obtain ⟨hv, hvs⟩ := List.forall_mem_cons.1 refl
    rw [sameAll, hv, ih hvs]
    rfl

theorem same_refl (v : Value) : v.same v = true := by
  induction v using shapeInduction with
  | atom v a hv => rw [same_iff, hv]; exact rfl
  | table v es hv ih => rw [same_iff, hv]; exact ⟨rfl, fun e he => ⟨e, he, ih e he⟩⟩
  | parts v kind items hv ih => rw [same_iff, hv]; exact ⟨rfl, sameAll_refl ih⟩

/-- Lists of equal items, given transitivity for the items of the first. -/
theorem sameAll_trans {us vs ws : List Value}
    (trans : ∀ u ∈ us, ∀ {v w : Value}, u.same v = true → v.same w = true → u.same w = true)
    (huv : sameAll us vs = true) (hvw : sameAll vs ws = true) : sameAll us ws = true := by
  induction us generalizing vs ws with
  | nil =>
    obtain rfl := sameAll_nil_iff.1 huv
    exact hvw
  | cons u us ih =>
    obtain ⟨v, vs, rfl, huv, hrest⟩ := sameAll_cons_iff.1 huv
    obtain ⟨w, ws, rfl, hvw, hrest'⟩ := sameAll_cons_iff.1 hvw
    obtain ⟨hu, hus⟩ := List.forall_mem_cons.1 trans
    exact sameAll_cons_iff.2 ⟨w, ws, rfl, hu huv hvw, ih hus hrest hrest'⟩

theorem AlikeEntries.trans {es gs hs : List (Value × Value)}
    (trans : ∀ e ∈ es,
      (∀ {v w : Value}, e.1.same v = true → v.same w = true → e.1.same w = true) ∧
      (∀ {v w : Value}, e.2.same v = true → v.same w = true → e.2.same w = true))
    (hg : AlikeEntries es gs) (hh : AlikeEntries gs hs) : AlikeEntries es hs := by
  refine ⟨hg.1.trans hh.1, fun e he => ?_⟩
  obtain ⟨g, gmem, hk, hv⟩ := hg.2 e he
  obtain ⟨h, hmem, hk', hv'⟩ := hh.2 g gmem
  exact ⟨h, hmem, (trans e he).1 hk hk', (trans e he).2 hv hv'⟩

theorem same_trans {u v w : Value} (huv : u.same v = true) (hvw : v.same w = true) :
    u.same w = true := by
  induction u using shapeInduction generalizing v w with
  | atom u a hu =>
    rw [same_iff, hu, Shape.atom_alike_iff] at huv
    rw [same_iff, huv] at hvw
    rwa [same_iff, hu]
  | table u es hu ih =>
    rw [same_iff, hu, Shape.table_alike_iff] at huv
    obtain ⟨gs, hv, hg⟩ := huv
    rw [same_iff, hv, Shape.table_alike_iff] at hvw
    obtain ⟨hs, hw, hh⟩ := hvw
    rw [same_iff, hu, hw]
    exact hg.trans ih hh
  | parts u kind us hu ih =>
    rw [same_iff, hu, Shape.parts_alike_iff] at huv
    obtain ⟨vs, hv, hs⟩ := huv
    rw [same_iff, hv, Shape.parts_alike_iff] at hvw
    obtain ⟨ws, hw, hs'⟩ := hvw
    rw [same_iff, hu, hw]
    exact ⟨rfl, sameAll_trans ih hs hs'⟩

/-- If no two members of the first list have the same partner in the second, and the lists have one
length, then the second has no member without a partner. Taking out the partner of one member leaves
every other member its own. -/
theorem exists_partner {α β : Type} {r : α → β → Prop} {as : List α} {bs : List β}
    (length : as.length = bs.length) (apart : as.Pairwise fun a a' => ∀ b, r a b → ¬r a' b)
    (found : ∀ a ∈ as, ∃ b ∈ bs, r a b) : ∀ b ∈ bs, ∃ a ∈ as, r a b := by
  induction as generalizing bs with
  | nil =>
    obtain rfl := List.length_eq_zero_iff.1 length.symm
    simp
  | cons a as ih =>
    obtain ⟨⟨b, hb, hab⟩, found'⟩ := List.forall_mem_cons.1 found
    obtain ⟨hne, apart'⟩ := List.pairwise_cons.1 apart
    obtain ⟨before, behind, rfl⟩ := List.append_of_mem hb
    have rest : ∀ a' ∈ as, ∃ b' ∈ before ++ behind, r a' b' := by
      intro a' ha'
      obtain ⟨b', hb', hr⟩ := found' a' ha'
      have : b' ≠ b := by rintro rfl; exact hne a' ha' b' hab hr
      exact ⟨b', by simpa [this] using hb', hr⟩
    have partners := ih (by simp at length ⊢; omega) apart' rest
    intro c hc
    by_cases hcb : c = b
    · exact ⟨a, List.mem_cons_self, hcb ▸ hab⟩
    · obtain ⟨a', ha', hr⟩ := partners c (by simpa [hcb] using hc)
      exact ⟨a', List.mem_cons_of_mem a ha', hr⟩

theorem sameAll_symm {vs ws : List Value}
    (symm : ∀ v ∈ vs, ∀ {w : Value}, v.same w = true → w.same v = true)
    (h : sameAll vs ws = true) : sameAll ws vs = true := by
  induction vs generalizing ws with
  | nil =>
    obtain rfl := sameAll_nil_iff.1 h
    exact h
  | cons v vs ih =>
    obtain ⟨w, ws, rfl, hw, hrest⟩ := sameAll_cons_iff.1 h
    obtain ⟨hv, hvs⟩ := List.forall_mem_cons.1 symm
    exact sameAll_cons_iff.2 ⟨v, vs, rfl, hv hw, ih hvs hrest⟩

theorem AlikeEntries.symm {es gs : List (Value × Value)}
    (keys : es.Pairwise fun e e' => e.1.same e'.1 = false)
    (symm : ∀ e ∈ es,
      (∀ {w : Value}, e.1.same w = true → w.same e.1 = true) ∧
      (∀ {w : Value}, e.2.same w = true → w.same e.2 = true))
    (h : AlikeEntries es gs) : AlikeEntries gs es := by
  have apart : es.Pairwise fun e e' => ∀ g : Value × Value,
      (e.1.same g.1 = true ∧ e.2.same g.2 = true) →
        ¬(e'.1.same g.1 = true ∧ e'.2.same g.2 = true) := by
    refine keys.imp_of_mem ?_
    intro e e' _ he' hne g hg hg'
    have := same_trans hg.1 ((symm e' he').1 hg'.1)
    rw [hne] at this
    cases this
  refine ⟨h.1.symm, fun g hg => ?_⟩
  obtain ⟨e, he, hk, hv⟩ := exists_partner h.1 apart h.2 g hg
  exact ⟨e, he, (symm e he).1 hk, (symm e he).2 hv⟩

/-- Where the keys of a table differ, every entry of the other table has its like in the first one,
by counting. -/
theorem same_symm {v w : Value} (keys : v.keysDiffer same = true) (h : v.same w = true) :
    w.same v = true := by
  induction v using shapeInduction generalizing w with
  | atom v a hv =>
    rw [same_iff, hv, Shape.atom_alike_iff] at h
    rw [same_iff, hv, h]
    exact rfl
  | table v es hv ih =>
    rw [keysDiffer_table hv, keysDifferEntries_iff] at keys
    rw [same_iff, hv, Shape.table_alike_iff] at h
    obtain ⟨gs, hw, hs⟩ := h
    rw [same_iff, hv, hw]
    refine hs.symm keys.1 fun e he => ?_
    obtain ⟨hk, hv⟩ := keys.2 e he
    exact ⟨(ih e he).1 hk, (ih e he).2 hv⟩
  | parts v kind vs hv ih =>
    rw [keysDiffer_parts hv, keysDifferAll_iff] at keys
    rw [same_iff, hv, Shape.parts_alike_iff] at h
    obtain ⟨ws, hw, hs⟩ := h
    rw [same_iff, hv, hw]
    exact ⟨rfl, sameAll_symm (fun p hp => ih p hp (keys p hp)) hs⟩

theorem beq_refl (v : Value) : (v == v) = true := same_refl v.settled

theorem beq_symm {v w : Value} (keys : v.wellKeyed = true) (h : (v == w) = true) :
    (w == v) = true :=
  same_symm (keysDiffer_settled v keys) h

theorem beq_trans {u v w : Value} (huv : (u == v) = true) (hvw : (v == w) = true) :
    (u == w) = true :=
  same_trans huv hvw

end Whereabouts.Value
