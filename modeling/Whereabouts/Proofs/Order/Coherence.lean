import Whereabouts.Proofs.Order.Laws

namespace Whereabouts

namespace Verdict

theorem toOption_answer_lt (v : Verdict) :
    (v.answer .lt).toOption = v.order?.map (· == .lt) := by
  obtain ⟨_ | _, _ | _⟩ := v <;> rfl

theorem toOption_answer_gt (v : Verdict) :
    (v.answer .gt).toOption = v.order?.map (· == .gt) := by
  obtain ⟨_ | _, _ | _⟩ := v <;> rfl

/-- Wrapped values know neither `≤` nor `≥`. -/
theorem toOption_answer_le (v : Verdict) :
    (v.answer .le).toOption = if v.wrapped then none else v.order?.map (· != .gt) := by
  obtain ⟨_ | _, _ | _⟩ := v <;> rfl

theorem toOption_answer_ge (v : Verdict) :
    (v.answer .ge).toOption = if v.wrapped then none else v.order?.map (· != .lt) := by
  obtain ⟨_ | _, _ | _⟩ := v <;> rfl

end Verdict

theorem Except.toOption_eq_some_iff {ε α : Type} {x : Except ε α} {a : α} :
    x.toOption = some a ↔ x = .ok a := by
  cases x <;> simp [Except.toOption]

theorem Except.isOk_eq_isSome {ε α : Type} (x : Except ε α) : x.isOk = x.toOption.isSome := by
  cases x <;> rfl

namespace Value

/-- What ties the answers of comparisons between three values together. -/
structure Coherent (a b c : Value) : Prop where
  /-- `<` has an answer in both directions or in none, and then `>` has one too. -/
  answers : (a.relate .lt b).isOk = (b.relate .lt a).isOk ∧
    (a.relate .lt b).isOk = (a.relate .gt b).isOk
  /-- Where there is an answer, exactly one of `a < b`, `a == b` and `a > b` holds, and `a > b` is
  `b < a`. -/
  trichotomy : (a.relate .lt b).isOk = true → ∃ lt gt, a.relate .lt b = .ok lt ∧
    a.relate .gt b = .ok gt ∧ b.relate .lt a = .ok gt ∧ [lt, a == b, gt].count true = 1
  le : ∀ r, a.relate .le b = .ok r → ∃ lt, a.relate .lt b = .ok lt ∧ r = (lt || a == b)
  ge : ∀ r, a.relate .ge b = .ok r → (a.relate .lt b).isOk = true ∧
    ∃ gt, a.relate .gt b = .ok gt ∧ r = (gt || a == b)
  trans : a.relate .lt b = .ok true → b.relate .lt c = .ok true → a.relate .lt c = .ok true
  /-- Equal values have the same answers, or none, on either side of `<`. -/
  congr : (a == b) = true → (a.relate .lt c).toOption = (b.relate .lt c).toOption ∧
    (c.relate .lt a).toOption = (c.relate .lt b).toOption

variable {a b c : Value}

theorem toOption_lt (a b : Value) :
    (a.relate .lt b).toOption = (a.settled.order? b.settled).map (· == .lt) :=
  Verdict.toOption_answer_lt _

theorem toOption_gt (a b : Value) :
    (a.relate .gt b).toOption = (a.settled.order? b.settled).map (· == .gt) :=
  Verdict.toOption_answer_gt _

theorem order?_of_le {r : Bool} (h : a.relate .le b = .ok r) :
    (a.settled.order? b.settled).map (· != .gt) = some r := by
  rw [← Except.toOption_eq_some_iff, relate, Verdict.toOption_answer_le] at h
  split at h
  · cases h
  · exact h

theorem order?_of_ge {r : Bool} (h : a.relate .ge b = .ok r) :
    (a.settled.order? b.settled).map (· != .lt) = some r := by
  rw [← Except.toOption_eq_some_iff, relate, Verdict.toOption_answer_ge] at h
  split at h
  · cases h
  · exact h

/-- Where two values are ordered, the order tells whether they are equal. -/
theorem beq_of_order? {o : Ordering} (h : a.settled.order? b.settled = some o) :
    (a == b) = (o == .eq) := by
  rw [Bool.eq_iff_iff, beq_iff_eq (α := Ordering)]
  constructor
  · intro equal
    exact order?_of_same equal h
  · rintro rfl
    exact same_of_order? h

theorem relate_lt_of_order? {o : Ordering} (h : a.settled.order? b.settled = some o) :
    a.relate .lt b = .ok (o == .lt) := by
  rw [← Except.toOption_eq_some_iff, toOption_lt, h]
  rfl

theorem relate_gt_of_order? {o : Ordering} (h : a.settled.order? b.settled = some o) :
    a.relate .gt b = .ok (o == .gt) := by
  rw [← Except.toOption_eq_some_iff, toOption_gt, h]
  rfl

theorem isOk_lt (a b : Value) :
    (a.relate .lt b).isOk = (a.settled.order? b.settled).isSome := by
  rw [Except.isOk_eq_isSome, toOption_lt, Option.isSome_map]

theorem relate_lt_iff : a.relate .lt b = .ok true ↔ a.settled.order? b.settled = some .lt := by
  rw [← Except.toOption_eq_some_iff, toOption_lt]
  simp only [Option.map_eq_some_iff, beq_iff_eq, exists_eq_right]

/-- **The comparisons are coherent.** -/
theorem coherent (ha : a.wellKeyed = true) (hb : b.wellKeyed = true) (hc : c.wellKeyed = true) :
    Coherent a b c := by
  have ka := keysDiffer_settled a ha
  have kb := keysDiffer_settled b hb
  have kc := keysDiffer_settled c hc
  have turned := order?_swap ka kb
  constructor
  case answers =>
    refine ⟨?_, ?_⟩
    · rw [isOk_lt, isOk_lt, turned, Option.isSome_map]
    · rw [isOk_lt, Except.isOk_eq_isSome, toOption_gt, Option.isSome_map]
  case trichotomy =>
    intro found
    rw [isOk_lt, Option.isSome_iff_exists] at found
    obtain ⟨o, found⟩ := found
    rw [found, Option.map_some] at turned
    refine ⟨o == .lt, o == .gt, relate_lt_of_order? found, relate_gt_of_order? found, ?_, ?_⟩
    · rw [relate_lt_of_order? turned]
      cases o <;> rfl
    · rw [beq_of_order? found]
      cases o <;> rfl
  case le =>
    intro r h
    obtain ⟨o, found, rfl⟩ := Option.map_eq_some_iff.1 (order?_of_le h)
    refine ⟨o == .lt, relate_lt_of_order? found, ?_⟩
    rw [beq_of_order? found]
    cases o <;> rfl
  case ge =>
    intro r h
    obtain ⟨o, found, rfl⟩ := Option.map_eq_some_iff.1 (order?_of_ge h)
    refine ⟨by rw [isOk_lt, found]; rfl, o == .gt, relate_gt_of_order? found, ?_⟩
    rw [beq_of_order? found]
    cases o <;> rfl
  case trans =>
    intro hab hbc
    rw [relate_lt_iff] at hab hbc ⊢
    exact order?_lt_trans ka kb kc hab hbc
  case congr =>
    intro h
    simp only [toOption_lt, order?_congr ka h, order?_congr_right kc ka kb h, and_self]

/-- Lists that are decided by different members: the first two by a text and a style behind equal
wrapped values, the last two by the wrapped values. -/
theorem coherent_lists :
    let a := list [stripped (located (int 1) (text "f") ⟨0, 1⟩), text "primary"]
    let b := list [stripped (bool true), style .secondary]
    let c := list [stripped (int 2)]
    (a.wellKeyed = true ∧ b.wellKeyed = true ∧ c.wellKeyed = true) ∧
      a.relate .lt b = .ok true ∧ b.relate .lt c = .ok true ∧ a.relate .lt c = .ok true := by
  intro a b c
  have hab : a.relate .lt b = .ok true := relate_lt_iff.2 (by decide)
  have hbc : b.relate .lt c = .ok true := relate_lt_iff.2 (by decide)
  have laws : Coherent a b c := coherent (by decide) (by decide) (by decide)
  exact ⟨⟨by decide, by decide, by decide⟩, hab, hbc, laws.trans hab hbc⟩

end Value
end Whereabouts
