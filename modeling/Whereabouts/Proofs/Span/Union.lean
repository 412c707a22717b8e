import Whereabouts.Span.Basic

namespace Whereabouts.Span

variable {a b c : Span} {x : Int}

theorem eq_of_bounds (start : a.start = b.start) (stop : a.stop = b.stop) : a = b := by
  cases a; cases b; cases start; cases stop; rfl

theorem contains_iff : a.contains x = true ↔ x ∈ a := decide_eq_true_iff

theorem covers_iff : a.covers b = true ↔ a.start ≤ b.start ∧ b.stop ≤ a.stop := decide_eq_true_iff

theorem isEmpty_eq_false_iff : a.isEmpty = false ↔ a.start < a.stop := by
  rw [isEmpty, decide_eq_false_iff_not, Int.not_le]

theorem covers_refl (a : Span) : a.covers a = true :=
  covers_iff.2 ⟨Int.le_refl _, Int.le_refl _⟩

theorem covers_trans (hab : a.covers b = true) (hbc : b.covers c = true) : a.covers c = true := by
  rw [covers_iff] at *
  exact ⟨Int.le_trans hab.1 hbc.1, Int.le_trans hbc.2 hab.2⟩

theorem covers_antisymm (hab : a.covers b = true) (hba : b.covers a = true) : a = b := by
  rw [covers_iff] at hab hba
  exact eq_of_bounds (Int.le_antisymm hab.1 hba.1) (Int.le_antisymm hba.2 hab.2)

theorem union_comm (a b : Span) : a.union b = b.union a := by
  rw [union, union, Int.min_comm, Int.max_comm]

theorem union_assoc (a b c : Span) : (a.union b).union c = a.union (b.union c) := by
  simp only [union, Int.min_assoc, Int.max_assoc]

theorem union_self (a : Span) : a.union a = a := by
  simp only [union, Int.min_self, Int.max_self]

/-- The union is the least span that covers both. -/
theorem covers_union_iff :
    c.covers (a.union b) = true ↔ c.covers a = true ∧ c.covers b = true := by
  simp only [covers_iff, union, Int.le_min, Int.max_le]
  constructor
  · rintro ⟨⟨ha, hb⟩, ha', hb'⟩; exact ⟨⟨ha, ha'⟩, hb, hb'⟩
  · rintro ⟨⟨ha, ha'⟩, hb, hb'⟩; exact ⟨⟨ha, hb⟩, ha', hb'⟩

theorem union_covers (a b : Span) :
    (a.union b).covers a = true ∧ (a.union b).covers b = true :=
  covers_union_iff.1 (covers_refl _)

theorem covers_iff_union_eq : a.covers b = true ↔ a.union b = a := by
  constructor
  · intro h
    exact covers_antisymm (union_covers a b).1 (covers_union_iff.2 ⟨covers_refl a, h⟩)
  · intro h
    have covered := (union_covers a b).2
    rwa [h] at covered

theorem mem_of_covers (h : a.covers b = true) (hx : x ∈ b) : x ∈ a := by
  rw [covers_iff] at h
  rw [mem_iff] at hx ⊢
  omega

theorem mem_union (h : x ∈ a ∨ x ∈ b) : x ∈ a.union b := by
  rcases h with ha | hb
  · exact mem_of_covers (union_covers a b).1 ha
  · exact mem_of_covers (union_covers a b).2 hb

theorem start_mem (h : a.isEmpty = false) : a.start ∈ a :=
  ⟨Int.le_refl _, isEmpty_eq_false_iff.1 h⟩

theorem last_mem (h : a.isEmpty = false) : a.stop - 1 ∈ a := by
  rw [isEmpty_eq_false_iff] at h
  rw [mem_iff]
  omega

/-- A span that is not empty is covered as soon as its first and its last offset are held. -/
theorem covers_iff_forall_mem (hb : b.isEmpty = false) :
    a.covers b = true ↔ ∀ x, x ∈ b → x ∈ a := by
  constructor
  · intro h x hx
    exact mem_of_covers h hx
  · intro h
    have first := (mem_iff.1 (h _ (start_mem hb))).1
    have last := (mem_iff.1 (h _ (last_mem hb))).2
    exact covers_iff.2 ⟨first, by omega⟩

/-- What holds the offsets of two spans holds those between them as well. -/
theorem mem_of_mem_union (ha : a.isEmpty = false) (hb : b.isEmpty = false)
    (h : ∀ x, x ∈ a ∨ x ∈ b → x ∈ c) : ∀ x, x ∈ a.union b → x ∈ c := by
  have coversA := (covers_iff_forall_mem ha).2 fun x hx => h x (.inl hx)
  have coversB := (covers_iff_forall_mem hb).2 fun x hx => h x (.inr hx)
  intro x hx
  exact mem_of_covers (covers_union_iff.2 ⟨coversA, coversB⟩) hx

/-- **Covering is a partial order with union as its join, and agrees with offsets.** Only where
offsets are to decide about bounds must a span hold some. -/
theorem covers_union_laws (a b c : Span) :
    (a.covers a = true ∧
      (a.covers b = true → b.covers c = true → a.covers c = true) ∧
      (a.covers b = true → b.covers a = true → a = b)) ∧
    (a.union b = b.union a ∧ (a.union b).union c = a.union (b.union c) ∧ a.union a = a) ∧
    (c.covers (a.union b) = true ↔ c.covers a = true ∧ c.covers b = true) ∧
    (a.covers b = true ↔ a.union b = a) ∧
    (∀ x, a.contains x = true ∨ b.contains x = true → (a.union b).contains x = true) ∧
    (b.isEmpty = false →
      (a.covers b = true ↔ ∀ x, b.contains x = true → a.contains x = true)) ∧
    (a.isEmpty = false → b.isEmpty = false →
      (∀ x, a.contains x = true ∨ b.contains x = true → c.contains x = true) →
      ∀ x, (a.union b).contains x = true → c.contains x = true) := by
  simp only [contains_iff]
  exact ⟨⟨covers_refl a, covers_trans, covers_antisymm⟩,
    ⟨union_comm a b, union_assoc a b c, union_self a⟩, covers_union_iff, covers_iff_union_eq,
    fun _ => mem_union, covers_iff_forall_mem, mem_of_mem_union⟩

/-- Two spans with a gap between them, which a third one holds since it holds both. An inverted
span is covered by its position. -/
theorem covers_union_laws_gap :
    let a : Span := ⟨-4, -2⟩
    let b : Span := ⟨3, 5⟩
    let c : Span := ⟨-4, 6⟩
    (a.isEmpty = false ∧ b.isEmpty = false) ∧
      (c.covers a = true ∧ c.covers b = true ∧ c.covers ⟨6, -9⟩ = true) ∧
      ((∀ x, b.contains x = true → c.contains x = true) ∧
        ∀ x, (a.union b).contains x = true → c.contains x = true) := by
  intro a b c
  have ha : a.isEmpty = false := by decide
  have hb : b.isEmpty = false := by decide
  have coversA : c.covers a = true := by decide
  have coversB : c.covers b = true := by decide
  have inA := ((covers_union_laws c a a).2.2.2.2.2.1 ha).1 coversA
  have inB := ((covers_union_laws c b b).2.2.2.2.2.1 hb).1 coversB
  have both := (covers_union_laws a b c).2.2.2.2.2.2 ha hb fun x hx => hx.elim (inA x) (inB x)
  exact ⟨⟨ha, hb⟩, ⟨coversA, coversB, by decide⟩, inB, both⟩

end Whereabouts.Span
