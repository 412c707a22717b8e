import Whereabouts.Value.Order

namespace Whereabouts

section Linear

variable {α : Type} [LT α] [LE α] [DecidableLT α] [DecidableEq α]
  [Std.IsLinearOrder α] [Std.LawfulOrderLT α] {x y z : α}

theorem compareOfLessAndEq_eq_iff [DecidableLE α] : compareOfLessAndEq x y = .eq ↔ x = y :=
  compareOfLessAndEq_eq_eq Std.le_refl Std.not_le

theorem compareOfLessAndEq_swap : compareOfLessAndEq y x = (compareOfLessAndEq x y).swap :=
  compareOfLessAndEq_eq_swap Std.le_antisymm (fun _ _ => Std.le_total) Std.not_le

theorem compareOfLessAndEq_lt_trans (hxy : compareOfLessAndEq x y = .lt)
    (hyz : compareOfLessAndEq y z = .lt) : compareOfLessAndEq x z = .lt := by
  rw [compareOfLessAndEq_eq_lt] at hxy hyz ⊢
  exact Std.lt_trans hxy hyz

end Linear

namespace Span

variable {s t u : Span}

theorem compare_def (s t : Span) :
    compare s t = (compareOfLessAndEq s.start t.start).then (compareOfLessAndEq s.stop t.stop) :=
  rfl

theorem compare_eq_iff : compare s t = .eq ↔ s = t := by
  obtain ⟨start, stop⟩ := s
  obtain ⟨start', stop'⟩ := t
  rw [compare_def, Ordering.then_eq_eq, compareOfLessAndEq_eq_iff, compareOfLessAndEq_eq_iff,
    Span.mk.injEq]

theorem compare_swap : compare t s = (compare s t).swap := by
  rw [compare_def, compare_def, Ordering.swap_then, ← compareOfLessAndEq_swap,
    ← compareOfLessAndEq_swap]

theorem compare_lt_iff :
    compare s t = .lt ↔ s.start < t.start ∨ s.start = t.start ∧ s.stop < t.stop := by
  rw [compare_def, Ordering.then_eq_lt, compareOfLessAndEq_eq_lt, compareOfLessAndEq_eq_iff,
    compareOfLessAndEq_eq_lt]

theorem compare_lt_trans (hst : compare s t = .lt) (htu : compare t u = .lt) :
    compare s u = .lt := by
  rw [compare_lt_iff] at *
  omega

end Span

namespace Atom

variable {a b c : Atom}

theorem eq_of_order? (h : a.order? b = some .eq) : a = b := by
  cases a <;> cases b
  case number.number p q => rw [compareOfLessAndEq_eq_iff.mp (Option.some.inj h)]
  case text.text s t => rw [compareOfLessAndEq_eq_iff.mp (Option.some.inj h)]
  case bytes.bytes b c => rw [compareOfLessAndEq_eq_iff.mp (Option.some.inj h)]
  case span.span s t => rw [Span.compare_eq_iff.mp (Option.some.inj h)]
  all_goals cases h

theorem order?_swap (a b : Atom) : b.order? a = (a.order? b).map Ordering.swap := by
  cases a <;> cases b
  case number.number p q => exact congrArg some compareOfLessAndEq_swap
  case text.text s t => exact congrArg some compareOfLessAndEq_swap
  case bytes.bytes b c => exact congrArg some compareOfLessAndEq_swap
  case span.span s t => exact congrArg some Span.compare_swap
  all_goals rfl

/-- Only atoms of one sort are ordered, so all three are of one sort. -/
theorem order?_lt_trans (hab : a.order? b = some .lt) (hbc : b.order? c = some .lt) :
    a.order? c = some .lt := by
  cases a <;> cases b <;> try cases hab
  all_goals cases c <;> try cases hbc
  case number.number.number =>
    exact congrArg some (compareOfLessAndEq_lt_trans (Option.some.inj hab) (Option.some.inj hbc))
  case text.text.text =>
    exact congrArg some (compareOfLessAndEq_lt_trans (Option.some.inj hab) (Option.some.inj hbc))
  case bytes.bytes.bytes =>
    exact congrArg some (compareOfLessAndEq_lt_trans (Option.some.inj hab) (Option.some.inj hbc))
  case span.span.span =>
    exact congrArg some (Span.compare_lt_trans (Option.some.inj hab) (Option.some.inj hbc))

theorem eq_of_order?_self {o : Ordering} (h : a.order? a = some o) : o = .eq := by
  have turned := order?_swap a a
  rw [h, Option.map_some, Option.some.injEq] at turned
  exact Ordering.eq_eq_of_eq_swap turned

end Atom
end Whereabouts
