import Whereabouts.Proofs.Equality.Equivalence
import Whereabouts.Proofs.Order.Atom

namespace Whereabouts

namespace Verdict

def order? (v : Verdict) : Option Ordering :=
  match v.decision with
  | .ordered o => some o
  | .unordered .. => none

end Verdict

namespace Value

def order? (v w : Value) : Option Ordering := (v.verdict w).order?

def orderAll? (vs ws : List Value) : Option Ordering := (verdictAll vs ws).order?

theorem orderAll?_nil_nil : orderAll? [] [] = some .eq := by
  rw [orderAll?, verdictAll]
  rfl

theorem orderAll?_nil_cons {w : Value} {ws : List Value} : orderAll? [] (w :: ws) = some .lt := by
  rw [orderAll?, verdictAll]
  rfl

theorem orderAll?_cons_nil {v : Value} {vs : List Value} : orderAll? (v :: vs) [] = some .gt := by
  rw [orderAll?, verdictAll]
  rfl

/-- The first unequal members decide. -/
theorem orderAll?_cons_cons {v w : Value} {vs ws : List Value} :
    orderAll? (v :: vs) (w :: ws) = if v.same w = true then orderAll? vs ws else v.order? w := by
  rw [orderAll?, verdictAll]
  split <;> rfl

/-- The order of two single parts. -/
def orderPayload? : List Value → List Value → Option Ordering
  | [v], [w] => v.order? w
  | _, _ => none

/-- Whether the parts of a value of this kind are compared one after the other. -/
def rowKind : Kind → Bool
  | .list => true
  | .tuple => true
  | .location => true
  | .located => true
  | _ => false

/-- The order of values of one kind by their parts. -/
def orderParts? (kind : Kind) (vs ws : List Value) : Option Ordering :=
  if rowKind kind then orderAll? vs ws
  else if kind = .stripped then orderPayload? vs ws
  else none

theorem orderParts?_of_row {kind : Kind} (row : rowKind kind = true) (vs ws : List Value) :
    orderParts? kind vs ws = orderAll? vs ws := by
  rw [orderParts?, if_pos row]

/-- Parts are ordered in a row, or there is a single part on each side. -/
theorem orderParts?_eq_some {kind : Kind} {vs ws : List Value} {o : Ordering}
    (h : orderParts? kind vs ws = some o) :
    (rowKind kind = true ∧ orderAll? vs ws = some o) ∨
      (kind = .stripped ∧ ∃ v w, vs = [v] ∧ ws = [w] ∧ v.order? w = some o) := by
  unfold orderParts? at h
  split at h
  case isTrue row => exact .inl ⟨row, h⟩
  case isFalse =>
    split at h
    case isFalse => cases h
    case isTrue payload =>
      unfold orderPayload? at h
      split at h
      · exact .inr ⟨payload, _, _, rfl, rfl, h⟩
      · cases h

end Value

def Shape.order? : Shape → Shape → Option Ordering
  | atom a, atom b => a.order? b
  | parts kind vs, parts kind' ws => if kind = kind' then Value.orderParts? kind vs ws else none
  | _, _ => none

namespace Value

/-- A span as a last part: equal ones leave nothing to decide. -/
theorem orderAll?_span (s t : Span) : orderAll? [span s] [span t] = some (compare s t) := by
  rw [orderAll?_cons_cons, orderAll?_nil_nil]
  split
  · rename_i h
    have : s = t := by simpa [same, atom?] using h
    rw [Span.compare_eq_iff.2 this]
  · simp [order?, verdict, atom?, Atom.order?, Verdict.ordered, Verdict.order?]

/-- Read off two shapes, the verdict is the order of atoms, that of the first unequal part, or that
of the payloads of wrapped values. -/
theorem order?_eq (v w : Value) : v.order? w = v.shape.order? w.shape := by
  cases v <;> cases w <;>
    simp [order?, verdict, Verdict.order?, shape, Shape.order?, orderParts?, rowKind,
      orderPayload?, atom?, Verdict.ordered]
  case list.list => rfl
  case tuple.tuple => rfl
  case location.location file _ file' _ =>
    rw [orderAll?_cons_cons, orderAll?_span]
    cases file.same file' <;> rfl
  case located.located value file _ value' file' _ =>
    rw [orderAll?_cons_cons, orderAll?_cons_cons, orderAll?_span]
    cases value.same value' <;> cases file.same file' <;> rfl
  all_goals
    generalize Atom.order? _ _ = found
    cases found <;> rfl

/-- Only values with parts are ordered by parts, and only with their own kind. -/
theorem order?_of_parts {v w : Value} {kind : Kind} {vs : List Value} {o : Ordering}
    (hv : v.shape = .parts kind vs) (h : v.order? w = some o) :
    ∃ ws, w.shape = .parts kind ws ∧ orderParts? kind vs ws = some o := by
  rw [order?_eq, hv] at h
  cases hw : w.shape with
  | parts kind' ws =>
    rw [hw, Shape.order?] at h
    split at h
    · rename_i alike
      exact ⟨ws, by rw [alike], h⟩
    · cases h
  | atom | table => rw [hw] at h; cases h

end Value
end Whereabouts
