import Whereabouts.Value.Equality

/-!
# Order of values

Numbers, texts, byte strings and spans are ordered among themselves. Two lists, or two tuples, are
ordered by their first unequal items, and by length if there are none; a location is ordered as
the pair of its file and its span, a located value as the pair of its payload and its location.
No other two values are ordered.

A `Verdict` is what a comparison finds before a relation is asked for. Two wrapped values only
know `<`: `v > w` asks whether `w < v`, and `≤` and `≥` have no answer.
-/
namespace Whereabouts

/-- The relations that can be asked between two values. -/
inductive Relation where
  | lt
  | le
  | gt
  | ge
deriving DecidableEq, Repr

namespace Relation

def symbol : Relation → String
  | lt => "<"
  | le => "<="
  | gt => ">"
  | ge => ">="

/-- Whether the relation holds for values that compare this way. -/
def holds : Relation → Ordering → Bool
  | lt, o => o == .lt
  | le, o => o != .gt
  | gt, o => o == .gt
  | ge, o => o != .lt

end Relation

/-- Two values that are not ordered, by their kinds, and the relation that was asked. -/
structure Unordered where
  relation : Relation
  left : Kind
  right : Kind
deriving DecidableEq, Repr

/-- What decides the comparison of two values. -/
inductive Decision where
  | ordered (o : Ordering)
  | unordered (left right : Kind)
deriving DecidableEq, Repr

/-- The outcome of a comparison: what decides it, and whether the deciding values are the
payloads of wrappers. -/
structure Verdict where
  decision : Decision
  wrapped : Bool := false
deriving DecidableEq, Repr

namespace Verdict

def ordered (o : Ordering) : Verdict := { decision := .ordered o }

/-- The answer to a relation. -/
def answer (v : Verdict) (relation : Relation) : Except Unordered Bool :=
  match v.decision, v.wrapped, relation with
  | .ordered o, false, r => .ok (r.holds o)
  | .unordered left right, false, r => .error ⟨r, left, right⟩
  | .ordered o, true, .lt => .ok (o == .lt)
  | .ordered o, true, .gt => .ok (o == .gt)
  | .unordered left right, true, .lt => .error ⟨.lt, left, right⟩
  | .unordered left right, true, .gt => .error ⟨.lt, right, left⟩
  | _, true, r => .error ⟨r, .stripped, .stripped⟩

end Verdict

/-- The order of two atoms, if they have one. -/
def Atom.order? : Atom → Atom → Option Ordering
  | number p, number q => some (compareOfLessAndEq p q)
  | text s, text t => some (compareOfLessAndEq s t)
  | bytes b, bytes c => some (compareOfLessAndEq b c)
  | span s, span t => some (compare s t)
  | _, _ => none

namespace Value

mutual

/-- What the comparison of two settled values finds. -/
def verdict : Value → Value → Verdict
  | list vs, list ws => verdictAll vs ws
  | tuple vs, tuple ws => verdictAll vs ws
  | location file s, location file' s' =>
    if file.same file' then .ordered (compare s s') else file.verdict file'
  | located value file s, located value' file' s' =>
    if value.same value' then
      if file.same file' then .ordered (compare s s') else file.verdict file'
    else value.verdict value'
  | stripped value, stripped value' => { value.verdict value' with wrapped := true }
  | v, w =>
    match v.atom?, w.atom? with
    | some a, some b =>
      match a.order? b with
      | some o => .ordered o
      | none => { decision := .unordered v.kind w.kind }
    | _, _ => { decision := .unordered v.kind w.kind }

def verdictAll : List Value → List Value → Verdict
  | [], [] => .ordered .eq
  | [], _ :: _ => .ordered .lt
  | _ :: _, [] => .ordered .gt
  | v :: vs, w :: ws => if v.same w then verdictAll vs ws else v.verdict w

end

/-- The answer to a relation between two values. -/
def relate (relation : Relation) (v w : Value) : Except Unordered Bool :=
  (v.settled.verdict w.settled).answer relation

/-- Whether the two values can be compared with `<`. -/
def comparable (v w : Value) : Bool := (v.relate .lt w).isOk

end Value
end Whereabouts
