import Whereabouts.Value.Order

namespace Whereabouts.Value

/-- Whether the first value is known to be less than the second. -/
def less (v w : Value) : Bool :=
  match v.relate .lt w with
  | .ok answer => answer
  | .error _ => false

section Keys

variable {α : Type} (key : α → Value)

/-- Puts an item into a list that is sorted by its keys, before the first that is not less. -/
def insertOn (a : α) : List α → List α
  | [] => [a]
  | b :: bs => if (key b).less (key a) then b :: insertOn a bs else a :: b :: bs

/-- The items with their keys in ascending order. Items go in from the last to the first, so that
of equal ones the earlier stays in front. -/
def sortOn (items : List α) : List α := items.foldr (insertOn key) []

theorem insertOn_perm (a : α) (bs : List α) : (insertOn key a bs).Perm (a :: bs) := by
  induction bs with
  | nil => exact List.Perm.refl _
  | cons b bs ih =>
    rw [insertOn]
    split
    · exact (ih.cons b).trans (List.Perm.swap a b bs)
    · exact List.Perm.refl _

theorem sortOn_perm (items : List α) : (sortOn key items).Perm items := by
  induction items with
  | nil => exact List.Perm.refl _
  | cons a as ih => exact (insertOn_perm key a (sortOn key as)).trans (ih.cons a)

end Keys

def insertSorted (v : Value) (values : List Value) : List Value := insertOn id v values

def sorted (values : List Value) : List Value := sortOn id values

/-- Whether each value can be compared with every later one. -/
def allComparable : List Value → Bool
  | [] => true
  | v :: vs => vs.all (v.comparable ·) && allComparable vs

/-- The items sorted by their keys with `<`, if these can be compared. Items with equal keys keep
their order. -/
def sortOn? {α : Type} (key : α → Value) (items : List α) : Option (List α) :=
  if allComparable (items.map key) then some (sortOn key items) else none

theorem insertSorted_cons (v w : Value) (ws : List Value) : insertSorted v (w :: ws) =
    if w.less v then w :: insertSorted v ws else v :: w :: ws := rfl

theorem sorted_perm (values : List Value) : (sorted values).Perm values := sortOn_perm id values

end Whereabouts.Value
