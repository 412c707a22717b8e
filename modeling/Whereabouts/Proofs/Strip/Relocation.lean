import Whereabouts.Value.Stripped

/-!
# What strip leaves out of account

`Relocated` is the least equivalence that identifies a located value with its payload and is kept
by lists, tuples, the values of a table, results and located values. Nothing else is compared
through: a location, a label, a wrapped value and the keys of a table stand for themselves.

`strip_eq_strip_iff`: two values have the same stripped form exactly when they are related so.
-/
namespace Whereabouts.Value

mutual

/-- Two values that differ only in the locations that `strip` reaches, and in whether they are
there. -/
inductive Relocated : Value → Value → Prop where
  | refl (v : Value) : Relocated v v
  | symm {v w : Value} : Relocated v w → Relocated w v
  | trans {u v w : Value} : Relocated u v → Relocated v w → Relocated u w
  | drop (value file : Value) (s : Span) : Relocated (.located value file s) value
  | list {vs ws : List Value} : RelocatedAll vs ws → Relocated (.list vs) (.list ws)
  | tuple {vs ws : List Value} : RelocatedAll vs ws → Relocated (.tuple vs) (.tuple ws)
  | table {es gs : List (Value × Value)} :
      RelocatedEntries es gs → Relocated (.table es) (.table gs)
  | ok {v w : Value} : Relocated v w → Relocated (.ok v) (.ok w)
  | err {v w : Value} : Relocated v w → Relocated (.err v) (.err w)
  | located {v w : Value} (file : Value) (s : Span) :
      Relocated v w → Relocated (.located v file s) (.located w file s)

/-- Two lists of equal length whose members are related in pairs. -/
inductive RelocatedAll : List Value → List Value → Prop where
  | nil : RelocatedAll [] []
  | cons {v w : Value} {vs ws : List Value} :
      Relocated v w → RelocatedAll vs ws → RelocatedAll (v :: vs) (w :: ws)

/-- Two lists of entries with the same keys in the same order, and related values. -/
inductive RelocatedEntries : List (Value × Value) → List (Value × Value) → Prop where
  | nil : RelocatedEntries [] []
  | cons (k : Value) {v w : Value} {es gs : List (Value × Value)} :
      Relocated v w → RelocatedEntries es gs → RelocatedEntries ((k, v) :: es) ((k, w) :: gs)

end

mutual

/-- No derivation relates two values that `strip` tells apart. -/
theorem Relocated.strip_eq {a b : Value} : Relocated a b → a.strip = b.strip
  | .refl _ => rfl
  | .symm h => h.strip_eq.symm
  | .trans h h' => h.strip_eq.trans h'.strip_eq
  | .drop _ _ _ => by rw [strip]
  | .list h => by rw [strip, strip, h.stripAll_eq]
  | .tuple h => by rw [strip, strip, h.stripAll_eq]
  | .table h => by rw [strip, strip, h.stripEntries_eq]
  | .ok h => by rw [strip, strip, h.strip_eq]
  | .err h => by rw [strip, strip, h.strip_eq]
  | .located _ _ h => by rw [strip, strip, h.strip_eq]

theorem RelocatedAll.stripAll_eq {vs ws : List Value} :
    RelocatedAll vs ws → stripAll vs = stripAll ws
  | .nil => rfl
  | .cons h hs => by rw [stripAll, stripAll, h.strip_eq, hs.stripAll_eq]

theorem RelocatedEntries.stripEntries_eq {es gs : List (Value × Value)} :
    RelocatedEntries es gs → stripEntries es = stripEntries gs
  | .nil => rfl
  | .cons _ h hs => by rw [stripEntries, stripEntries, h.strip_eq, hs.stripEntries_eq]

end

mutual

/-- Every value is related to its own stripped form: each located value on the way is dropped
after its payload has been stripped. -/
theorem relocated_strip : ∀ v : Value, Relocated v v.strip
  | .located value file s => by
    rw [strip]
    exact (Relocated.drop value file s).trans (relocated_strip value)
  | .list items => by rw [strip]; exact .list (relocatedAll_stripAll items)
  | .tuple items => by rw [strip]; exact .tuple (relocatedAll_stripAll items)
  | .table entries => by rw [strip]; exact .table (relocatedEntries_stripEntries entries)
  | .ok value => by rw [strip]; exact .ok (relocated_strip value)
  | .err error => by rw [strip]; exact .err (relocated_strip error)
  | .absent | .bool _ | .int _ | .float _ | .text _ | .bytes _ | .range _ | .span _
  | .location .. | .stripped _ | .style _ | .label .. => by simp only [strip]; exact .refl _

theorem relocatedAll_stripAll : ∀ items : List Value, RelocatedAll items (stripAll items)
  | [] => by rw [stripAll]; exact .nil
  | v :: vs => by rw [stripAll]; exact .cons (relocated_strip v) (relocatedAll_stripAll vs)

theorem relocatedEntries_stripEntries : ∀ entries : List (Value × Value),
    RelocatedEntries entries (stripEntries entries)
  | [] => by rw [stripEntries]; exact .nil
  | (k, v) :: entries => by
    rw [stripEntries]
    exact .cons k (relocated_strip v) (relocatedEntries_stripEntries entries)

end

/-- **What strip forgets.** Exactly the locations it reaches, and whether they were there. -/
theorem strip_eq_strip_iff {a b : Value} : a.strip = b.strip ↔ Relocated a b := by
  constructor
  · intro h
    have hb : Relocated a b.strip := h ▸ relocated_strip a
    exact hb.trans (relocated_strip b).symm
  · exact Relocated.strip_eq

end Whereabouts.Value
