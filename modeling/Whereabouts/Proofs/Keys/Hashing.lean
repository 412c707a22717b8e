import Whereabouts.Proofs.Equality.Equivalence
import Whereabouts.Value.Hashing

namespace Whereabouts.Value

/-- Whether the value is of a kind that is never a key. -/
def barred : Value → Bool
  | list _ => true
  | table _ => true
  | located .. => true
  | _ => false

/-- The parts that are looked at when a value is used as a key. -/
inductive KeyPart : Value → Value → Prop where
  | self (v : Value) : KeyPart v v
  | tuple {items : List Value} {item part : Value} :
      item ∈ items → KeyPart item part → KeyPart (.tuple items) part
  | location {file part : Value} (s : Span) : KeyPart file part → KeyPart (.location file s) part
  | ok {value part : Value} : KeyPart value part → KeyPart (.ok value) part
  | err {error part : Value} : KeyPart error part → KeyPart (.err error) part
  | stripped {value part : Value} : KeyPart value.strip part → KeyPart (.stripped value) part
  | label {file part : Value} (role : Label.Style) (s : Span) (message : String) :
      KeyPart file part → KeyPart (.label role file s message) part

theorem unhashableItem?_eq_none_iff {items : List Value} :
    unhashableItem? items = none ↔ ∀ v ∈ items, v.unhashablePart? = none := by
  induction items with
  | nil => simp [unhashableItem?]
  | cons v vs ih =>
    rw [unhashableItem?, List.forall_mem_cons, ← ih]
    cases v.unhashablePart? <;> simp

theorem unhashable?_tuple_iff {items : List Value} :
    (tuple items).unhashable? = none ↔ ∀ v ∈ items, v.unhashable? = none := by
  rw [unhashable?, settled, unhashablePart?, unhashableItem?_eq_none_iff, settledAll_eq_map,
    List.forall_mem_map]
  rfl

/-- A wrapped value is a key if its stripped payload is. -/
theorem unhashable?_stripped (value : Value) :
    (stripped value).unhashable? = value.strip.unhashable? := by
  rw [unhashable?, settled, unhashablePart?, unhashable?, settled_strip]

theorem unhashable?_of_keyPart {v part : Value} (h : KeyPart v part) (hb : part.barred = true) :
    v.unhashable? ≠ none := by
  induction h with
  | self v => cases v <;> simp [barred, unhashable?, settled, unhashablePart?] at hb ⊢
  | tuple mem _ ih => exact fun none => ih hb (unhashable?_tuple_iff.1 none _ mem)
  | stripped _ ih => rw [unhashable?_stripped]; exact ih hb
  | location | ok | err | label =>
    rename_i ih
    simpa only [unhashable?, settled, unhashablePart?] using ih hb

mutual

theorem sizeOf_strip_le : ∀ v : Value, sizeOf v.strip ≤ sizeOf v
  | located value file s => by
    have := sizeOf_strip_le value
    rw [strip, located.sizeOf_spec]
    omega
  | list items => by
    have := sizeOf_stripAll_le items
    rw [strip, list.sizeOf_spec, list.sizeOf_spec]
    omega
  | tuple items => by
    have := sizeOf_stripAll_le items
    rw [strip, tuple.sizeOf_spec, tuple.sizeOf_spec]
    omega
  | table entries => by
    have := sizeOf_stripEntries_le entries
    rw [strip, table.sizeOf_spec, table.sizeOf_spec]
    omega
  | ok value => by
    have := sizeOf_strip_le value
    rw [strip, ok.sizeOf_spec, ok.sizeOf_spec]
    omega
  | err error => by
    have := sizeOf_strip_le error
    rw [strip, err.sizeOf_spec, err.sizeOf_spec]
    omega
  | absent | bool _ | int _ | float _ | text _ | bytes _ | range _ | span _ | location ..
  | stripped _ | style _ | label .. => by simp only [strip, Nat.le_refl]

theorem sizeOf_stripAll_le : ∀ items : List Value, sizeOf (stripAll items) ≤ sizeOf items
  | [] => by simp only [stripAll, Nat.le_refl]
  | v :: vs => by
    have := sizeOf_strip_le v
    have := sizeOf_stripAll_le vs
    rw [stripAll, List.cons.sizeOf_spec, List.cons.sizeOf_spec]
    omega

theorem sizeOf_stripEntries_le : ∀ entries : List (Value × Value),
    sizeOf (stripEntries entries) ≤ sizeOf entries
  | [] => by simp only [stripEntries, Nat.le_refl]
  | (k, v) :: es => by
    have := sizeOf_strip_le v
    have := sizeOf_stripEntries_le es
    simp only [stripEntries, List.cons.sizeOf_spec, Prod.mk.sizeOf_spec]
    omega

end

/-- Where no part bars it, a value can be a key. The induction is on the size, since the part
below a wrapper is no part of the value itself. -/
theorem unhashable?_eq_none (v : Value) (h : ∀ part, KeyPart v part → part.barred = false) :
    v.unhashable? = none := by
  match v with
  | tuple items =>
    refine unhashable?_tuple_iff.2 fun item mem => ?_
    have := List.sizeOf_lt_of_mem mem
    exact unhashable?_eq_none item fun part hp => h part (.tuple mem hp)
  | stripped value =>
    have := sizeOf_strip_le value
    rw [unhashable?_stripped]
    exact unhashable?_eq_none value.strip fun part hp => h part (.stripped hp)
  | location file s =>
    simpa only [unhashable?, settled, unhashablePart?] using
      unhashable?_eq_none file fun part hp => h part (.location s hp)
  | ok value =>
    simpa only [unhashable?, settled, unhashablePart?] using
      unhashable?_eq_none value fun part hp => h part (.ok hp)
  | err error =>
    simpa only [unhashable?, settled, unhashablePart?] using
      unhashable?_eq_none error fun part hp => h part (.err hp)
  | label role file s message =>
    simpa only [unhashable?, settled, unhashablePart?] using
      unhashable?_eq_none file fun part hp => h part (.label role s message hp)
  | list _ | table _ | located .. => exact absurd (h _ (.self _)) (by simp [barred])
  | absent | bool _ | int _ | float _ | text _ | bytes _ | range _ | span _ | style _ =>
    simp only [unhashable?, settled, unhashablePart?]
termination_by sizeOf v

/-- What keeps a value from being a key is one of its parts. -/
theorem isHashable_eq_false_iff {v : Value} :
    v.isHashable = false ↔ ∃ part, KeyPart v part ∧ part.barred = true := by
  rw [isHashable, Option.isNone_eq_false_iff, Option.isSome_iff_ne_none]
  constructor
  · intro h
    apply Classical.byContradiction
    intro free
    refine h (unhashable?_eq_none v fun part hp => ?_)
    exact Bool.eq_false_iff.2 fun hb => free ⟨part, hp, hb⟩
  · rintro ⟨part, hp, hb⟩
    exact unhashable?_of_keyPart hp hb

theorem unhashableItem?_congr {vs ws : List Value}
    (congr : ∀ v ∈ vs, ∀ {w : Value}, v.same w = true → v.unhashablePart? = w.unhashablePart?)
    (h : sameAll vs ws = true) : unhashableItem? vs = unhashableItem? ws := by
  induction vs generalizing ws with
  | nil =>
    obtain rfl := sameAll_nil_iff.1 h
    rfl
  | cons v vs ih =>
    obtain ⟨w, ws, rfl, hw, hrest⟩ := sameAll_cons_iff.1 h
    obtain ⟨hv, hvs⟩ := List.forall_mem_cons.1 congr
    rw [unhashableItem?, unhashableItem?, hv hw, ih hvs hrest]

/-- The parts decide, except for a list and a located value, which are barred themselves. -/
def unhashableShape? : Shape → Option Kind
  | .atom _ => none
  | .table _ => some .table
  | .parts .list _ => some .list
  | .parts .located _ => some .located
  | .parts _ items => unhashableItem? items

theorem unhashablePart?_eq (v : Value) : v.unhashablePart? = unhashableShape? v.shape := by
  cases v <;> simp only [shape, unhashableShape?, unhashablePart?, unhashableItem?] <;>
    split <;> simp_all

theorem unhashablePart?_congr {v w : Value} (h : v.same w = true) :
    v.unhashablePart? = w.unhashablePart? := by
  induction v using shapeInduction generalizing w with
  | atom v a hv =>
    rw [same_iff, hv, Shape.atom_alike_iff] at h
    rw [unhashablePart?_eq, unhashablePart?_eq, hv, h]
  | table v es hv =>
    rw [same_iff, hv, Shape.table_alike_iff] at h
    obtain ⟨gs, hw, -⟩ := h
    rw [unhashablePart?_eq, unhashablePart?_eq, hv, hw]
    rfl
  | parts v kind vs hv ih =>
    rw [same_iff, hv, Shape.parts_alike_iff] at h
    obtain ⟨ws, hw, hs⟩ := h
    rw [unhashablePart?_eq, unhashablePart?_eq, hv, hw]
    cases kind <;> simp only [unhashableShape?, unhashableItem?_congr ih hs]

theorem unhashable?_congr {v w : Value} (h : (v == w) = true) : v.unhashable? = w.unhashable? :=
  unhashablePart?_congr h

end Whereabouts.Value
