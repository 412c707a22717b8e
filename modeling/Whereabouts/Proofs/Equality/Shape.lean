import Whereabouts.Value.Equality

/-!
# The shape of a value

Equality and order see a value as an atom, as a table, or as a kind with parts in a row. `shape` is
that view, `same_iff` reads equality of settled values off two shapes, and `shapeInduction` is the
induction over a value with one case for each shape.
-/
namespace Whereabouts

theorem Label.Style.text_inj {style style' : Style} :
    style.text = style'.text ↔ style = style' := by
  constructor
  · intro h
    have hs := congrArg ofText? h
    simpa only [ofText?_text, Option.some.injEq] using hs
  · rintro rfl; rfl

inductive Shape where
  | atom (a : Atom)
  | table (entries : List (Value × Value))
  | parts (kind : Kind) (items : List Value)

namespace Value

def shape : Value → Shape
  | absent => .atom .absent
  | bool b => .atom (.number (if b then 1 else 0))
  | int n => .atom (.number n)
  | float x => .atom (.number x.value)
  | text s => .atom (.text s)
  | bytes content => .atom (.bytes content)
  | list items => .parts .list items
  | tuple items => .parts .tuple items
  | table entries => .table entries
  | range p => .atom (.sequence p.outline)
  | span s => .atom (.span s)
  | location file s => .parts .location [file, span s]
  | located value file s => .parts .located [value, file, span s]
  | ok value => .parts .ok [value]
  | err error => .parts .err [error]
  | stripped value => .parts .stripped [value]
  | style s => .atom (.text s.text)
  | label role file s message => .parts .label [style role, file, span s, text message]

/-- Two tables of one length, in which every entry of the first has its like in the second. -/
def AlikeEntries (es gs : List (Value × Value)) : Prop :=
  es.length = gs.length ∧ ∀ e ∈ es, ∃ g ∈ gs, e.1.same g.1 = true ∧ e.2.same g.2 = true

end Value

namespace Shape

def Alike : Shape → Shape → Prop
  | atom a, atom b => a = b
  | table es, table gs => Value.AlikeEntries es gs
  | parts kind vs, parts kind' ws => kind = kind' ∧ Value.sameAll vs ws = true
  | _, _ => False

theorem atom_alike_iff {a : Atom} {t : Shape} : (atom a).Alike t ↔ t = atom a := by
  cases t <;> simp [Alike, eq_comm]

theorem table_alike_iff {es : List (Value × Value)} {t : Shape} :
    (table es).Alike t ↔ ∃ gs, t = table gs ∧ Value.AlikeEntries es gs := by
  cases t <;> simp [Alike]

theorem parts_alike_iff {kind : Kind} {vs : List Value} {t : Shape} :
    (parts kind vs).Alike t ↔ ∃ ws, t = parts kind ws ∧ Value.sameAll vs ws = true := by
  cases t with
  | parts kind' ws =>
    constructor
    · rintro ⟨rfl, h⟩; exact ⟨ws, rfl, h⟩
    · rintro ⟨_, h, hs⟩; cases h; exact ⟨rfl, hs⟩
  | _ => simp [Alike]

end Shape

namespace Value

theorem sameAll_nil_iff {ws : List Value} : sameAll [] ws = true ↔ ws = [] := by
  cases ws <;> simp [sameAll]

theorem sameAll_cons_iff {v : Value} {vs ws : List Value} : sameAll (v :: vs) ws = true ↔
    ∃ w ws', ws = w :: ws' ∧ v.same w = true ∧ sameAll vs ws' = true := by
  cases ws with
  | nil => simp [sameAll]
  | cons w ws =>
    rw [sameAll, Bool.and_eq_true]
    constructor
    · rintro ⟨hw, hws⟩; exact ⟨w, ws, rfl, hw, hws⟩
    · rintro ⟨_, _, h, hw, hws⟩; cases h; exact ⟨hw, hws⟩

theorem sameEntries_iff {es gs : List (Value × Value)} :
    sameEntries es gs = true ↔
      ∀ e ∈ es, ∃ g ∈ gs, e.1.same g.1 = true ∧ e.2.same g.2 = true := by
  induction es with
  | nil => simp [sameEntries]
  | cons e es ih => simp [sameEntries, ih]

/-- Equality of settled values is read off their shapes. -/
theorem same_iff {v w : Value} : v.same w = true ↔ v.shape.Alike w.shape := by
  cases v <;> cases w <;>
    simp [same, sameAll, shape, atom?, Shape.Alike, AlikeEntries, sameEntries_iff,
      Label.Style.text_inj]

theorem sizeOf_pos (v : Value) : 0 < sizeOf v := by
  apply Nat.pos_of_ne_zero
  cases v <;> simp

theorem sizeOf_part_lt {v p : Value} {kind : Kind} {items : List Value}
    (h : v.shape = .parts kind items) (hp : p ∈ items) : sizeOf p < sizeOf v := by
  cases v <;> simp only [shape, Shape.parts.injEq, reduceCtorEq] at h <;> obtain ⟨rfl, rfl⟩ := h
  case list items | tuple items =>
    have := List.sizeOf_lt_of_mem hp
    simp only [list.sizeOf_spec, tuple.sizeOf_spec]
    omega
  case ok | err | stripped =>
    obtain rfl := List.mem_singleton.1 hp
    simp
  case location file s =>
    have := sizeOf_pos file
    simp only [List.mem_cons, List.not_mem_nil, or_false] at hp
    rcases hp with rfl | rfl <;> simp <;> omega
  case located value file s =>
    have := sizeOf_pos file
    simp only [List.mem_cons, List.not_mem_nil, or_false] at hp
    rcases hp with rfl | rfl | rfl <;> simp <;> omega
  case label role file s message =>
    have := sizeOf_pos file
    simp only [List.mem_cons, List.not_mem_nil, or_false] at hp
    rcases hp with rfl | rfl | rfl | rfl <;> simp <;> omega

theorem sizeOf_entry_lt {v : Value} {es : List (Value × Value)} {e : Value × Value}
    (h : v.shape = .table es) (he : e ∈ es) : sizeOf e.1 < sizeOf v ∧ sizeOf e.2 < sizeOf v := by
  cases v <;> simp only [shape, Shape.table.injEq, reduceCtorEq] at h
  subst h
  have hlt := List.sizeOf_lt_of_mem he
  obtain ⟨k, w⟩ := e
  simp only [table.sizeOf_spec, Prod.mk.sizeOf_spec] at hlt ⊢
  omega

/-- Induction over a value by its shape. -/
@[elab_as_elim]
theorem shapeInduction {motive : Value → Prop}
    (atom : ∀ v a, v.shape = .atom a → motive v)
    (table : ∀ v es, v.shape = .table es → (∀ e ∈ es, motive e.1 ∧ motive e.2) → motive v)
    (parts : ∀ v kind items, v.shape = .parts kind items → (∀ p ∈ items, motive p) → motive v)
    (v : Value) : motive v :=
  match h : v.shape with
  | .atom a => atom v a h
  | .table es =>
    table v es h fun e he =>
      have := sizeOf_entry_lt h he
      ⟨shapeInduction atom table parts e.1, shapeInduction atom table parts e.2⟩
  | .parts kind items =>
    parts v kind items h fun p hp =>
      have := sizeOf_part_lt h hp
      shapeInduction atom table parts p
termination_by sizeOf v

end Value
end Whereabouts
