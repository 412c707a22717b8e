import Whereabouts.Proofs.Equality.Stripped
import Whereabouts.Proofs.Keys.Hashing
import Whereabouts.Proofs.Strip.NormalForm

namespace Whereabouts.Value

variable {v w : Value}

theorem isHashable_iff : v.isHashable = true ↔ v.unhashable? = none := Option.isNone_iff_eq_none

theorem kind_of_isHashable (h : v.isHashable = true) : v.kind ≠ .located := by
  cases v with
  | located value file s =>
    rw [isHashable_iff, unhashable?, settled, unhashablePart?] at h
    cases h
  | _ => simp only [kind, ne_eq, reduceCtorEq, not_false_eq_true]

theorem isHashable_of_mem_contents (h : v.isHashable = true) {u : Value} (hu : u ∈ v.contents) :
    u.isHashable = true := by
  rw [isHashable_iff] at h ⊢
  cases v with
  | list items | table entries =>
    rw [unhashable?, settled, unhashablePart?] at h
    cases h
  | tuple items => exact unhashable?_tuple_iff.1 h u hu
  | ok value | err error =>
    rw [unhashable?, settled, unhashablePart?] at h
    rw [List.mem_singleton.1 hu]
    exact h
  | _ => cases hu

/-- What is used as a key is left as it is by `strip`. It may still hold a located value where
`strip` never goes, which is inside a wrapped value. -/
theorem strip_of_isHashable (h : v.isHashable = true) : v.strip = v :=
  strip_of_invariant (P := fun v => v.isHashable = true) (fun _ => kind_of_isHashable)
    (fun _ h _ => isHashable_of_mem_contents h) v h

theorem stripped_isHashable (h : v.isHashable = true) : (stripped v).isHashable = true := by
  rw [isHashable_iff, unhashable?_stripped, strip_of_isHashable h, ← isHashable_iff]
  exact h

theorem stripped_beq_stripped_of_isHashable (hv : v.isHashable = true)
    (hw : w.isHashable = true) : (stripped v == stripped w) = (v == w) := by
  rw [stripped_beq_stripped, strippedEq, strip_of_isHashable hv, strip_of_isHashable hw]

/-- To strip the keys of a table as well makes no difference. -/
theorem strip_table_of_isHashable {entries : List (Value × Value)}
    (keys : ∀ e ∈ entries, e.1.isHashable = true) :
    (table entries).strip = table (entries.map fun e => (e.1.strip, e.2.strip)) := by
  rw [strip, stripEntries_eq_map]
  congr 1
  apply List.map_congr_left
  intro e he
  rw [strip_of_isHashable (keys e he)]

/-- **Keys hold nothing to strip.** On no path into a key does `strip` find a located value, so it
leaves the key as it is. Wrapped keys are keys, and equal exactly if the keys themselves are. A
table keeps its keys, in their number and order, and would be the same if `strip` went into them. -/
theorem keys_unlocated {v : Value} (hv : v.isHashable = true) :
    v.Unlocated ∧ v.strip = v ∧ (stripped v).isHashable = true ∧
    (∀ w, w.isHashable = true → ((stripped v == stripped w) = true ↔ (v == w) = true)) ∧
    ∀ entries : List (Value × Value), (∀ e ∈ entries, e.1.isHashable = true) →
      ∃ after, (table entries).strip = table after ∧
        after.map Prod.fst = entries.map Prod.fst ∧
        after = entries.map fun e => (e.1.strip, e.2.strip) := by
  have same := strip_of_isHashable hv
  refine ⟨strip_eq_self_iff.1 same, same, stripped_isHashable hv, ?_, ?_⟩
  · intro w hw
    rw [stripped_beq_stripped_of_isHashable hv hw]
  · intro entries keys
    refine ⟨_, strip_table_of_isHashable keys, ?_, rfl⟩
    rw [List.map_map]
    apply List.map_congr_left
    intro e he
    exact strip_of_isHashable (keys e he)

/-- A pair whose first item wraps a located text and whose second is a location in a wrapped file,
compared with one in which the texts are not located, and as the key of a located value. -/
theorem keys_unlocated_wrapped :
    let placed (s : String) : Value := located (text s) (list []) ⟨0, 3⟩
    let v := tuple [stripped (placed "a"), location (stripped (placed "f")) ⟨1, 2⟩]
    let w := tuple [stripped (text "a"), location (stripped (text "f")) ⟨1, 2⟩]
    let entries := [(v, placed "b"), (int 0, absent)]
    v.isHashable = true ∧ (v.Unlocated ∧ v.strip = v ∧ (stripped v).isHashable = true) ∧
      (w.isHashable = true ∧ (stripped v == stripped w) = true) ∧
      (∀ e ∈ entries, e.1.isHashable = true) ∧
      (table entries).strip = table [(v, text "b"), (int 0, absent)] := by
  intro placed v w entries
  have hv : v.isHashable = true := by decide
  have hw : w.isHashable = true := by decide
  have equal : (v == w) = true := by decide
  have keys : ∀ e ∈ entries, e.1.isHashable = true := by decide
  obtain ⟨unlocated, same, wrapped, beq, tables⟩ := keys_unlocated hv
  obtain ⟨after, made, -, rfl⟩ := tables entries keys
  exact ⟨hv, ⟨unlocated, same, wrapped⟩, ⟨hw, (beq w hw).2 equal⟩, keys, made⟩

end Whereabouts.Value
