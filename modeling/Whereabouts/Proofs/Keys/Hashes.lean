import Whereabouts.Proofs.Keys.Hashing

/-!
# Hashes

A value has a hash exactly when it can be a key, and equal values have the same one, whatever
number the hasher makes of the parts (`hash_congr`). This is what a table relies on when it looks
for a key by its hash and then by equality.
-/
namespace Whereabouts.Hasher

open Value

variable (H : Hasher)

theorem map_eq_error_iff {ε α β : Type} {o : Except ε α} {f : α → β} {error : ε} :
    o.map f = .error error ↔ o = .error error := by
  cases o <;> simp [Except.map]

theorem ofItems_cons_eq_error_iff {v : Value} {vs : List Value} {kind : Kind} :
    H.ofItems (v :: vs) = .error kind ↔ H.ofSettled v = .error kind ∨
      (∃ hash, H.ofSettled v = .ok hash) ∧ H.ofItems vs = .error kind := by
  rw [ofItems]
  cases H.ofSettled v with
  | error kind' => simp [Except.bind]
  | ok hash => simp [Except.bind, map_eq_error_iff]

mutual

/-- What a settled value is refused for as a key is what keeps it from having a hash. -/
theorem ofSettled_eq_error_iff {kind : Kind} :
    ∀ v : Value, H.ofSettled v = .error kind ↔ v.unhashablePart? = some kind
  | .tuple items => by
    rw [ofSettled, map_eq_error_iff, unhashablePart?, ofItems_eq_error_iff items]
  | .location file s => by
    rw [ofSettled, map_eq_error_iff, unhashablePart?, ofSettled_eq_error_iff file]
  | .ok value => by
    rw [ofSettled, map_eq_error_iff, unhashablePart?, ofSettled_eq_error_iff value]
  | .err error => by
    rw [ofSettled, map_eq_error_iff, unhashablePart?, ofSettled_eq_error_iff error]
  | .stripped value => by rw [ofSettled, unhashablePart?, ofSettled_eq_error_iff value]
  | .label role file s message => by
    rw [ofSettled, map_eq_error_iff, unhashablePart?, ofSettled_eq_error_iff file]
  | .list _ | .table _ | .located .. | .absent | .bool _ | .int _ | .float _ | .text _
  | .bytes _ | .range _ | .span _ | .style _ => by
    simp [ofSettled, unhashablePart?, atom?, Value.kind]

theorem ofItems_eq_error_iff {kind : Kind} :
    ∀ vs : List Value, H.ofItems vs = .error kind ↔ unhashableItem? vs = some kind
  | [] => by simp [ofItems, unhashableItem?]
  | v :: vs => by
    rw [ofItems_cons_eq_error_iff, ofSettled_eq_error_iff v, ofItems_eq_error_iff vs,
      unhashableItem?]
    cases barred : v.unhashablePart? with
    | some kind' =>
      have refused := (ofSettled_eq_error_iff v).2 barred
      simp [refused]
    | none =>
      have hashed : ∃ hash, H.ofSettled v = .ok hash := by
        cases h : H.ofSettled v with
        | ok hash => exact ⟨hash, rfl⟩
        | error kind' => simp [(ofSettled_eq_error_iff v).1 h] at barred
      simp [hashed]

end

/-- Items of the same hashes, given that each equals its partner. -/
theorem ofItems_congr {vs ws : List Value}
    (congr : ∀ v ∈ vs, ∀ {w : Value}, v.same w = true → H.ofSettled v = H.ofSettled w)
    (h : sameAll vs ws = true) : H.ofItems vs = H.ofItems ws := by
  induction vs generalizing ws with
  | nil =>
    obtain rfl := sameAll_nil_iff.1 h
    rfl
  | cons v vs ih =>
    obtain ⟨w, ws, rfl, hw, hrest⟩ := sameAll_cons_iff.1 h
    obtain ⟨hv, hvs⟩ := List.forall_mem_cons.1 congr
    rw [ofItems, ofItems, hv hw, ih hvs hrest]

/-- The hash by the shape. Only a wrapper and a label do not hash the row of their parts. -/
def ofShape (H : Hasher) : Shape → Except Kind Int
  | .atom a => .ok (H.atom a)
  | .table _ => .error .table
  | .parts .stripped [value] => H.ofSettled value
  | .parts .label [.style role, file, .span s, .text message] => (H.ofSettled file).map fun h =>
    H.tuple [H.text role.text, h, H.number s.start, H.number s.stop, H.text message]
  | .parts .list _ => .error .list
  | .parts .located _ => .error .located
  | .parts _ items => (H.ofItems items).map H.tuple

theorem ofSettled_eq (v : Value) : H.ofSettled v = H.ofShape v.shape := by
  cases v with
  | location file s =>
    simp only [ofSettled, shape, ofShape, ofItems, atom?]
    cases H.ofSettled file <;> rfl
  | ok value | err value =>
    simp only [ofSettled, shape, ofShape, ofItems]
    cases H.ofSettled value <;> rfl
  | _ => rfl

theorem ofSettled_congr {v w : Value} (h : v.same w = true) : H.ofSettled v = H.ofSettled w := by
  induction v using shapeInduction generalizing w with
  | atom v a hv =>
    rw [same_iff, hv, Shape.atom_alike_iff] at h
    rw [ofSettled_eq, ofSettled_eq, hv, h]
  | table v es hv =>
    rw [same_iff, hv, Shape.table_alike_iff] at h
    obtain ⟨gs, hw, -⟩ := h
    rw [ofSettled_eq, ofSettled_eq, hv, hw, ofShape, ofShape]
  | parts v kind vs hv ih =>
    have alike := h
    rw [same_iff, hv, Shape.parts_alike_iff] at alike
    obtain ⟨ws, hw, hs⟩ := alike
    cases kind with
    | stripped =>
      cases v <;> cases hv
      cases w <;> cases hw
      rw [same] at h
      rw [ofSettled, ofSettled]
      exact ih _ List.mem_cons_self h
    | label =>
      cases v <;> cases hv
      cases w <;> cases hw
      simp only [same, Bool.and_eq_true, beq_iff_eq] at h
      obtain ⟨rfl, hfile, rfl, rfl⟩ := h
      have files := ih _ (List.mem_cons_of_mem _ List.mem_cons_self) hfile
      rw [ofSettled, ofSettled, files]
    | _ =>
      rw [ofSettled_eq, ofSettled_eq, hv, hw]
      simp only [ofShape, H.ofItems_congr ih hs]

/-- Equal values have the same hash, or are kept from having one alike. -/
theorem hash_congr {v w : Value} (h : (v == w) = true) : H.hash v = H.hash w :=
  H.ofSettled_congr h

/-- A wrapped value has the hash of what is left of its payload without locations. -/
theorem hash_stripped (v : Value) : H.hash (.stripped v) = H.hash v.strip := by
  rw [hash, settled, ofSettled, hash, settled_strip]

theorem hash_eq_error_iff {v : Value} {kind : Kind} :
    H.hash v = .error kind ↔ v.unhashable? = some kind :=
  H.ofSettled_eq_error_iff v.settled

theorem exists_hash_eq_error_iff (v : Value) :
    (∃ kind, H.hash v = .error kind) ↔ v.isHashable = false := by
  simp only [hash_eq_error_iff, isHashable, Option.isNone_eq_false_iff, Option.isSome_iff_exists]

end Whereabouts.Hasher
