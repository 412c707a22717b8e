import Whereabouts.Proofs.Equality.Shape

namespace Whereabouts.Value

mutual

/-- Whether no table inside the value has two keys that `eq` relates. -/
def keysDiffer (eq : Value → Value → Bool) : Value → Bool
  | list items => keysDifferAll eq items
  | tuple items => keysDifferAll eq items
  | table entries => keysDifferEntries eq entries
  | location file _ => file.keysDiffer eq
  | located value file _ => value.keysDiffer eq && file.keysDiffer eq
  | ok value => value.keysDiffer eq
  | err error => error.keysDiffer eq
  | stripped value => value.keysDiffer eq
  | label _ file _ _ => file.keysDiffer eq
  | _ => true

def keysDifferAll (eq : Value → Value → Bool) : List Value → Bool
  | [] => true
  | v :: vs => v.keysDiffer eq && keysDifferAll eq vs

def keysDifferEntries (eq : Value → Value → Bool) : List (Value × Value) → Bool
  | [] => true
  | (k, v) :: es =>
    es.all (fun e => !eq k e.1) && (k.keysDiffer eq && v.keysDiffer eq && keysDifferEntries eq es)

end

/-- Whether the keys of every table inside the value are pairwise unequal. -/
def wellKeyed (v : Value) : Bool := v.keysDiffer (· == ·)

variable {eq : Value → Value → Bool}

theorem keysDifferAll_iff {items : List Value} :
    keysDifferAll eq items = true ↔ ∀ v ∈ items, v.keysDiffer eq = true := by
  induction items with
  | nil => simp [keysDifferAll]
  | cons v vs ih => simp [keysDifferAll, ih]

theorem keysDifferEntries_iff {es : List (Value × Value)} :
    keysDifferEntries eq es = true ↔ es.Pairwise (fun e g => eq e.1 g.1 = false) ∧
      ∀ e ∈ es, e.1.keysDiffer eq = true ∧ e.2.keysDiffer eq = true := by
  induction es with
  | nil => simp [keysDifferEntries]
  | cons e es ih =>
    simp only [keysDifferEntries, Bool.and_eq_true, List.all_eq_true, Bool.not_eq_true', ih,
      List.pairwise_cons, List.forall_mem_cons]
    constructor
    · rintro ⟨apart, he, hp, hes⟩; exact ⟨⟨apart, hp⟩, he, hes⟩
    · rintro ⟨⟨apart, hp⟩, he, hes⟩; exact ⟨apart, he, hp, hes⟩

theorem keysDiffer_table {v : Value} {es : List (Value × Value)} (h : v.shape = .table es) :
    v.keysDiffer eq = keysDifferEntries eq es := by
  cases v <;> simp only [shape, Shape.table.injEq, reduceCtorEq] at h
  rw [keysDiffer, h]

theorem keysDiffer_parts {v : Value} {kind : Kind} {items : List Value}
    (h : v.shape = .parts kind items) : v.keysDiffer eq = keysDifferAll eq items := by
  cases v <;> simp only [shape, Shape.parts.injEq, reduceCtorEq] at h <;> obtain ⟨rfl, rfl⟩ := h <;>
    simp [keysDiffer, keysDifferAll]

/-- The tables that `strip` leaves have the keys they had. -/
theorem all_keys_stripEntries (p : Value → Bool) (es : List (Value × Value)) :
    ((stripEntries es).all fun e => p e.1) = es.all fun e => p e.1 := by
  rw [stripEntries_eq_map, List.all_map]
  rfl

mutual

theorem keysDiffer_strip : ∀ v : Value, v.keysDiffer eq = true → v.strip.keysDiffer eq = true
  | located value file s, h => by
    rw [keysDiffer, Bool.and_eq_true] at h
    rw [strip]
    exact keysDiffer_strip value h.1
  | list items, h | tuple items, h => by
    rw [keysDiffer] at h
    rw [strip, keysDiffer]
    exact keysDifferAll_stripAll items h
  | table entries, h => by
    rw [keysDiffer] at h
    rw [strip, keysDiffer]
    exact keysDifferEntries_stripEntries entries h
  | ok value, h | err value, h => by
    rw [keysDiffer] at h
    rw [strip, keysDiffer]
    exact keysDiffer_strip value h
  | absent, h | bool _, h | int _, h | float _, h | text _, h | bytes _, h | range _, h
  | span _, h | location .., h | stripped _, h | style _, h | label .., h => by
    simpa only [strip] using h

theorem keysDifferAll_stripAll : ∀ items : List Value,
    keysDifferAll eq items = true → keysDifferAll eq (stripAll items) = true
  | [], h => by rw [stripAll]; exact h
  | v :: vs, h => by
    rw [keysDifferAll, Bool.and_eq_true] at h
    rw [stripAll, keysDifferAll, Bool.and_eq_true]
    exact ⟨keysDiffer_strip v h.1, keysDifferAll_stripAll vs h.2⟩

theorem keysDifferEntries_stripEntries : ∀ entries : List (Value × Value),
    keysDifferEntries eq entries = true → keysDifferEntries eq (stripEntries entries) = true
  | [], h => by rw [stripEntries]; exact h
  | (k, v) :: es, h => by
    simp only [keysDifferEntries, Bool.and_eq_true] at h
    obtain ⟨apart, ⟨hk, hv⟩, hes⟩ := h
    simp only [stripEntries, keysDifferEntries, Bool.and_eq_true]
    refine ⟨?_, ⟨hk, keysDiffer_strip v hv⟩, keysDifferEntries_stripEntries es hes⟩
    rw [all_keys_stripEntries fun k' => !eq k k']
    exact apart

end

mutual

/-- Keys that are unequal stay so when values are settled for a comparison. -/
theorem keysDiffer_settled : ∀ v : Value,
    v.keysDiffer (· == ·) = true → v.settled.keysDiffer same = true
  | list items, h | tuple items, h => by
    rw [keysDiffer] at h
    rw [settled, keysDiffer]
    exact keysDifferAll_settledAll items h
  | table entries, h => by
    rw [keysDiffer] at h
    rw [settled, keysDiffer]
    exact keysDifferEntries_settledEntries entries h
  | location file _, h | label _ file _ _, h => by
    rw [keysDiffer] at h
    rw [settled, keysDiffer]
    exact keysDiffer_settled file h
  | located value file s, h => by
    rw [keysDiffer, Bool.and_eq_true] at h
    rw [settled, keysDiffer, Bool.and_eq_true]
    exact ⟨keysDiffer_settled value h.1, keysDiffer_settled file h.2⟩
  | ok value, h | err value, h => by
    rw [keysDiffer] at h
    rw [settled, keysDiffer]
    exact keysDiffer_settled value h
  | stripped value, h => by
    rw [keysDiffer] at h
    rw [settled, keysDiffer]
    exact keysDiffer_strip _ (keysDiffer_settled value h)
  | absent, _ | bool _, _ | int _, _ | float _, _ | text _, _ | bytes _, _ | range _, _
  | span _, _ | style _, _ => by simp only [settled, keysDiffer]

theorem keysDifferAll_settledAll : ∀ items : List Value,
    keysDifferAll (· == ·) items = true → keysDifferAll same (settledAll items) = true
  | [], _ => by rw [settledAll, keysDifferAll]
  | v :: vs, h => by
    rw [keysDifferAll, Bool.and_eq_true] at h
    rw [settledAll, keysDifferAll, Bool.and_eq_true]
    exact ⟨keysDiffer_settled v h.1, keysDifferAll_settledAll vs h.2⟩

theorem keysDifferEntries_settledEntries : ∀ entries : List (Value × Value),
    keysDifferEntries (· == ·) entries = true →
      keysDifferEntries same (settledEntries entries) = true
  | [], _ => by rw [settledEntries, keysDifferEntries]
  | (k, v) :: es, h => by
    simp only [keysDifferEntries, Bool.and_eq_true] at h
    obtain ⟨apart, ⟨hk, hv⟩, hes⟩ := h
    simp only [settledEntries, keysDifferEntries, Bool.and_eq_true]
    refine ⟨?_, ⟨keysDiffer_settled k hk, keysDiffer_settled v hv⟩,
      keysDifferEntries_settledEntries es hes⟩
    rw [settledEntries_eq_map, List.all_map]
    exact apart

end

end Whereabouts.Value
