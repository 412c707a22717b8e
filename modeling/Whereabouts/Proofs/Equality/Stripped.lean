import Whereabouts.Proofs.Equality.Equivalence
import Whereabouts.Proofs.Strip.Relocation

/-!
# Equality without locations

`strip` never separates two equal values, although they may differ in shape below a wrapper, and
the order of table entries. So equality of stripped values is an equivalence that is coarser than
equality.
-/
namespace Whereabouts.Value

theorem strip_of_atom {v : Value} {a : Atom} (h : v.shape = .atom a) : v.strip = v := by
  cases v <;> simp only [shape, reduceCtorEq] at h <;> rw [strip] <;> simp

theorem same_strip_of_atom {v w : Value} {a : Atom} (hv : v.shape = .atom a)
    (h : v.same w = true) : v.strip.same w.strip = true := by
  have hw : w.shape = .atom a := by
    rw [same_iff, hv] at h
    exact Shape.atom_alike_iff.1 h
  rwa [strip_of_atom hv, strip_of_atom hw]

theorem AlikeEntries.strip {es gs : List (Value × Value)} (h : AlikeEntries es gs)
    (strips : ∀ e ∈ es, ∀ w : Value, e.2.same w = true → e.2.strip.same w.strip = true) :
    AlikeEntries (stripEntries es) (stripEntries gs) := by
  simp only [stripEntries_eq_map]
  refine ⟨by simpa only [List.length_map] using h.1, ?_⟩
  intro e' he'
  obtain ⟨e, he, rfl⟩ := List.mem_map.1 he'
  obtain ⟨g, hg, hk, hv⟩ := h.2 e he
  exact ⟨(g.1, g.2.strip), List.mem_map.2 ⟨g, hg, rfl⟩, hk, strips e he g.2 hv⟩

mutual

/-- Equal settled values stay equal without their locations. -/
theorem same_strip : ∀ (v w : Value), v.same w = true → v.strip.same w.strip = true
  | located value file s, w, h => by
    cases w with
    | located value' file' s' =>
      simp only [same, Bool.and_eq_true] at h
      rw [strip, strip]
      exact same_strip value value' h.1
    | _ => simp [same, atom?] at h
  | list vs, w, h => by
    cases w with
    | list ws =>
      rw [same] at h
      rw [strip, strip, same]
      exact sameAll_stripAll vs ws h
    | _ => simp [same, atom?] at h
  | tuple vs, w, h => by
    cases w with
    | tuple ws =>
      rw [same] at h
      rw [strip, strip, same]
      exact sameAll_stripAll vs ws h
    | _ => simp [same, atom?] at h
  | table es, w, h => by
    cases w with
    | table gs =>
      rw [same_iff] at h
      rw [strip, strip, same_iff]
      exact AlikeEntries.strip h (same_strip_entries es)
    | _ => simp [same, atom?] at h
  | ok value, w, h => by
    cases w with
    | ok value' =>
      rw [same] at h
      rw [strip, strip, same]
      exact same_strip value value' h
    | _ => simp [same, atom?] at h
  | err error, w, h => by
    cases w with
    | err error' =>
      rw [same] at h
      rw [strip, strip, same]
      exact same_strip error error' h
    | _ => simp [same, atom?] at h
  | location file s, w, h => by
    cases w with
    | location => simpa only [strip] using h
    | _ => simp [same, atom?] at h
  | stripped value, w, h => by
    cases w with
    | stripped => simpa only [strip] using h
    | _ => simp [same, atom?] at h
  | label role file s message, w, h => by
    cases w with
    | label => simpa only [strip] using h
    | _ => simp [same, atom?] at h
  | absent, w, h | bool _, w, h | int _, w, h | float _, w, h | text _, w, h | bytes _, w, h
  | range _, w, h | span _, w, h | style _, w, h => same_strip_of_atom rfl h

theorem sameAll_stripAll : ∀ (vs ws : List Value),
    sameAll vs ws = true → sameAll (stripAll vs) (stripAll ws) = true
  | [], ws, h => by
    obtain rfl := sameAll_nil_iff.1 h
    rwa [stripAll]
  | v :: vs, ws, h => by
    obtain ⟨w, ws, rfl, hw, hrest⟩ := sameAll_cons_iff.1 h
    rw [stripAll, stripAll, sameAll_cons_iff]
    exact ⟨w.strip, stripAll ws, rfl, same_strip v w hw, sameAll_stripAll vs ws hrest⟩

theorem same_strip_entries : ∀ (es : List (Value × Value)), ∀ e ∈ es, ∀ w : Value,
    e.2.same w = true → e.2.strip.same w.strip = true
  | (_, v) :: es, e, he, w, h => by
    rcases List.mem_cons.1 he with rfl | he
    · exact same_strip v w h
    · exact same_strip_entries es e he w h

end

theorem strip_beq_strip {v w : Value} (h : (v == w) = true) : (v.strip == w.strip) = true := by
  have hs := same_strip v.settled w.settled h
  rwa [← settled_strip, ← settled_strip] at hs

theorem strip_strip (v : Value) : v.strip.strip = v.strip := (relocated_strip v).strip_eq.symm

theorem strippedEq_symm {v w : Value} (keys : v.wellKeyed = true) (h : v.strippedEq w = true) :
    w.strippedEq v = true :=
  beq_symm (keysDiffer_strip v keys) h

theorem strippedEq_trans {u v w : Value} (huv : u.strippedEq v = true)
    (hvw : v.strippedEq w = true) : u.strippedEq w = true :=
  beq_trans huv hvw

theorem stripped_beq_stripped (v w : Value) : (stripped v == stripped w) = v.strippedEq w := by
  have h : (stripped v == stripped w) = v.settled.strip.same w.settled.strip := by
    simp only [BEq.beq, settled, same]
  rw [h, ← settled_strip, ← settled_strip]
  rfl

/-- Payloads that are equal without their locations stand for each other. -/
theorem strippedEq_congr {v v' w w' : Value} (hv : v'.wellKeyed = true) (hw : w'.wellKeyed = true)
    (hvv : v'.strippedEq v = true) (hww : w'.strippedEq w = true) :
    v.strippedEq w = v'.strippedEq w' := by
  apply Bool.eq_iff_iff.2
  constructor
  · intro h
    exact strippedEq_trans (strippedEq_trans hvv h) (strippedEq_symm hw hww)
  · intro h
    exact strippedEq_trans (strippedEq_trans (strippedEq_symm hv hvv) h) hww

/-- **Equality, with and without locations.** Both are equivalences, inequality is the negation of
equality, and leaving locations out identifies whatever is equal, and a value with its stripped
form. Keys matter for symmetry alone. -/
theorem equality_laws {u v w : Value} (keys : u.wellKeyed = true) :
    ((u == u) = true ∧ ((u == v) = true → (v == u) = true) ∧
      ((u == v) = true → (v == w) = true → (u == w) = true) ∧ (u != v) = !(u == v)) ∧
    (u.strippedEq u = true ∧ (u.strippedEq v = true → v.strippedEq u = true) ∧
      (u.strippedEq v = true → v.strippedEq w = true → u.strippedEq w = true)) ∧
    ((u == v) = true → u.strippedEq v = true) ∧ u.strippedEq u.strip = true := by
  refine ⟨⟨beq_refl u, beq_symm keys, beq_trans, rfl⟩,
    ⟨beq_refl u.strip, strippedEq_symm keys, strippedEq_trans⟩, strip_beq_strip, ?_⟩
  rw [strippedEq, strip_strip]
  exact beq_refl u.strip

/-- Three tables that are equal although they list their entries in different orders, hold truth
values, numbers, styles and texts, and have different locations below a wrapper. -/
theorem equality_laws_tables :
    let at' (n : Int) : Value := located (int n) (text "f") ⟨n, n⟩
    let u := table [(int 1, stripped (at' 7)), (text "primary", list [])]
    let v := table [(style .primary, list []), (bool true, stripped (int 7))]
    let w := table [(int 1, stripped (at' 7)), (style .primary, list [])]
    u.wellKeyed = true ∧ (u == v) = true ∧ (v == w) = true ∧
      ((v == u) = true ∧ (u == w) = true ∧ u.strippedEq w = true) := by
  intro at' u v w
  have keys : u.wellKeyed = true := by decide
  have huv : (u == v) = true := by decide
  have hvw : (v == w) = true := by decide
  have laws := equality_laws (v := v) (w := w) keys
  refine ⟨keys, huv, hvw, laws.1.2.1 huv, laws.1.2.2.1 huv hvw, ?_⟩
  exact (equality_laws (v := w) (w := w) keys).2.2.1 (laws.1.2.2.1 huv hvw)

end Whereabouts.Value
