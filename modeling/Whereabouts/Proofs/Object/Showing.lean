import Whereabouts.Object.Basic

/-!
# What objects show

`Heap.look?` goes through so many cells at most. More cells than there are never show anything new
(`look?_saturates`), since every round that shows something new shows it for one more address. So
the value of a located value is that of its cell, and what an object shows hangs on nothing but the
cells that it holds (`value?_of_kept`).
-/
namespace Whereabouts

namespace Object

mutual

/-- The references in an object. -/
def refs : Object → List Ref
  | plain _ _ => []
  | list items => refsAll items
  | tuple items => refsAll items
  | table entries => refsEntries entries
  | location file _ => file.refs
  | located r => [r]
  | ok value => value.refs
  | err error => error.refs
  | stripped value => value.refs
  | label _ file _ _ => file.refs

def refsAll : List Object → List Ref
  | [] => []
  | o :: os => o.refs ++ refsAll os

def refsEntries : List (Object × Object) → List Ref
  | [] => []
  | (k, o) :: entries => k.refs ++ (o.refs ++ refsEntries entries)

end

variable {look look' : Ref → Option Value}

mutual

/-- An object shows the same by whatever has the same values for its references. -/
theorem value?_mono : ∀ (o : Object) {v : Value},
    (∀ r ∈ o.refs, ∀ w, look r = some w → look' r = some w) →
      o.value? look = some v → o.value? look' = some v
  | plain _ _, _, _, shows => shows
  | located r, v, h, shows => h r (List.mem_singleton.2 rfl) v shows
  | list items, _, h, shows | tuple items, _, h, shows => by
    obtain ⟨vs, hvs, rfl⟩ := Option.map_eq_some_iff.1 shows
    exact Option.map_eq_some_iff.2 ⟨vs, values?_mono items h hvs, rfl⟩
  | table entries, _, h, shows => by
    obtain ⟨es, hes, rfl⟩ := Option.map_eq_some_iff.1 shows
    exact Option.map_eq_some_iff.2 ⟨es, entries?_mono entries h hes, rfl⟩
  | location o _, _, h, shows | ok o, _, h, shows | err o, _, h, shows | stripped o, _, h, shows
  | label _ o _ _, _, h, shows => by
    obtain ⟨v, hv, rfl⟩ := Option.map_eq_some_iff.1 shows
    exact Option.map_eq_some_iff.2 ⟨v, value?_mono o h hv, rfl⟩

theorem values?_mono : ∀ (os : List Object) {vs : List Value},
    (∀ r ∈ refsAll os, ∀ w, look r = some w → look' r = some w) →
      values? look os = some vs → values? look' os = some vs
  | [], _, _, shows => shows
  | o :: os, _, h, shows => by
    obtain ⟨v, hv, rest⟩ := Option.bind_eq_some_iff.1 shows
    obtain ⟨vs, hvs, rfl⟩ := Option.map_eq_some_iff.1 rest
    have first := value?_mono o (fun r hr => h r (List.mem_append_left _ hr)) hv
    have others := values?_mono os (fun r hr => h r (List.mem_append_right _ hr)) hvs
    rw [values?, first, others]
    rfl

theorem entries?_mono : ∀ (entries : List (Object × Object)) {es : List (Value × Value)},
    (∀ r ∈ refsEntries entries, ∀ w, look r = some w → look' r = some w) →
      entries? look entries = some es → entries? look' entries = some es
  | [], _, _, shows => shows
  | (k, o) :: entries, _, h, shows => by
    obtain ⟨key, hkey, rest⟩ := Option.bind_eq_some_iff.1 shows
    obtain ⟨v, hv, rest⟩ := Option.bind_eq_some_iff.1 rest
    obtain ⟨es, hes, rfl⟩ := Option.map_eq_some_iff.1 rest
    have inKey := value?_mono k (fun r hr => h r (List.mem_append_left _ hr)) hkey
    have inEntry := value?_mono o
      (fun r hr => h r (List.mem_append_right _ (List.mem_append_left _ hr))) hv
    have others := entries?_mono entries
      (fun r hr => h r (List.mem_append_right _ (List.mem_append_right _ hr))) hes
    rw [entries?, inKey, inEntry, others]
    rfl

end

mutual

/-- A reference in an object shows a part of what the object shows. -/
theorem exists_look_of_mem_refs {r : Ref} : ∀ (o : Object) {v : Value}, r ∈ o.refs →
    o.value? look = some v → ∃ w, look r = some w ∧ sizeOf w ≤ sizeOf v
  | plain _ _, _, mem, _ => by cases mem
  | located r', v, mem, shows => by
    obtain rfl := List.mem_singleton.1 mem
    exact ⟨v, shows, Nat.le_refl _⟩
  | list items, _, mem, shows | tuple items, _, mem, shows => by
    obtain ⟨vs, hvs, rfl⟩ := Option.map_eq_some_iff.1 shows
    obtain ⟨w, hw, size⟩ := exists_look_of_mem_refsAll items mem hvs
    exact ⟨w, hw, by simp only [Value.list.sizeOf_spec, Value.tuple.sizeOf_spec]; omega⟩
  | table entries, _, mem, shows => by
    obtain ⟨es, hes, rfl⟩ := Option.map_eq_some_iff.1 shows
    obtain ⟨w, hw, size⟩ := exists_look_of_mem_refsEntries entries mem hes
    exact ⟨w, hw, by simp only [Value.table.sizeOf_spec]; omega⟩
  | location o _, _, mem, shows | ok o, _, mem, shows | err o, _, mem, shows
  | stripped o, _, mem, shows | label _ o _ _, _, mem, shows => by
    obtain ⟨v, hv, rfl⟩ := Option.map_eq_some_iff.1 shows
    obtain ⟨w, hw, size⟩ := exists_look_of_mem_refs o mem hv
    refine ⟨w, hw, ?_⟩
    simp only [Value.location.sizeOf_spec, Value.ok.sizeOf_spec, Value.err.sizeOf_spec,
      Value.stripped.sizeOf_spec, Value.label.sizeOf_spec]
    omega

theorem exists_look_of_mem_refsAll {r : Ref} : ∀ (os : List Object) {vs : List Value},
    r ∈ refsAll os → values? look os = some vs → ∃ w, look r = some w ∧ sizeOf w ≤ sizeOf vs
  | [], _, mem, _ => by cases mem
  | o :: os, _, mem, shows => by
    obtain ⟨v, hv, rest⟩ := Option.bind_eq_some_iff.1 shows
    obtain ⟨vs, hvs, rfl⟩ := Option.map_eq_some_iff.1 rest
    rw [List.cons.sizeOf_spec]
    rcases List.mem_append.1 mem with first | others
    · obtain ⟨w, hw, size⟩ := exists_look_of_mem_refs o first hv
      exact ⟨w, hw, by omega⟩
    · obtain ⟨w, hw, size⟩ := exists_look_of_mem_refsAll os others hvs
      exact ⟨w, hw, by omega⟩

theorem exists_look_of_mem_refsEntries {r : Ref} :
    ∀ (entries : List (Object × Object)) {es : List (Value × Value)},
      r ∈ refsEntries entries → entries? look entries = some es →
        ∃ w, look r = some w ∧ sizeOf w ≤ sizeOf es
  | [], _, mem, _ => by cases mem
  | (k, o) :: entries, _, mem, shows => by
    obtain ⟨key, hkey, rest⟩ := Option.bind_eq_some_iff.1 shows
    obtain ⟨v, hv, rest⟩ := Option.bind_eq_some_iff.1 rest
    obtain ⟨es, hes, rfl⟩ := Option.map_eq_some_iff.1 rest
    rw [List.cons.sizeOf_spec, Prod.mk.sizeOf_spec]
    simp only [refsEntries, List.mem_append] at mem
    rcases mem with inKey | inEntry | others
    · obtain ⟨w, hw, size⟩ := exists_look_of_mem_refs k inKey hkey
      exact ⟨w, hw, by omega⟩
    · obtain ⟨w, hw, size⟩ := exists_look_of_mem_refs o inEntry hv
      exact ⟨w, hw, by omega⟩
    · obtain ⟨w, hw, size⟩ := exists_look_of_mem_refsEntries entries others hes
      exact ⟨w, hw, by omega⟩

end

end Object

theorem Cell.value?_eq_some_iff {look : Ref → Option Value} {c : Cell} {w : Value} :
    c.value? look = some w ↔ ∃ v f, c.value.value? look = some v ∧
      c.place.file.value? look = some f ∧ w = .located v f c.place.span := by
  unfold Cell.value?
  simp only [Option.bind_eq_some_iff, Option.map_eq_some_iff]
  constructor
  · rintro ⟨v, hv, f, hf, rfl⟩; exact ⟨v, f, hv, hf, rfl⟩
  · rintro ⟨v, f, hv, hf, rfl⟩; exact ⟨v, hv, f, hf, rfl⟩

/-- If all of one kind are of another, and some member is of the other alone, these are more. -/
theorem countP_lt_of {α : Type} {p q : α → Bool} {xs : List α} {x : α} (hx : x ∈ xs)
    (hp : p x = false) (hq : q x = true) (h : ∀ y, p y = true → q y = true) :
    xs.countP p < xs.countP q := by
  obtain ⟨before, behind, rfl⟩ := List.append_of_mem hx
  have front : before.countP p ≤ before.countP q := List.countP_mono_left fun y _ => h y
  have back : behind.countP p ≤ behind.countP q := List.countP_mono_left fun y _ => h y
  rw [List.countP_append, List.countP_append, List.countP_cons_of_pos hq,
    List.countP_cons_of_neg (by rw [hp]; exact Bool.false_ne_true)]
  omega

namespace Heap

variable {h h' : Heap} {r r' : Ref} {c : Cell} {o : Object} {v w : Value} {m n : Nat}

theorem look?_succ (h : Heap) (n : Nat) (r : Ref) :
    h.look? (n + 1) r = (h[r]?).bind (Cell.value? (h.look? n)) := rfl

theorem look?_eq_none (hr : h.length ≤ r) : h.look? n r = none := by
  cases n with
  | zero => rfl
  | succ n => rw [look?_succ, List.getElem?_eq_none hr]; rfl

theorem look?_mono_succ (shows : h.look? n r = some w) : h.look? (n + 1) r = some w := by
  induction n generalizing r w with
  | zero => cases shows
  | succ n ih =>
    rw [look?_succ] at shows ⊢
    obtain ⟨c, hc, hw⟩ := Option.bind_eq_some_iff.1 shows
    obtain ⟨v, f, hv, hf, rfl⟩ := Cell.value?_eq_some_iff.1 hw
    have payload := Object.value?_mono c.value (fun r _ _ => ih) hv
    have file := Object.value?_mono c.place.file (fun r _ _ => ih) hf
    exact Option.bind_eq_some_iff.2 ⟨c, hc, Cell.value?_eq_some_iff.2 ⟨v, f, payload, file, rfl⟩⟩

theorem look?_mono (le : m ≤ n) (shows : h.look? m r = some w) : h.look? n r = some w := by
  induction le with
  | refl => exact shows
  | step _ ih => exact look?_mono_succ ih

/-- A round that shows nothing new is followed by no other that does. -/
theorem look?_stable (same : h.look? (n + 1) = h.look? n) (le : n ≤ m) :
    h.look? m = h.look? n := by
  induction le with
  | refl => rfl
  | @step m _ ih =>
    rw [← same]
    funext r
    rw [look?_succ, look?_succ, ih]

/-- How many addresses show something after so many rounds. -/
def shown (h : Heap) (n : Nat) : Nat :=
  (List.range h.length).countP fun r => (h.look? n r).isSome

theorem shown_lt (changes : h.look? (n + 1) ≠ h.look? n) : h.shown n < h.shown (n + 1) := by
  have new : ∃ r, h.look? n r = none ∧ (h.look? (n + 1) r).isSome = true := by
    apply Classical.byContradiction
    intro none
    apply changes
    funext r
    cases before : h.look? n r with
    | some w => exact look?_mono_succ before
    | none =>
      cases after : h.look? (n + 1) r with
      | none => rfl
      | some w => exact absurd ⟨r, before, by rw [after]; rfl⟩ none
  obtain ⟨r, before, after⟩ := new
  have inside : r < h.length := by
    apply Nat.lt_of_not_le
    intro outside
    rw [look?_eq_none outside] at after
    cases after
  refine countP_lt_of (List.mem_range.2 inside) (by rw [before]; rfl) after fun r shows => ?_
  obtain ⟨w, hw⟩ := Option.isSome_iff_exists.1 shows
  exact Option.isSome_iff_exists.2 ⟨w, look?_mono_succ hw⟩

theorem le_shown (n : Nat) : (∃ m, m < n ∧ h.look? (m + 1) = h.look? m) ∨ n ≤ h.shown n := by
  induction n with
  | zero => exact .inr (Nat.zero_le _)
  | succ n ih =>
    rcases ih with ⟨m, lt, stable⟩ | le
    · exact .inl ⟨m, by omega, stable⟩
    · by_cases stable : h.look? (n + 1) = h.look? n
      · exact .inl ⟨n, by omega, stable⟩
      · have more := shown_lt stable
        exact .inr (by omega)

/-- What is shown after any number of rounds is shown after as many as there are cells. -/
theorem look?_saturates (shows : h.look? n r = some w) : h.look? h.length r = some w := by
  have bound : h.shown (h.length + 1) ≤ h.length :=
    Nat.le_trans List.countP_le_length (Nat.le_of_eq List.length_range)
  rcases le_shown (h := h) (h.length + 1) with ⟨m, lt, stable⟩ | le
  · by_cases hn : n ≤ h.length
    · exact look?_mono hn shows
    · rw [look?_stable stable (by omega), ← look?_stable (m := h.length) stable (by omega)] at shows
      exact shows
  · omega

theorem value?_of_look? (shows : o.value? (h.look? n) = some v) : h.value? o = some v :=
  Object.value?_mono o (fun _ _ _ => look?_saturates) shows

/-- The value of a located value is that of its cell. -/
theorem value?_located_eq_some_iff : h.value? (.located r) = some w ↔ ∃ c, h[r]? = some c ∧
    ∃ v f, h.value? c.value = some v ∧ h.value? c.place.file = some f ∧
      w = .located v f c.place.span := by
  change h.look? h.length r = some w ↔ _
  constructor
  · intro shows
    have later := look?_mono_succ shows
    rw [look?_succ] at later
    obtain ⟨c, hc, hw⟩ := Option.bind_eq_some_iff.1 later
    exact ⟨c, hc, Cell.value?_eq_some_iff.1 hw⟩
  · rintro ⟨c, hc, hw⟩
    have later : h.look? (h.length + 1) r = some w := by
      rw [look?_succ, hc]
      exact Cell.value?_eq_some_iff.2 hw
    exact look?_saturates later

/-- The located values that an object holds, at any depth. -/
inductive Holds (h : Heap) : Object → Ref → Prop where
  | here {o : Object} {r : Ref} : r ∈ o.refs → Holds h o r
  | inValue {o : Object} {r r' : Ref} {c : Cell} :
      r' ∈ o.refs → h[r']? = some c → Holds h c.value r → Holds h o r
  | inFile {o : Object} {r r' : Ref} {c : Cell} :
      r' ∈ o.refs → h[r']? = some c → Holds h c.place.file r → Holds h o r

/-- An object shows the same as long as the cells that it holds stay as they are. -/
theorem value?_of_kept (kept : ∀ r c, h.Holds o r → h[r]? = some c → h'[r]? = some c)
    (shows : h.value? o = some v) : h'.value? o = some v := by
  have rounds : ∀ n (o : Object) (v : Value),
      (∀ r c, h.Holds o r → h[r]? = some c → h'[r]? = some c) →
        o.value? (h.look? n) = some v → o.value? (h'.look? n) = some v := by
    intro n
    induction n with
    | zero => intro o v _ shows; exact Object.value?_mono o (fun _ _ _ none => none) shows
    | succ n ih =>
      intro o v kept shows
      refine Object.value?_mono o (fun r hr w hw => ?_) shows
      rw [look?_succ] at hw ⊢
      obtain ⟨c, hc, hw⟩ := Option.bind_eq_some_iff.1 hw
      obtain ⟨v, f, hv, hf, rfl⟩ := Cell.value?_eq_some_iff.1 hw
      have payload := ih c.value v (fun r' c' held => kept r' c' (.inValue hr hc held)) hv
      have file := ih c.place.file f (fun r' c' held => kept r' c' (.inFile hr hc held)) hf
      rw [kept r c (.here hr) hc]
      exact Cell.value?_eq_some_iff.2 ⟨v, f, payload, file, rfl⟩
  exact value?_of_look? (rounds h.length o v kept shows)

theorem getElem?_of_prefix (grown : h <+: h') (hc : h[r]? = some c) : h'[r]? = some c := by
  obtain ⟨new, rfl⟩ := grown
  exact List.getElem?_append_left (List.getElem?_eq_some_iff.1 hc).1 ▸ hc

/-- New cells change nothing that is shown. -/
theorem value?_of_prefix (grown : h <+: h') (shows : h.value? o = some v) :
    h'.value? o = some v :=
  value?_of_kept (fun _ _ _ => getElem?_of_prefix grown) shows

/-- Whatever an object holds shows a part of what the object shows. -/
theorem exists_value?_of_holds (held : h.Holds o r) (shows : h.value? o = some v) :
    ∃ w, h.value? (.located r) = some w ∧ sizeOf w ≤ sizeOf v := by
  induction held generalizing v with
  | here mem => exact Object.exists_look_of_mem_refs _ mem shows
  | inValue mem hc _ ih =>
    obtain ⟨w, hw, size⟩ := Object.exists_look_of_mem_refs _ mem shows
    obtain ⟨c', hc', v', f, hv', -, rfl⟩ := value?_located_eq_some_iff.1 hw
    obtain rfl := Option.some.inj (hc.symm.trans hc')
    obtain ⟨w', hw', size'⟩ := ih hv'
    exact ⟨w', hw', by rw [Value.located.sizeOf_spec] at size; omega⟩
  | inFile mem hc _ ih =>
    obtain ⟨w, hw, size⟩ := Object.exists_look_of_mem_refs _ mem shows
    obtain ⟨c', hc', v', f, -, hf, rfl⟩ := value?_located_eq_some_iff.1 hw
    obtain rfl := Option.some.inj (hc.symm.trans hc')
    obtain ⟨w', hw', size'⟩ := ih hf
    exact ⟨w', hw', by rw [Value.located.sizeOf_spec] at size; omega⟩

/-- A located value that shows something does not hold itself. -/
theorem not_holds_self (shows : h.value? (.located r) = some w) (hc : h[r]? = some c) :
    ¬h.Holds c.value r ∧ ¬h.Holds c.place.file r := by
  obtain ⟨c', hc', v, f, hv, hf, rfl⟩ := value?_located_eq_some_iff.1 shows
  obtain rfl := Option.some.inj (hc.symm.trans hc')
  constructor
  · intro held
    obtain ⟨w', hw', size⟩ := exists_value?_of_holds held hv
    obtain rfl := Option.some.inj (shows.symm.trans hw')
    rw [Value.located.sizeOf_spec] at size
    omega
  · intro held
    obtain ⟨w', hw', size⟩ := exists_value?_of_holds held hf
    obtain rfl := Option.some.inj (shows.symm.trans hw')
    rw [Value.located.sizeOf_spec] at size
    omega

end Heap
end Whereabouts
