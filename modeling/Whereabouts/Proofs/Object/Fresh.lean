import Whereabouts.Proofs.Object.Collections

namespace Whereabouts

variable {α β : Type} {n : Nat} {h : Heap} {r : Ref} {c : Cell} {o : Object}

/-- The cells from `n` on refer to cells from `n` on alone. -/
def Heap.ClosedAbove (n : Nat) (h : Heap) : Prop :=
  ∀ i c, n ≤ i → h[i]? = some c → ∀ r ∈ c.value.refs ++ c.place.file.refs, n ≤ r

theorem Heap.ClosedAbove.append (closed : h.ClosedAbove n)
    (new : ∀ r ∈ c.value.refs ++ c.place.file.refs, n ≤ r) : Heap.ClosedAbove n (h ++ [c]) := by
  intro i d above hd
  by_cases inside : i < h.length
  · rw [List.getElem?_append_left inside] at hd
    exact closed i d above hd
  · rw [List.getElem?_append_right (Nat.le_of_not_lt inside)] at hd
    obtain rfl := List.mem_singleton.1 (List.mem_of_getElem? hd)
    exact new

/-- What refers to such cells alone holds nothing else. -/
theorem Heap.ClosedAbove.le_of_holds (closed : h.ClosedAbove n) (held : h.Holds o r)
    (above : ∀ r ∈ o.refs, n ≤ r) : n ≤ r := by
  induction held with
  | here mem => exact above _ mem
  | inValue mem hc _ ih =>
    exact ih fun r inside => closed _ _ (above _ mem) hc r (List.mem_append_left _ inside)
  | inFile mem hc _ ih =>
    exact ih fun r inside => closed _ _ (above _ mem) hc r (List.mem_append_right _ inside)

/-- What a computation stores refers to cells from `n` on alone, and so does its result. -/
def StoresAbove (n : Nat) (parts : α → List Ref) (x : Changing Heap α) : Prop :=
  ∀ h : Heap, n ≤ h.length → h.ClosedAbove n → n ≤ (x h).2.length ∧ (x h).2.ClosedAbove n ∧
    (x h).1.Ensures fun a => ∀ r ∈ parts a, n ≤ r

variable {parts : α → List Ref} {parts' : β → List Ref} {x : Changing Heap α}
  {f : α → Changing Heap β}

theorem storesAbove_pure {a : α} (above : ∀ r ∈ parts a, n ≤ r) :
    StoresAbove n parts (pure a : Changing Heap α) :=
  fun _ le closed => ⟨le, closed, Outcome.ensures_pure above⟩

theorem storesAbove_alloc (above : ∀ r ∈ c.value.refs ++ c.place.file.refs, n ≤ r) :
    StoresAbove n Object.refs c.alloc := by
  intro h le closed
  refine ⟨?_, closed.append above, Outcome.ensures_pure fun r mem => ?_⟩
  · exact Nat.le_trans le (List.prefix_append h [c]).length_le
  · obtain rfl := List.mem_singleton.1 mem
    exact le

theorem StoresAbove.bind (hx : StoresAbove n parts x)
    (hf : ∀ a, (∀ r ∈ parts a, n ≤ r) → StoresAbove n parts' (f a)) :
    StoresAbove n parts' (x >>= f) := by
  intro h le closed
  obtain ⟨le', closed', above⟩ := hx h le closed
  cases ended : (x h).1.result with
  | error fault =>
    rw [Changing.bind_of_error ended]
    exact ⟨le', closed', fun _ refused => by cases refused⟩
  | ok a =>
    rw [Changing.bind_of_ok ended]
    exact hf a (above a ended) (x h).2 le' closed'

theorem StoresAbove.map (hx : StoresAbove n parts x) {g : α → β}
    (same : ∀ a, parts' (g a) = parts a) :
    StoresAbove n parts' (x >>= fun a => pure (g a)) :=
  hx.bind fun a above => storesAbove_pure (by rw [same]; exact above)

namespace Object

mutual

/-- The cells that `ofValue` stores refer to one another alone. -/
theorem storesAbove_ofValue (n : Nat) : ∀ v : Value, StoresAbove n refs (ofValue v)
  | .list items => (storesAbove_ofValues n items).map fun _ => rfl
  | .tuple items => (storesAbove_ofValues n items).map fun _ => rfl
  | .table entries => (storesAbove_ofEntries n entries).map fun _ => rfl
  | .location file _ => (storesAbove_ofValue n file).map fun _ => rfl
  | .ok value => (storesAbove_ofValue n value).map fun _ => rfl
  | .err error => (storesAbove_ofValue n error).map fun _ => rfl
  | .stripped value => (storesAbove_ofValue n value).map fun _ => rfl
  | .label _ file _ _ => (storesAbove_ofValue n file).map fun _ => rfl
  | .located value file _ =>
    (storesAbove_ofValue n value).bind fun _ inValue =>
      (storesAbove_ofValue n file).bind fun _ inFile => storesAbove_alloc fun r mem =>
        (List.mem_append.1 mem).elim (inValue r) (inFile r)
  | .absent | .bool _ | .int _ | .float _ | .text _ | .bytes _ | .range _ | .span _ | .style _ =>
    storesAbove_pure fun r mem => by cases mem

theorem storesAbove_ofValues (n : Nat) : ∀ vs : List Value, StoresAbove n refsAll (ofValues vs)
  | [] => storesAbove_pure fun r mem => by cases mem
  | v :: vs => (storesAbove_ofValue n v).bind fun _ first =>
    (storesAbove_ofValues n vs).bind fun _ others => storesAbove_pure fun r mem =>
      (List.mem_append.1 mem).elim (first r) (others r)

theorem storesAbove_ofEntries (n : Nat) :
    ∀ es : List (Value × Value), StoresAbove n refsEntries (ofEntries es)
  | [] => storesAbove_pure fun r mem => by cases mem
  | (k, v) :: es => (storesAbove_ofValue n k).bind fun _ inKey =>
    (storesAbove_ofValue n v).bind fun _ inEntry =>
      (storesAbove_ofEntries n es).bind fun _ others => storesAbove_pure fun r mem =>
        (List.mem_append.1 mem).elim (inKey r) fun rest =>
          (List.mem_append.1 rest).elim (inEntry r) (others r)

end

/-- The object of a value holds nothing that was there before. -/
theorem exists_ofValue (h : Heap) (v : Value) : ∃ o, ∃ now : Heap, ofValue v h = (pure o, now) ∧
    h <+: now ∧ now.Shows o v ∧ ∀ r, r < h.length → ¬now.Holds o r := by
  have agrees := agrees_ofValue v h
  obtain ⟨o, made, shows⟩ := agrees.exists_eq
  have nothing : h.ClosedAbove h.length := fun i c above hc =>
    absurd (List.getElem?_eq_some_iff.1 hc).1 (Nat.not_lt.2 above)
  obtain ⟨-, closed, above⟩ := storesAbove_ofValue h.length v h (Nat.le_refl _) nothing
  refine ⟨o, _, made, agrees.grown, shows, fun r old held => ?_⟩
  have new := closed.le_of_holds held (above o (by rw [made]; rfl))
  exact absurd old (Nat.not_lt.2 new)

end Object
end Whereabouts
