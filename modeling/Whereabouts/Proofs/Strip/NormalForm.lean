import Whereabouts.Proofs.Equality.Shape

/-!
# What strip arrives at

`strip` goes through the located values around a value to what is `bare` of them, and from a
container on to its `contents`. A path of positions leads to every part that it visits. The part of
the result at the end of a path is the stripped part of the original at the end of the same path
(`part?_strip`): it is not located, and differs from the original part in its contents alone.
-/
namespace Whereabouts.Value

/-- The value inside the located values around it. -/
def bare : Value → Value
  | located value _ _ => value.bare
  | v => v

/-- The values inside a container that `strip` goes on to, in their order. -/
def contents : Value → List Value
  | list items => items
  | tuple items => items
  | table entries => entries.map Prod.snd
  | ok value => [value]
  | err error => [error]
  | _ => []

/-- The part of a value at the end of a path. The path counts contents, and passes through located
values on its way. -/
def part? : Value → List Nat → Option Value
  | v, [] => some v
  | v, i :: path => v.bare.contents[i]?.bind fun u => u.part? path

/-- `strip` finds no located value on any path. -/
def Unlocated (v : Value) : Prop := ∀ path part, v.part? path = some part → part.kind ≠ .located

/-- What a container is without its contents, or the whole of a value that is none. -/
inductive Layer where
  | list (length : Nat)
  | tuple (length : Nat)
  | table (keys : List Value)
  | ok
  | err
  | whole (v : Value)

def layer : Value → Layer
  | list items => .list items.length
  | tuple items => .tuple items.length
  | table entries => .table (entries.map Prod.fst)
  | ok _ => .ok
  | err _ => .err
  | v => .whole v

variable {v : Value}

theorem bare_of_kind (h : v.kind ≠ .located) : v.bare = v := by
  cases v with
  | located => exact absurd rfl h
  | _ => rfl

theorem kind_bare (v : Value) : v.bare.kind ≠ .located := by
  induction v using bare.induct with
  | case1 value file s ih =>
    rw [bare]
    exact ih
  | case2 v other =>
    have h : v.kind ≠ .located := by
      cases v with
      | located => exact absurd rfl (other _ _ _)
      | _ => simp only [kind, ne_eq, reduceCtorEq, not_false_eq_true]
    rw [bare_of_kind h]
    exact h

theorem strip_bare (v : Value) : v.bare.strip = v.strip := by
  induction v using bare.induct with
  | case1 value file s ih => rw [bare, strip, ih]
  | case2 v other =>
    rw [bare]
    exact other

theorem kind_strip_of_kind (h : v.kind ≠ .located) : v.strip.kind = v.kind := by
  cases v with
  | located => exact absurd rfl h
  | _ => simp only [strip, kind]

theorem layer_strip_of_kind (h : v.kind ≠ .located) : v.strip.layer = v.layer := by
  cases v with
  | located => exact absurd rfl h
  | list items | tuple items => simp only [strip, layer, stripAll_eq_map, List.length_map]
  | table entries =>
    simp only [strip, layer, stripEntries_eq_map, List.map_map]
    rfl
  | _ => simp only [strip, layer]

theorem contents_strip_of_kind (h : v.kind ≠ .located) :
    v.strip.contents = v.contents.map strip := by
  cases v with
  | located => exact absurd rfl h
  | list items | tuple items => simp only [strip, contents, stripAll_eq_map]
  | table entries =>
    simp only [strip, contents, stripEntries_eq_map, List.map_map]
    rfl
  | ok value | err error => simp only [strip, contents, List.map_cons, List.map_nil]
  | _ => simp only [strip, contents, List.map_nil]

theorem kind_strip (v : Value) : v.strip.kind ≠ .located := by
  rw [← strip_bare, kind_strip_of_kind (kind_bare v)]
  exact kind_bare v

theorem layer_strip (v : Value) : v.strip.layer = v.bare.layer := by
  rw [← strip_bare, layer_strip_of_kind (kind_bare v)]

theorem contents_strip (v : Value) : v.strip.contents = v.bare.contents.map strip := by
  rw [← strip_bare, contents_strip_of_kind (kind_bare v)]

/-- A value of which one layer is left as it is. -/
theorem strip_eq_self (h : v.kind ≠ .located) (same : ∀ u ∈ v.contents, u.strip = u) :
    v.strip = v := by
  cases v with
  | located => exact absurd rfl h
  | list items | tuple items =>
    have item : ∀ u ∈ items, u.strip = u := same
    rw [strip, stripAll_eq_map, List.map_congr_left item, List.map_id']
  | table entries =>
    have entry : ∀ e ∈ entries, (e.1, e.2.strip) = e := by
      intro e he
      rw [same e.2 (List.mem_map.2 ⟨e, he, rfl⟩)]
    rw [strip, stripEntries_eq_map, List.map_congr_left entry, List.map_id']
  | ok value => rw [strip, same value (List.mem_singleton.2 rfl)]
  | err error => rw [strip, same error (List.mem_singleton.2 rfl)]
  | _ => simp only [strip]

theorem sizeOf_lt_of_mem_contents {u : Value} (h : u ∈ v.contents) : sizeOf u < sizeOf v := by
  cases v with
  | list items | tuple items | ok value | err error => exact sizeOf_part_lt rfl h
  | table entries =>
    obtain ⟨e, he, rfl⟩ := List.mem_map.1 h
    exact (sizeOf_entry_lt rfl he).2
  | _ => cases h

/-- A property that keeps out located values and passes on to contents holds only of values that
`strip` leaves as they are. -/
theorem strip_of_invariant {P : Value → Prop} (kind : ∀ v, P v → v.kind ≠ .located)
    (contents : ∀ v, P v → ∀ u ∈ v.contents, P u) (v : Value) (h : P v) : v.strip = v :=
  strip_eq_self (kind v h) fun u hu =>
    have := sizeOf_lt_of_mem_contents hu
    strip_of_invariant kind contents u (contents v h u hu)
termination_by sizeOf v

theorem part?_strip (v : Value) (path : List Nat) :
    v.strip.part? path = (v.part? path).map strip := by
  induction path generalizing v with
  | nil => rw [part?, part?, Option.map_some]
  | cons i path ih =>
    have outside : v.strip.bare = v.strip := bare_of_kind (kind_strip v)
    rw [part?, part?, outside, contents_strip, List.getElem?_map, Option.bind_map,
      Option.map_bind]
    congr 1
    funext u
    exact ih u

theorem unlocated_strip (v : Value) : v.strip.Unlocated := by
  intro path part h
  rw [part?_strip, Option.map_eq_some_iff] at h
  obtain ⟨u, -, rfl⟩ := h
  exact kind_strip u

theorem Unlocated.kind_ne (h : v.Unlocated) : v.kind ≠ .located := h [] v rfl

theorem Unlocated.of_mem_contents (h : v.Unlocated) {u : Value} (hu : u ∈ v.contents) :
    u.Unlocated := by
  obtain ⟨i, hi⟩ := List.mem_iff_getElem?.1 hu
  intro path part found
  apply h (i :: path) part
  rw [part?, bare_of_kind h.kind_ne, hi]
  exact found

theorem strip_eq_self_iff : v.strip = v ↔ v.Unlocated := by
  constructor
  · intro h
    rw [← h]
    exact unlocated_strip v
  · exact strip_of_invariant (fun _ => Unlocated.kind_ne) (fun _ h _ => h.of_mem_contents) v

/-- **One pass of strip reaches a normal form.** No located value is left where `strip` looks for
one, a second pass changes nothing, and the first one changes nothing exactly if there was none to
begin with. The same paths lead through a value and through its stripped form. At their ends are, up
to the located values around them, containers of one kind, length and list of keys, or the same
undivided value. -/
theorem strip_normal_form (v : Value) :
    v.strip.Unlocated ∧ v.strip.strip = v.strip ∧ (v.strip = v ↔ v.Unlocated) ∧
      ∀ path, (v.strip.part? path).map layer = (v.part? path).map fun part => part.bare.layer := by
  refine ⟨unlocated_strip v, strip_eq_self_iff.2 (unlocated_strip v), strip_eq_self_iff, ?_⟩
  intro path
  rw [part?_strip, Option.map_map]
  congr 1
  funext part
  exact layer_strip part

end Whereabouts.Value
