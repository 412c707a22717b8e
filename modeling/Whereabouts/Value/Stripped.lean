import Whereabouts.Value.Basic

/-!
# Values without their locations

`Value.strip` replaces every located value by its payload, through lists, tuples, the values of a
table and results. It stops at everything else: a location, a label, a wrapped value and the keys
of a table are left as they are.

A wrapped value is compared by what `strip` leaves of its payload. `Value.settled` carries that
out ahead of the comparison, for every wrapper inside a value, wherever it stands. On settled
values equality, order and hashing only follow the structure.
-/
namespace Whereabouts.Value

mutual

/-- The value with every located value that can be reached replaced by its payload. -/
def strip : Value → Value
  | located value _ _ => value.strip
  | list items => list (stripAll items)
  | tuple items => tuple (stripAll items)
  | table entries => table (stripEntries entries)
  | ok value => ok value.strip
  | err error => err error.strip
  | v => v

def stripAll : List Value → List Value
  | [] => []
  | v :: vs => v.strip :: stripAll vs

def stripEntries : List (Value × Value) → List (Value × Value)
  | [] => []
  | (k, v) :: entries => (k, v.strip) :: stripEntries entries

end

mutual

/-- The value with the payload of every wrapper inside it stripped. -/
def settled : Value → Value
  | list items => list (settledAll items)
  | tuple items => tuple (settledAll items)
  | table entries => table (settledEntries entries)
  | location file s => location file.settled s
  | located value file s => located value.settled file.settled s
  | ok value => ok value.settled
  | err error => err error.settled
  | stripped value => stripped value.settled.strip
  | label role file s message => label role file.settled s message
  | v => v

def settledAll : List Value → List Value
  | [] => []
  | v :: vs => v.settled :: settledAll vs

def settledEntries : List (Value × Value) → List (Value × Value)
  | [] => []
  | (k, v) :: entries => (k.settled, v.settled) :: settledEntries entries

end

theorem stripAll_eq_map (items : List Value) : stripAll items = items.map strip := by
  induction items with
  | nil => simp [stripAll]
  | cons v vs ih => simp [stripAll, ih]

theorem stripEntries_eq_map (entries : List (Value × Value)) :
    stripEntries entries = entries.map fun e => (e.1, e.2.strip) := by
  induction entries with
  | nil => simp [stripEntries]
  | cons e es ih => simp [stripEntries, ih]

theorem settledAll_eq_map (items : List Value) : settledAll items = items.map settled := by
  induction items with
  | nil => simp [settledAll]
  | cons v vs ih => simp [settledAll, ih]

theorem settledEntries_eq_map (entries : List (Value × Value)) :
    settledEntries entries = entries.map fun e => (e.1.settled, e.2.settled) := by
  induction entries with
  | nil => simp [settledEntries]
  | cons e es ih => simp [settledEntries, ih]

mutual

/-- Stripping and settling do not disturb each other. -/
theorem settled_strip : ∀ v : Value, v.strip.settled = v.settled.strip
  | located value _ _ => by simp [strip, settled, settled_strip value]
  | list items => by simp [strip, settled, settledAll_stripAll items]
  | tuple items => by simp [strip, settled, settledAll_stripAll items]
  | table entries => by simp [strip, settled, settledEntries_stripEntries entries]
  | ok value => by simp [strip, settled, settled_strip value]
  | err error => by simp [strip, settled, settled_strip error]
  | absent | bool _ | int _ | float _ | text _ | bytes _ | range _ | span _ | location ..
  | stripped _ | style _ | label .. => by simp [strip, settled]

theorem settledAll_stripAll :
    ∀ items : List Value, settledAll (stripAll items) = stripAll (settledAll items)
  | [] => by simp [stripAll, settledAll]
  | v :: vs => by simp [stripAll, settledAll, settled_strip v, settledAll_stripAll vs]

theorem settledEntries_stripEntries : ∀ entries : List (Value × Value),
    settledEntries (stripEntries entries) = stripEntries (settledEntries entries)
  | [] => by simp [stripEntries, settledEntries]
  | (k, v) :: entries => by
    simp [stripEntries, settledEntries, settled_strip v, settledEntries_stripEntries entries]

end

end Whereabouts.Value
