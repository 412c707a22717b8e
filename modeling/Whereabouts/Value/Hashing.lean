import Whereabouts.Value.Equality

/-!
# Which values can be keys

A list, a table or a located value can not be a key, and no value can that has one of these where
its key is formed: in a tuple, in the file of a location or label, in a result, or in what is left
of a wrapped value without locations.

A `Hasher` gives every key a number, made from numbers for what stands in it. `Value.firsts` keeps
of equal values the first.
-/
namespace Whereabouts

/-- How the hashes of undivided parts are made, and how the hash of a row is made from the hashes
of its items. Any function will do for either. -/
structure Hasher where
  absent : Int
  number : Rat → Int
  text : String → Int
  bytes : List UInt8 → Int
  tuple : List Int → Int

namespace Hasher

def missing (H : Hasher) (n : Option Int) : Int :=
  match n with
  | some n => H.number n
  | none => H.absent

/-- A progression is hashed by what it shows as a sequence, a span by its two bounds. -/
def atom (H : Hasher) : Atom → Int
  | .absent => H.absent
  | .number q => H.number q
  | .text s => H.text s
  | .bytes content => H.bytes content
  | .sequence outline =>
    H.tuple [H.number outline.count, H.missing outline.first, H.missing outline.step]
  | .span s => H.tuple [H.number s.start, H.number s.stop]

mutual

/-- The hash of a settled value, or the kind of the first part that has none. A wrapper has the
hash of its payload. -/
def ofSettled (H : Hasher) : Value → Except Kind Int
  | .tuple items => (H.ofItems items).map H.tuple
  | .location file s => (H.ofSettled file).map fun h => H.tuple [h, H.atom (.span s)]
  | .ok value => (H.ofSettled value).map fun h => H.tuple [h]
  | .err error => (H.ofSettled error).map fun h => H.tuple [h]
  | .stripped value => H.ofSettled value
  | .label role file s message => (H.ofSettled file).map fun h =>
    H.tuple [H.text role.text, h, H.number s.start, H.number s.stop, H.text message]
  | v =>
    match v.atom? with
    | some a => .ok (H.atom a)
    | none => .error v.kind

def ofItems (H : Hasher) : List Value → Except Kind (List Int)
  | [] => .ok []
  | v :: vs => (H.ofSettled v).bind fun h => (H.ofItems vs).map fun hs => h :: hs

end

/-- The hash of a value, or the kind of the part that keeps it from having one. -/
def hash (H : Hasher) (v : Value) : Except Kind Int := H.ofSettled v.settled

/-- A hasher that tells little apart. What is kept of a list does not hang on it. -/
def coarse : Hasher where
  absent := 0
  number q := q.num
  text s := s.length
  bytes content := content.length
  tuple hashes := hashes.foldl (fun h n => 31 * h + n) 1

end Hasher

namespace Value

mutual

/-- The kind of the first part, from left to right, that keeps a settled value from being a key. -/
def unhashablePart? : Value → Option Kind
  | list _ => some .list
  | table _ => some .table
  | located .. => some .located
  | tuple items => unhashableItem? items
  | location file _ => file.unhashablePart?
  | ok value => value.unhashablePart?
  | err error => error.unhashablePart?
  | stripped value => value.unhashablePart?
  | label _ file _ _ => file.unhashablePart?
  | _ => none

def unhashableItem? : List Value → Option Kind
  | [] => none
  | v :: vs =>
    match v.unhashablePart? with
    | some kind => some kind
    | none => unhashableItem? vs

end

/-- The kind that keeps the value from being a key, if anything does. -/
def unhashable? (v : Value) : Option Kind := v.settled.unhashablePart?

def isHashable (v : Value) : Bool := v.unhashable?.isNone

/-- The members of the list that equal no earlier one. -/
def firsts : List Value → List Value
  | [] => []
  | v :: vs => v :: (firsts vs).filter fun w => !(v == w)

end Value
end Whereabouts
