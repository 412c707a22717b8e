import Whereabouts.Value.Stripped

/-!
# Equality of values

Two values are equal when they have the same kind and equal parts, with these exceptions. Truth
values, integers and floating-point numbers are equal as numbers, with true as one. A label style
equals its text. Tables are compared without regard to order, ranges as sequences, and wrapped
values by what is left of them without locations.

`Value.same` is that relation on settled values, and `==` is `same` after settling.
-/
namespace Whereabouts

/-- What an undivided value is compared by. -/
inductive Atom where
  | absent
  | number (q : Rat)
  | text (s : String)
  | bytes (content : List UInt8)
  | sequence (outline : Progression.Outline)
  | span (s : Span)
deriving DecidableEq

namespace Value

/-- The atom of a value that has no other values inside, or `none` if it has. -/
def atom? : Value → Option Atom
  | absent => some .absent
  | bool b => some (.number (if b then 1 else 0))
  | int n => some (.number n)
  | float x => some (.number x.value)
  | text s => some (.text s)
  | style s => some (.text s.text)
  | bytes content => some (.bytes content)
  | range p => some (.sequence p.outline)
  | span s => some (.span s)
  | _ => none

mutual

/-- Equality of settled values. -/
def same : Value → Value → Bool
  | list vs, list ws => sameAll vs ws
  | tuple vs, tuple ws => sameAll vs ws
  | table es, table gs => es.length == gs.length && sameEntries es gs
  | location file s, location file' s' => file.same file' && s == s'
  | located value file s, located value' file' s' =>
    value.same value' && (file.same file' && s == s')
  | ok value, ok value' => value.same value'
  | err error, err error' => error.same error'
  | stripped value, stripped value' => value.same value'
  | label role file s message, label role' file' s' message' =>
    role == role' && (file.same file' && (s == s' && message == message'))
  | v, w => v.atom?.isSome && v.atom? == w.atom?

def sameAll : List Value → List Value → Bool
  | [], [] => true
  | v :: vs, w :: ws => v.same w && sameAll vs ws
  | _, _ => false

/-- Whether every entry of the first list is found in the second. -/
def sameEntries : List (Value × Value) → List (Value × Value) → Bool
  | [], _ => true
  | (k, v) :: es, gs => gs.any (fun g => k.same g.1 && v.same g.2) && sameEntries es gs

end

instance : BEq Value where
  beq v w := v.settled.same w.settled

/-- Equality of values that leaves every location out of account. -/
def strippedEq (v w : Value) : Bool := v.strip == w.strip

end Value
end Whereabouts
