namespace Whereabouts

/-- A finite floating-point number, by the decimal text that identifies it. Numbers are compared by
`value`, so that a number and an integer compare without rounding. -/
structure Floating where
  text : String
deriving DecidableEq, Repr

namespace Floating

/-- The number that a row of decimal digits stands for. -/
def digits (cs : List Char) : Nat :=
  cs.foldl (fun n c => 10 * n + (c.toNat - '0'.toNat)) 0

/-- A decimal with its sign taken off: the digits as one number, and the power of ten it is
multiplied by. -/
def unsignedDecimal (cs : List Char) : Nat × Int :=
  let isPoint := fun c : Char => c != '.'
  let isMark := fun c : Char => c != 'e'
  let mantissa := cs.takeWhile isMark
  let exponent :=
    match (cs.dropWhile isMark).drop 1 with
    | '-' :: ds => -(digits ds : Int)
    | '+' :: ds => digits ds
    | ds => digits ds
  let whole := mantissa.takeWhile isPoint
  let fraction := (mantissa.dropWhile isPoint).drop 1
  (digits (whole ++ fraction), exponent - fraction.length)

/-- The value of a finite 64-bit number, given by its bits without the sign: a fraction of 52 bits
under an exponent, with a leading one unless the exponent is zero. -/
def ofMagnitude (bits : Nat) : Rat :=
  let exponent : Nat := bits >>> 52
  let fraction : Nat := bits % (1 <<< 52)
  let significand : Nat := (1 <<< 52) + fraction
  if exponent = 0 then mkRat fraction (1 <<< 1074)
  else if exponent < 1075 then mkRat significand (1 <<< (1075 - exponent))
  else mkRat (significand <<< (exponent - 1075) : Nat) 1

/-- The value of a decimal without sign, rounded to the nearest 64-bit number. -/
def magnitude (cs : List Char) : Rat :=
  let (mantissa, exponent) := unsignedDecimal cs
  let rounded := Float.ofScientific mantissa (decide (exponent < 0)) exponent.natAbs
  ofMagnitude rounded.toBits.toNat

/-- The exact rational that the text stands for: the nearest multiple of a power of two that a
64-bit number can hold. -/
def value (x : Floating) : Rat :=
  match x.text.toList with
  | '-' :: cs => -magnitude cs
  | cs => magnitude cs

end Floating
end Whereabouts
