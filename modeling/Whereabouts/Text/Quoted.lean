import Whereabouts.Text.Printable

namespace Whereabouts.Text

/-- The last `width` hexadecimal digits of `n`, most significant first. -/
def hexDigits (width n : Nat) : List Char :=
  (List.range width).reverse.map fun i => Nat.digitChar ((n >>> (4 * i)) % 16)

def apostrophe : Char := '\x27'

/-- The quote that a text is put between: an apostrophe, or a double quote if the text holds an
apostrophe and no double quote. -/
def quoteFor (cs : List Char) : Char :=
  if cs.contains apostrophe && !cs.contains '"' then '"' else apostrophe

/-- A character that is not shown as itself, by its code point in two, four or eight digits. -/
def codePoint (c : Char) : List Char :=
  if c.toNat < 0x100 then '\\' :: 'x' :: hexDigits 2 c.toNat
  else if c.toNat < 0x10000 then '\\' :: 'u' :: hexDigits 4 c.toNat
  else '\\' :: 'U' :: hexDigits 8 c.toNat

/-- How one character is written between two quotes. -/
def escape (quote : Char) (isPlain : Char → Bool) (c : Char) : List Char :=
  if c = quote ∨ c = '\\' then ['\\', c]
  else if c = '\t' then ['\\', 't']
  else if c = '\n' then ['\\', 'n']
  else if c = '\r' then ['\\', 'r']
  else if isPlain c then [c]
  else codePoint c

/-- Characters between quotes. Which of them are shown as themselves is a parameter, since some
characters stand for bytes. -/
def quotedWith (isPlain : Char → Bool) (cs : List Char) : String :=
  let quote := quoteFor cs
  String.ofList (quote :: cs.flatMap (escape quote isPlain) ++ [quote])

/-- A text between quotes. -/
def quoted (s : String) : String := quotedWith isPrintable s.toList

/-- Bytes between quotes, marked by a leading `b`. A byte outside printable ASCII is escaped. -/
def quotedBytes (bytes : List UInt8) : String :=
  "b" ++ quotedWith (fun c => decide (0x20 ≤ c.toNat) && decide (c.toNat < 0x7f))
    (bytes.map fun b => Char.ofNat b.toNat)

end Whereabouts.Text
