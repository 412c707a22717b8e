import Whereabouts.Span.Conversion

namespace Whereabouts

namespace Location

/-- The location at the span that a value stands for. -/
def ofParts (file spanLike : Value) : Outcome Location := do
  return ⟨file, ← spanLike.toSpan⟩

def withFile (l : Location) (file : Value) : Location := { l with file }

/-- Moves the location to the span that a value stands for. The value is converted first; the
location is then made of its parts like any other. -/
def withSpan (l : Location) (spanLike : Value) : Outcome Location := do
  ofParts l.file (.span (← spanLike.toSpan))

/-- Grows the span to cover the one that a value stands for. -/
def extend (l : Location) (spanLike : Value) : Outcome Location := do
  ofParts l.file (.span (l.span.union (← spanLike.toSpan)))

def withStop (l : Location) (stop : Int) : Location := { l with span := l.span.withStop stop }

def mapFile (l : Location) (f : Value → Outcome Value) : Outcome Location := do
  return l.withFile (← f l.file)

/-- Fails unless both locations are in one file. -/
def requireSameFile (a b : Location) (operation : String) : Outcome Unit :=
  if a.file != b.file then
    let mismatch := { left := a.file, right := b.file, operation }
    .failAfter (.crossFile mismatch) (.crossFile mismatch)
  else pure ()

/-- The least location that covers both, in the file of the first. -/
def union (a b : Location) : Outcome Location := do
  a.requireSameFile b "union"
  return { a with span := a.span.union b.span }

def covers (a b : Location) : Outcome Bool := do
  a.requireSameFile b "contains"
  return a.span.covers b.span

/-- Asked of any two locations, as is what they have in common: nothing in different files. -/
def overlaps (a b : Location) : Bool := a.sameFile b && a.span.overlaps b.span

def intersection? (a b : Location) : Option Location :=
  if a.sameFile b then (a.span.intersection? b.span).map fun span => { a with span } else none

end Location

namespace Value

/-- The union of two spans or two locations. The unions of other kinds, of two integers or two
tables, are left out and fault like any other pair. -/
def union : Value → Value → Outcome Value
  | span s, span t => pure (.span (s.union t))
  | location file s, location file' s' =>
    return (← Location.union ⟨file, s⟩ ⟨file', s'⟩).toValue
  | v, w => .fail (.unsupported "|" v.kind w.kind)

/-- The intersection of two spans, absent if they have no common offset. That of two integers is
left out. -/
def intersection : Value → Value → Outcome Value
  | span s, span t =>
    pure (match s.intersection? t with
      | some u => .span u
      | none => .absent)
  | v, w => .fail (.unsupported "&" v.kind w.kind)

end Value
end Whereabouts
