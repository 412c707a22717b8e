import Whereabouts.Located.Basic

namespace Whereabouts.Optional

def toValue : Option Located → Value
  | none => .absent
  | some m => m.toValue

def ofValue? : Value → Option (Option Located)
  | .absent => some none
  | v => (Located.ofValue? v).map some

/-- Locates a value that is present. Only an absent value counts as absent: zero, false and empty
containers are present. -/
def locate? : Value → Location → Option Located
  | .absent, _ => none
  | v, l => some ⟨v, l⟩

/-- The payload, absent if there is no located value. -/
def strip : Option Located → Value
  | none => .absent
  | some m => m.value

/-- The payload and the location. -/
def split : Option Located → Value × Option Location
  | none => (.absent, none)
  | some m => (m.value, some m.location)

/-- A located optional value out of an optional located one. The location of an absent value is
asked for only if it is needed. -/
def toLocated (o : Option Located) (whenAbsent : Outcome Location) : Outcome Located :=
  match o with
  | none => return ⟨.absent, ← whenAbsent⟩
  | some m => pure m

end Whereabouts.Optional
