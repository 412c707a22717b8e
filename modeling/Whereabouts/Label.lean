import Whereabouts.Outcome

namespace Whereabouts

/-- A location that is marked in a diagnostic, with a style and a message that may be empty. -/
structure Label where
  style : Label.Style
  file : Value
  span : Span
  message : String := ""
deriving Repr

namespace Label

def toValue (l : Label) : Value := .label l.style l.file l.span l.message

def ofValue? : Value → Option Label
  | .label style file span message => some ⟨style, file, span, message⟩
  | _ => none

@[simp] theorem ofValue?_toValue (l : Label) : ofValue? l.toValue = some l := rfl

def ofLocation (style : Style) (l : Location) (message : String) : Label :=
  ⟨style, l.file, l.span, message⟩

def location (l : Label) : Location := ⟨l.file, l.span⟩

@[simp] theorem location_ofLocation (style : Style) (l : Location) (message : String) :
    (ofLocation style l message).location = l := rfl

def withMessage (l : Label) (message : String) : Label := { l with message }

/-- The line of a diagnostic: style and position, and the message if there is one. -/
def format (l : Label) : String :=
  l.style.text ++ ": " ++ l.location.format ++
    (if l.message = "" then "" else ": " ++ l.message)

/-- The style that a value names, by its text or by itself. -/
def Style.ofValue (v : Value) : Outcome Style :=
  match v with
  | .style style => pure style
  | .text s =>
    match ofText? s with
    | some style => pure style
    | none => .fail (.notStyle v)
  | _ => .fail (.notStyle v)

end Label
end Whereabouts
