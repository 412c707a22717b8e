import Whereabouts.Text.Quoted
import Whereabouts.Value.Basic

namespace Whereabouts

def Span.debug (s : Span) : String :=
  "Span(start=" ++ toString s.start ++ ", end=" ++ toString s.stop ++ ")"

/-- A progression with step one leaves the step out. -/
def Progression.debug (p : Progression) : String :=
  "range(" ++ toString p.start ++ ", " ++ toString p.stop ++
    (if p.step = 1 then "" else ", " ++ toString p.step) ++ ")"

namespace Label.Style

def display : Style → String
  | primary => "LabelStyle.PRIMARY"
  | secondary => "LabelStyle.SECONDARY"

def debug (style : Style) : String :=
  "<" ++ style.display ++ ": " ++ Text.quoted style.text ++ ">"

end Label.Style

/-- Items in parentheses. A single item keeps a comma, so that it is not a bracketed value. -/
def tupleText : List String → String
  | [item] => "(" ++ item ++ ",)"
  | items => "(" ++ ", ".intercalate items ++ ")"

namespace Value

mutual

/-- The structure of a value: texts are quoted and every part is named. -/
def debug : Value → String
  | absent => "None"
  | bool b => if b then "True" else "False"
  | int n => toString n
  | float x => x.text
  | text s => Text.quoted s
  | bytes content => Text.quotedBytes content
  | list items => "[" ++ ", ".intercalate (debugAll items) ++ "]"
  | tuple items => tupleText (debugAll items)
  | table entries => "\x7b" ++ ", ".intercalate (debugEntries entries) ++ "\x7d"
  | range p => p.debug
  | span s => s.debug
  | location file s => "Location(file=" ++ file.debug ++ ", span=" ++ s.debug ++ ")"
  | located value file s =>
    "Loc(value=" ++ value.debug ++ ", location=Location(file=" ++ file.debug ++ ", span=" ++
      s.debug ++ "))"
  | ok value => "Ok(value=" ++ value.debug ++ ")"
  | err error => "Err(error=" ++ error.debug ++ ")"
  | stripped value => "Stripped(value=" ++ value.debug ++ ")"
  | style s => s.debug
  | label role file s message =>
    "Label(style=" ++ role.debug ++ ", file=" ++ file.debug ++ ", start=" ++ toString s.start ++
      ", end=" ++ toString s.stop ++ ", message=" ++ Text.quoted message ++ ")"

def debugAll : List Value → List String
  | [] => []
  | v :: vs => v.debug :: debugAll vs

def debugEntries : List (Value × Value) → List String
  | [] => []
  | (k, v) :: entries => (k.debug ++ ": " ++ v.debug) :: debugEntries entries

end

/-- The text of a value for readers: a text is itself, a position is `file@start..stop`, a located
value is shown as its payload, and whatever has no text of its own by its structure. -/
def display : Value → String
  | text s => s
  | span s => s.format
  | location file s => file.display ++ "@" ++ s.format
  | located value _ _ => value.display
  | style s => s.display
  | v => v.debug

end Value
end Whereabouts
