import Whereabouts.Outcome

namespace Whereabouts

/-- The bounds of a span as a pair. -/
def Span.pair (s : Span) : Value := .tuple [.int s.start, .int s.stop]

/-- The span of a range, if its step is one. -/
def Progression.toSpan (p : Progression) : Outcome Span :=
  match p.span? with
  | some s => pure s
  | none => .fail (.steppedRange p.step)

namespace Value

/-- The span that a value stands for: a span for itself, a range with step one for the span with its
bounds, an integer for the empty span at that offset, and a pair of integers for the span between
them. A truth value is no integer here. Everything else is refused, with an event. -/
def toSpan : Value → Outcome Span
  | span s => pure s
  | range p => p.toSpan
  | int n => pure (.point n)
  | tuple [int start, int stop] => pure ⟨start, stop⟩
  | v => .failAfter (.rejected v) (.notSpanLike v)

end Value

/-- The spans of the values in order. An absent value is passed over, any other must have one. -/
def spansOf : List Value → Outcome (List Span)
  | [] => pure []
  | .absent :: vs => spansOf vs
  | v :: vs =>
    match v.span? with
    | some s => return s :: (← spansOf vs)
    | none => .fail (.misfit "a value with a span" v.kind)

/-- The least span that covers the spans of all the values that are not absent. -/
def joinSpans (values : List Value) : Outcome Span := do
  match Span.join? (← spansOf values) with
  | some s => pure s
  | none => .fail .nothingToJoin

end Whereabouts
