import Whereabouts.Script.Reply
import Whereabouts.Script.Term
import Whereabouts.Span.Extract
import Whereabouts.Span.Offsets

namespace Whereabouts.Script

inductive SpanOperation where
  | make (start stop : Option Term)
  | point (offset : Term)
  | ofRange (range : Term)
  | describe (span : Term)
  | firstOffsets (span limit : Term)
  | contains (span offset : Term)
  | holds (span value : Term)
  | covers (a b : Term)
  | overlaps (a b : Term)
  | union (a b : Term)
  | intersection (a b : Term)
  | withStop (span stop : Term)
  | extended (span count : Term)
  | cleared (span : Term)
  | after (span : Term)
  | extract (span source : Term)
  | convert (value : Term)
  | join (items : Term)
  | isSpanned (value : Term)
deriving Repr

/-- What can be told of a span. A span is true even if it is empty. -/
def spanFields (s : Span) : List (String × Value) :=
  [("length", .int s.length),
   ("is_empty", .bool s.isEmpty),
   ("as_tuple", s.pair),
   ("range", .range (.ofSpan s)),
   ("format", .text s.format),
   ("str", .text (Value.span s).display),
   ("repr", .text (Value.span s).debug),
   ("truthy", .bool true),
   ("cleared", .span s.cleared),
   ("after", .span s.after),
   ("span", .span s)]

/-- Whether a value is an offset of the span. A truth value counts as zero or one; what is no
number is in no span. -/
def spanHolds (s : Span) : Value → Bool
  | .int n => s.contains n
  | .bool b => s.contains (if b then 1 else 0)
  | _ => false

/-- The part of a text or byte string that a span covers. -/
def extractFrom (s : Span) : Value → Outcome Value
  | .text source => pure (.text (s.extractText source))
  | .bytes source => pure (.bytes (s.extract source))
  | v => .fail (.misfit "a text or bytes" v.kind)

def SpanOperation.run (vars : Bindings) : SpanOperation → Outcome Reply
  | make start stop => do
    let start ← Term.intOr vars 0 start
    let stop ← Term.intOr vars 0 stop
    return .span ⟨start, stop⟩
  | point offset => return .span (.point (← offset.int vars))
  | ofRange range => do
    let p ← asRange (← range.eval vars)
    return .span (← p.toSpan)
  | describe span => return .fields (spanFields (← span.span vars))
  | firstOffsets span limit => do
    let s ← span.span vars
    let limit ← limit.int vars
    return .value (.list ((s.firstOffsets limit.toNat).map .int))
  | contains span offset => do
    let s ← span.span vars
    return .bool (s.contains (← offset.int vars))
  | holds span value => do
    let s ← span.span vars
    return .bool (spanHolds s (← value.eval vars))
  | covers a b => do
    let s ← a.span vars
    return .bool (s.covers (← b.span vars))
  | overlaps a b => do
    let s ← a.span vars
    return .bool (s.overlaps (← b.span vars))
  | union a b => do
    let s ← a.span vars
    return .span (s.union (← b.span vars))
  | intersection a b => do
    let s ← a.span vars
    return .option .span (s.intersection? (← b.span vars))
  | withStop span stop => do
    let s ← span.span vars
    return .span (s.withStop (← stop.int vars))
  | extended span count => do
    let s ← span.span vars
    return .span (s.extended (← count.int vars))
  | cleared span => return .span (← span.span vars).cleared
  | after span => return .span (← span.span vars).after
  | extract span source => do
    let s ← span.span vars
    return .value (← extractFrom s (← source.eval vars))
  | convert value => do
    let v ← value.eval vars
    return .span (← v.toSpan)
  | join items => do
    let items ← items.items vars
    return .span (← joinSpans items)
  | isSpanned value => return .bool (← value.eval vars).span?.isSome

end Whereabouts.Script
