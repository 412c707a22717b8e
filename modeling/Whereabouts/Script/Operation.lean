import Whereabouts.Script.Containers
import Whereabouts.Script.Labels
import Whereabouts.Script.LocatedValues
import Whereabouts.Script.Locations
import Whereabouts.Script.Values

namespace Whereabouts.Script

inductive Operation where
  | onSpan (op : SpanOperation)
  | onValue (op : ValueOperation)
  | onLocation (op : LocationOperation)
  | onLocated (op : LocatedOperation)
  | onContainer (op : ContainerOperation)
  | onLabel (op : LabelOperation)
deriving Repr

namespace Operation

/-- Evaluates the arguments in their order and answers once. The first fault ends the operation. -/
def run (vars : Bindings) : Operation → Outcome Reply
  | onSpan op => op.run vars
  | onValue op => op.run vars
  | onLocation op => op.run vars
  | onLocated op => op.run vars
  | onContainer op => op.run vars
  | onLabel op => op.run vars

end Operation
end Whereabouts.Script
