import Whereabouts.Span.Basic
import Whereabouts.Span.Offsets
import Whereabouts.Span.Extract
import Whereabouts.Progression
import Whereabouts.Text.Printable
import Whereabouts.Text.Quoted
import Whereabouts.Changing
import Whereabouts.Floating
import Whereabouts.Value.Basic
import Whereabouts.Value.Printing
import Whereabouts.Value.Stripped
import Whereabouts.Value.Equality
import Whereabouts.Value.Hashing
import Whereabouts.Value.Order
import Whereabouts.Value.Sorting
import Whereabouts.Location.Basic
import Whereabouts.Outcome
import Whereabouts.Span.Conversion
import Whereabouts.Location.Combine
import Whereabouts.Changing
import Whereabouts.Located.Basic
import Whereabouts.Located.InPlace
import Whereabouts.Located.Optional
import Whereabouts.Located.Fallible
import Whereabouts.Label
import Whereabouts.Object.Basic
import Whereabouts.Object.Located
import Whereabouts.Script.Term
import Whereabouts.Script.Callback
import Whereabouts.Script.Reply
import Whereabouts.Script.Spans
import Whereabouts.Script.Values
import Whereabouts.Script.Locations
import Whereabouts.Script.LocatedValues
import Whereabouts.Script.Containers
import Whereabouts.Script.Labels
import Whereabouts.Script.Operation
import Whereabouts.Script.Store
import Whereabouts.Script.Making
import Whereabouts.Script.Session
import Whereabouts.Proofs.Strip.Relocation
import Whereabouts.Proofs.Strip.Containers
import Whereabouts.Proofs.Strip.NormalForm
import Whereabouts.Proofs.Equality.Shape
import Whereabouts.Proofs.Equality.Keys
import Whereabouts.Proofs.Equality.Equivalence
import Whereabouts.Proofs.Equality.Stripped
import Whereabouts.Proofs.Order.Atom
import Whereabouts.Proofs.Order.Found
import Whereabouts.Proofs.Order.Laws
import Whereabouts.Proofs.Order.Coherence
import Whereabouts.Proofs.Keys.Hashing
import Whereabouts.Proofs.Keys.Hashes
import Whereabouts.Proofs.Keys.Distinct
import Whereabouts.Proofs.Keys.Unlocated
import Whereabouts.Proofs.Sorting.Ranking
import Whereabouts.Proofs.Sorting.Stable
import Whereabouts.Proofs.Sorting.Laws
import Whereabouts.Proofs.Span.Union
import Whereabouts.Proofs.Span.Intersection
import Whereabouts.Proofs.Span.Conversion
import Whereabouts.Proofs.Location.Files
import Whereabouts.Proofs.Location.Merging
import Whereabouts.Proofs.Located.Results
import Whereabouts.Proofs.Located.TryMap
import Whereabouts.Proofs.Located.Optionals
import Whereabouts.Proofs.Span.Joining
import Whereabouts.Proofs.Span.Positions
import Whereabouts.Proofs.Span.Extraction
import Whereabouts.Proofs.Span.Covered
import Whereabouts.Proofs.Span.Tiling
import Whereabouts.Proofs.Span.Counting
import Whereabouts.Proofs.Label.Format
import Whereabouts.Proofs.Object.Showing
import Whereabouts.Proofs.Object.Agreement
import Whereabouts.Proofs.Object.Functions
import Whereabouts.Proofs.Object.Collections
import Whereabouts.Proofs.Object.Fresh
import Whereabouts.Proofs.Object.Writing
import Whereabouts.Proofs.Log.Announced
import Whereabouts.Proofs.Session.Making
import Whereabouts.Proofs.Session.Acting
import Whereabouts.Proofs.Session.Writing
import Whereabouts.Proofs.Session.Frame
import Whereabouts.Proofs.Located.Writes
import Whereabouts.Proofs.Located.Registers
import Whereabouts.Proofs.Log.Session
