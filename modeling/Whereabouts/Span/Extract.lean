import Whereabouts.Span.Basic

namespace Whereabouts

/-- The position that a bound stands for in a source of length `n`. A negative bound counts from the
end of the source, and a bound outside it is moved to the nearer end. -/
def boundIn (n : Nat) (bound : Int) : Nat :=
  min n (if bound < 0 then bound + n else bound).toNat

theorem boundIn_le (n : Nat) (bound : Int) : boundIn n bound ≤ n := Nat.min_le_left _ _

namespace Span

/-- The part of `source` between the bounds of the span. -/
def extract {α : Type u} (s : Span) (source : List α) : List α :=
  (source.take (boundIn source.length s.stop)).drop (boundIn source.length s.start)

/-- The part of a text between the bounds of the span, counted in characters. -/
def extractText (s : Span) (source : String) : String :=
  String.ofList (s.extract source.toList)

@[simp] theorem length_extract {α : Type u} (s : Span) (source : List α) :
    (s.extract source).length =
      boundIn source.length s.stop - boundIn source.length s.start := by
  have := boundIn_le source.length s.stop
  simp only [extract, List.length_drop, List.length_take]
  omega

end Span
end Whereabouts
