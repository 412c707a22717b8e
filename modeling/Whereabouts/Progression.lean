import Whereabouts.Span.Basic

namespace Whereabouts

/-- The terms `start`, `start + step`, … on this side of `stop`. -/
structure Progression where
  start : Int
  stop : Int
  step : Int
  step_ne_zero : step ≠ 0
deriving DecidableEq, Repr

namespace Progression

/-- The number of terms. -/
def count (p : Progression) : Nat :=
  if 0 < p.step then ((p.stop - p.start + p.step - 1) / p.step).toNat
  else ((p.start - p.stop - p.step - 1) / -p.step).toNat

/-- The terms in order. -/
def terms (p : Progression) : List Int :=
  (List.range p.count).map fun (i : Nat) => p.start + i * p.step

/-- What can be read off a sequence of terms: their number, the first one if there is one, and the
step if there are two. The stop does not show. -/
structure Outline where
  count : Nat
  first : Option Int
  step : Option Int
deriving DecidableEq, Repr

def outline (p : Progression) : Outline where
  count := p.count
  first := if 0 < p.count then some p.start else none
  step := if 1 < p.count then some p.step else none

@[simp] theorem length_terms (p : Progression) : p.terms.length = p.count := by
  simp [terms]

theorem getElem?_terms (p : Progression) (i : Nat) :
    p.terms[i]? = if i < p.count then some (p.start + i * p.step) else none := by
  rw [terms, List.getElem?_map]
  split
  · rename_i h
    rw [List.getElem?_range h]
    rfl
  · rw [List.getElem?_eq_none (by simp; omega)]
    rfl

/-- The outline tells exactly which terms there are. A second term is there only behind a first one,
and both together give the step. -/
theorem outline_eq_iff {p q : Progression} : p.outline = q.outline ↔ p.terms = q.terms := by
  simp only [outline, Outline.mk.injEq]
  constructor
  · rintro ⟨count, first, step⟩
    apply List.ext_getElem?
    intro i
    rw [getElem?_terms, getElem?_terms, ← count]
    split
    · rename_i h
      simp only [← count, show 0 < p.count by omega, ↓reduceIte, Option.some.injEq] at first
      by_cases h2 : 1 < p.count
      · simp only [← count, h2, ↓reduceIte, Option.some.injEq] at step
        rw [first, step]
      · obtain rfl : i = 0 := by omega
        simp [first]
    · rfl
  · intro h
    have count : p.count = q.count := by
      rw [← length_terms, ← length_terms, h]
    have first := congrArg (·[0]?) h
    have second := congrArg (·[1]?) h
    simp only [getElem?_terms, ← count] at first second
    simp only [← count, true_and]
    refine ⟨?_, ?_⟩
    · by_cases h1 : 0 < p.count
      · simpa [h1] using first
      · simp [h1]
    · by_cases h2 : 1 < p.count
      · have h1 : 0 < p.count := by omega
        simp only [h1, h2, ↓reduceIte, Option.some.injEq] at first second ⊢
        omega
      · simp [h2]

/-- The offsets of a span as a progression with step one. -/
def ofSpan (s : Span) : Progression := ⟨s.start, s.stop, 1, by decide⟩

/-- The span with the bounds of the progression, if its step is one. -/
def span? (p : Progression) : Option Span :=
  if p.step = 1 then some ⟨p.start, p.stop⟩ else none

@[simp] theorem span?_ofSpan (s : Span) : (ofSpan s).span? = some s := rfl

end Progression
end Whereabouts
