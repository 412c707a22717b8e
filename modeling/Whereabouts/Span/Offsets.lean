import Whereabouts.Span.Basic

namespace Whereabouts.Span

/-- Every offset of the span, in ascending order. -/
def offsets (s : Span) : List Int := (List.range s.length).map fun (i : Nat) => s.start + i

/-- The first offsets of the span, at most `limit` of them, without the rest: a span may be far
longer than any list. -/
def firstOffsets (s : Span) (limit : Nat) : List Int :=
  (List.range (min limit s.length)).map fun (i : Nat) => s.start + i

theorem firstOffsets_eq_take (s : Span) (limit : Nat) :
    s.firstOffsets limit = s.offsets.take limit := by
  simp only [firstOffsets, offsets, ← List.map_take, List.take_range]

theorem mem_offsets {s : Span} {x : Int} : x ∈ s.offsets ↔ x ∈ s := by
  simp only [offsets, List.mem_map, List.mem_range, length, mem_iff]
  constructor
  · rintro ⟨n, hn, rfl⟩; omega
  · rintro ⟨hl, hr⟩; exact ⟨(x - s.start).toNat, by omega, by omega⟩

@[simp] theorem length_offsets (s : Span) : s.offsets.length = s.length := by
  simp [offsets]

end Whereabouts.Span
