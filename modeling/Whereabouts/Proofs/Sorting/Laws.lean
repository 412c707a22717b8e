import Whereabouts.Proofs.Location.Files
import Whereabouts.Proofs.Sorting.Stable

namespace Whereabouts

open Value Script

variable {items result : List Value} {positions : List Nat} {v w : Value}

theorem order?_location (a b : Location) : a.toValue.settled.order? b.toValue.settled =
    if a.sameFile b = true then some (compare a.span b.span)
    else a.file.settled.order? b.file.settled := by
  have settle (l : Location) : l.toValue.settled = location l.file.settled l.span := by
    rw [Location.toValue, settled]
  have one : a.sameFile b = a.file.settled.same b.file.settled := rfl
  rw [settle, settle, order?, verdict, one]
  split <;> rfl

/-- The first location has the lesser file, or the same file and no greater span. -/
def FileThenSpan (a b : Location) : Prop :=
  a.file.relate .lt b.file = .ok true ∨ a.sameFile b = true ∧
    (a.span.start < b.span.start ∨ a.span.start = b.span.start ∧ a.span.stop ≤ b.span.stop)

theorem fileThenSpan_of_not_less {a b : Location} (ka : a.toValue.wellKeyed = true)
    (kb : b.toValue.wellKeyed = true) (h : b.toValue.relate .lt a.toValue = .ok false) :
    FileThenSpan a b := by
  obtain ⟨o, found, notLess⟩ := relate_lt_eq_false_iff.1 h
  have turned : a.toValue.settled.order? b.toValue.settled = some o.swap := by
    rw [order?_settled_swap kb ka, found]
    rfl
  rw [order?_location] at turned
  by_cases one : a.sameFile b = true
  · rw [if_pos one, Option.some.injEq] at turned
    refine .inr ⟨one, ?_⟩
    cases o with
    | lt => exact absurd rfl notLess
    | eq =>
      have equal : a.span = b.span := Span.compare_eq_iff.1 turned
      exact .inr ⟨congrArg Span.start equal, Int.le_of_eq (congrArg Span.stop equal)⟩
    | gt =>
      rcases Span.compare_lt_iff.1 turned with start | ⟨start, stop⟩
      · exact .inl start
      · exact .inr ⟨start, Int.le_of_lt stop⟩
  · rw [if_neg one] at turned
    refine .inl (relate_lt_iff.2 ?_)
    cases o with
    | lt => exact absurd rfl notLess
    | eq => exact absurd (same_of_order? turned) one
    | gt => exact turned

/-- A file that stands between two that are equal equals them. -/
theorem FileThenSpan.sameFile_between {a b c : Location} (ka : a.file.wellKeyed = true)
    (kb : b.file.wellKeyed = true) (kc : c.file.wellKeyed = true) (hac : FileThenSpan a c)
    (hcb : FileThenSpan c b) (hab : a.sameFile b = true) : a.sameFile c = true := by
  rcases hac with less | ⟨one, -⟩
  case inr => exact one
  rcases hcb with less' | ⟨one, -⟩
  case inr => exact Location.sameFile_trans hab (Location.sameFile_symm kc one)
  rw [relate_lt_iff] at less less'
  have both : a.file.settled.order? b.file.settled = some .lt :=
    order?_lt_trans (keysDiffer_settled _ ka) (keysDiffer_settled _ kc) (keysDiffer_settled _ kb)
      less less'
  cases order?_of_same hab both

/-- Locations in ascending order of file and span, those of one file together. -/
structure GroupedByFile (ls : List Location) : Prop where
  ascending : ls.Pairwise FileThenSpan
  /-- What stands between two locations of one file is in that file too. -/
  together : ∀ a c b, [a, c, b].Sublist ls → a.sameFile b = true → a.sameFile c = true

theorem groupedByFile {ls : List Location} (keys : ∀ l ∈ ls, l.toValue.wellKeyed = true)
    (sorted : (ls.map Location.toValue).Pairwise fun v w => w.relate .lt v = .ok false) :
    GroupedByFile ls := by
  have fileKeys : ∀ l ∈ ls, l.file.wellKeyed = true := keys
  have ascending : ls.Pairwise FileThenSpan :=
    (List.pairwise_map.1 sorted).imp_of_mem fun ha hb =>
      fileThenSpan_of_not_less (keys _ ha) (keys _ hb)
  refine ⟨ascending, fun a c b part one => ?_⟩
  have among : ∀ l ∈ [a, c, b], l.file.wellKeyed = true := fun l hl => fileKeys l (part.subset hl)
  have three := ascending.sublist part
  simp only [List.forall_mem_cons, List.pairwise_cons] at among three
  obtain ⟨ka, kc, kb, -⟩ := among
  obtain ⟨⟨hac, -⟩, ⟨hcb, -⟩, -⟩ := three
  exact hac.sameFile_between ka kb kc hcb one

theorem exists_map_toValue (h : ∀ v ∈ result, ∃ l : Location, l.toValue = v) :
    ∃ ls : List Location, result = ls.map Location.toValue := by
  induction result with
  | nil => exact ⟨[], rfl⟩
  | cons v vs ih =>
    obtain ⟨⟨l, rfl⟩, rest⟩ := List.forall_mem_cons.1 h
    obtain ⟨ls, rfl⟩ := ih rest
    exact ⟨l :: ls, rfl⟩

/-- Sorted locations are locations, grouped by their files. -/
theorem SortedBy.groupedByFile {ls : List Location}
    (h : SortedBy (ls.map Location.toValue) result positions)
    (keys : ∀ l ∈ ls, l.toValue.wellKeyed = true) :
    ∃ ls', result = ls'.map Location.toValue ∧ GroupedByFile ls' := by
  have locations : ∀ v ∈ result, ∃ l ∈ ls, l.toValue = v :=
    fun v hv => List.mem_map.1 (h.mem hv)
  obtain ⟨ls', rfl⟩ := exists_map_toValue fun v hv =>
    (locations v hv).imp fun l => And.right
  refine ⟨ls', rfl, Whereabouts.groupedByFile (fun l hl => ?_) h.pairwise⟩
  obtain ⟨m, hm, same⟩ := locations l.toValue (List.mem_map_of_mem hl)
  rw [← same]
  exact keys m hm

/-- Other payloads that are alike are sorted to the same positions. -/
theorem PayloadsAlike.sortedBy {pairs : List (Value × Value)} (h : PayloadsAlike pairs)
    (comparable : (pairs.map fun p => stripped p.1).Pairwise fun v w =>
      (v.relate .lt w).isOk = true)
    (ranked : Ranking (pairs.map fun p => stripped p.1) positions) :
    ∃ result, sortValues (pairs.map fun p => stripped p.2) = pure result ∧
      SortedBy (pairs.map fun p => stripped p.2) result positions := by
  have keys : ∀ v ∈ pairs.map fun p => stripped p.2, v.wellKeyed = true := by
    intro v hv
    obtain ⟨p, hp, rfl⟩ := List.mem_map.1 hv
    exact (h.keys p hp).2
  have comparable' := h.comparable comparable
  obtain ⟨others, found⟩ := exists_sortedBy keys comparable'
  obtain rfl : positions = others := found.ranking.unique keys (h.ranking_iff.1 ranked)
  exact ⟨_, sortValues_of_comparable comparable', found⟩

/-- **Sorting is correct and stable, and does not look at locations behind wrappers.** Values that
can be compared in pairs are sorted to a permutation in which no later item is less than an earlier
one. It has the items at the positions of a ranking, so equal items keep their order, and no other
arrangement does. Sorted locations are grouped by file, files and spans ascending. Payloads of
wrapped items can be replaced by others that are equal without their locations, and no item
moves. -/
theorem sort_laws {items : List Value} (keys : ∀ v ∈ items, v.wellKeyed = true)
    (comparable : items.Pairwise fun v w => (v.relate .lt w).isOk = true) :
    ∃ result positions, sortValues items = pure result ∧
      (result.Perm items ∧ result.Pairwise fun v w => w.relate .lt v = .ok false) ∧
      (SortedBy items result positions ∧ ∀ others, Ranking items others → others = positions) ∧
      (∀ ls : List Location, items = ls.map Location.toValue →
        ∃ ls', result = ls'.map Location.toValue ∧ GroupedByFile ls') ∧
      ∀ pairs : List (Value × Value), items = pairs.map (fun p => stripped p.1) →
        (∀ p ∈ pairs, p.2.wellKeyed = true ∧ p.2.strippedEq p.1 = true) →
        ∃ result', sortValues (pairs.map fun p => stripped p.2) = pure result' ∧
          SortedBy (pairs.map fun p => stripped p.2) result' positions := by
  obtain ⟨positions, found⟩ := exists_sortedBy keys comparable
  refine ⟨sorted items, positions, sortValues_of_comparable comparable,
    ⟨sorted_perm items, found.pairwise⟩, ⟨found, fun others => found.ranking.unique keys⟩, ?_, ?_⟩
  · rintro ls rfl
    exact found.groupedByFile fun l hl => keys _ (List.mem_map_of_mem hl)
  · rintro pairs rfl replaced
    have alike : PayloadsAlike pairs :=
      ⟨fun p hp => ⟨keys (stripped p.1) (List.mem_map_of_mem hp), (replaced p hp).1⟩,
        fun p hp => (replaced p hp).2⟩
    exact alike.sortedBy comparable found.ranking

/-- Locations of which two are equal in files that are not the same, and wrapped payloads of which
two are equal without the locations inside. -/
theorem sort_laws_ties :
    let ls : List Location := [⟨bool true, ⟨5, 6⟩⟩, ⟨int 0, ⟨9, 10⟩⟩, ⟨int 1, ⟨1, 2⟩⟩,
      ⟨bool true, ⟨1, 2⟩⟩]
    let places := ls.map Location.toValue
    let at' (v : Value) : Value := located v (text "f") ⟨0, 1⟩
    let pairs := [(list [at' (int 1)], list [bool true]), (list [int 0], at' (list [int 0])),
      (list [int 1], list [at' (at' (int 1))])]
    let items := pairs.map fun p => stripped p.1
    let items' := pairs.map fun p => stripped p.2
    ((∀ v ∈ places, v.wellKeyed = true) ∧
        (places.Pairwise fun v w => (v.relate .lt w).isOk = true) ∧
        ∃ ls', SortedBy places (ls'.map Location.toValue) [1, 2, 3, 0] ∧ GroupedByFile ls') ∧
      (∀ v ∈ items, v.wellKeyed = true) ∧
        (items.Pairwise fun v w => (v.relate .lt w).isOk = true) ∧
        ∃ result result', sortValues items = pure result ∧ sortValues items' = pure result' ∧
          SortedBy items result [1, 0, 2] ∧ SortedBy items' result' [1, 0, 2] := by
  intro ls places at' pairs items items'
  have keysPlaces : ∀ v ∈ places, v.wellKeyed = true := by decide
  have comparablePlaces : places.Pairwise fun v w => (v.relate .lt w).isOk = true := by decide
  have keys : ∀ v ∈ items, v.wellKeyed = true := by decide
  have comparable : items.Pairwise fun v w => (v.relate .lt w).isOk = true := by decide
  have rankingPlaces : Ranking places [1, 2, 3, 0] := by decide
  have ranking : Ranking items [1, 0, 2] := by decide
  refine ⟨⟨keysPlaces, comparablePlaces, ?_⟩, keys, comparable, ?_⟩
  · obtain ⟨_, _, -, -, ⟨found, only⟩, grouped, -⟩ := sort_laws keysPlaces comparablePlaces
    obtain rfl := only _ rankingPlaces
    obtain ⟨ls', rfl, together⟩ := grouped ls rfl
    exact ⟨ls', found, together⟩
  · obtain ⟨result, _, done, -, ⟨found, only⟩, -, replaced⟩ := sort_laws keys comparable
    obtain rfl := only _ ranking
    obtain ⟨result', done', found'⟩ := replaced pairs rfl (by decide)
    exact ⟨result, result', done, done', found, found'⟩

end Whereabouts
