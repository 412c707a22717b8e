import Whereabouts.Label
import Whereabouts.Located.Fallible
import Whereabouts.Located.InPlace
import Whereabouts.Located.Optional

/-!
# Faults and their records

Two kinds of fault leave a record in the log: a value was refused as a span, or two files could not
be combined. `Outcome.Announced`: the log of an outcome is the record of its fault and nothing
else. Nothing is in the log yet where the rest of a computation is run, so this goes through a bind
(`Outcome.announced_bind`). It holds of every function here that is given announced functions.
-/
namespace Whereabouts

namespace Fault

variable {fault : Fault} {record : Record}

/-- The event that tells of a fault. -/
def event? : Fault → Option Event
  | notSpanLike v => some (.rejected v)
  | crossFile m => some (.crossFile m)
  | _ => none

/-- The record that belongs to a fault. -/
def record? (fault : Fault) : Option Record := fault.event?.bind Event.logged?

theorem record?_eq_some_iff : fault.record? = some record ↔
    (∃ v, fault = .notSpanLike v ∧
      record = ⟨.spans, "rejected span-like value " ++ v.debug⟩) ∨
    ∃ m, fault = .crossFile m ∧ record = ⟨.locations,
      m.operation ++ " across files: " ++ m.left.debug ++ " vs " ++ m.right.debug⟩ := by
  cases fault <;>
    simp [record?, event?, Event.logged?, Event.channel?, Event.record?, eq_comm (a := record)]

@[simp] theorem record?_eq_none_iff :
    fault.record? = none ↔ (∀ v, fault ≠ .notSpanLike v) ∧ ∀ m, fault ≠ .crossFile m := by
  cases fault <;> simp [record?, event?, Event.logged?, Event.channel?, Event.record?]

/-- What is logged for spans goes with an error of type, and for locations with that of two
files. -/
theorem errorClass?_of_record? (h : fault.record? = some record) : fault.errorClass? =
    some (match record.channel with | .spans => .type | .locations => .fileMismatch) := by
  obtain ⟨v, rfl, rfl⟩ | ⟨m, rfl, rfl⟩ := record?_eq_some_iff.1 h <;> rfl

end Fault

namespace Outcome

variable {α β : Type u} {o : Outcome α} {f : α → Outcome β} {fault : Fault} {event : Event}
  {record : Record}

/-- The fault that an outcome ends with. -/
def fault? (o : Outcome α) : Option Fault :=
  match o.result with
  | .ok _ => none
  | .error fault => some fault

/-- The record that belongs to the fault of an outcome. -/
def record? (o : Outcome α) : Option Record := o.fault?.bind Fault.record?

/-- The log is the record of the fault. It is empty after a result, and after a fault that has no
record. -/
def Announced (o : Outcome α) : Prop := o.log = o.record?.toList

theorem announced_of_ok {events : List Event} {a : α} :
    (⟨events, .ok a⟩ : Outcome α).Announced ↔ events.filterMap Event.logged? = [] := Iff.rfl

theorem announced_of_error {events : List Event} :
    (⟨events, .error fault⟩ : Outcome α).Announced ↔
      events.filterMap Event.logged? = fault.record?.toList := Iff.rfl

@[simp] theorem announced_pure (a : α) : (pure a : Outcome α).Announced := rfl

@[simp] theorem announced_fail_iff :
    (fail fault : Outcome α).Announced ↔ fault.record? = none := by
  rw [fail, ofResult, announced_of_error, List.filterMap_nil, eq_comm, Option.toList_eq_nil_iff]

theorem announced_failAfter (h : fault.event? = some event) :
    (failAfter event fault : Outcome α).Announced := by
  rw [failAfter, announced_of_error, Fault.record?, h]
  cases event <;> rfl

/-- What comes first leaves nothing in the log if the rest is run. -/
@[simp] theorem announced_bind_iff (h : o.Announced) :
    (o >>= f).Announced ↔ ∀ a, o.result = .ok a → (f a).Announced := by
  obtain ⟨events, fault | a⟩ := o
  · exact iff_of_true h (by rintro a ⟨⟩)
  · have silent : events.filterMap Event.logged? = [] := h
    have log : ((⟨events, .ok a⟩ : Outcome α) >>= f).log = (f a).log := by
      change (events ++ (f a).events).filterMap Event.logged? = (f a).log
      rw [List.filterMap_append, silent, List.nil_append, Outcome.log]
    constructor
    · rintro announced _ ⟨⟩
      exact log.symm.trans announced
    · intro announced
      exact log.trans (announced a rfl)

theorem announced_bind (h : o.Announced) (hf : ∀ a, (f a).Announced) : (o >>= f).Announced :=
  (announced_bind_iff h).2 fun a _ => hf a

theorem announced_foldlM {step : β → α → Outcome β} (h : ∀ b a, (step b a).Announced) :
    ∀ (as : List α) (b : β), (as.foldlM step b).Announced
  | [], b => announced_pure b
  | a :: as, b => announced_bind (h b a) fun b' => announced_foldlM h as b'

@[simp] theorem announced_map_iff {g : α → β} : (g <$> o).Announced ↔ o.Announced := by
  obtain ⟨events, fault | a⟩ := o <;>
    simp [Functor.map, bind, following, ofResult, announced_of_error, announced_of_ok]

@[simp] theorem announced_counted_iff : o.counted.Announced ↔ o.Announced := by
  obtain ⟨events, fault | a⟩ := o <;> rfl

theorem Announced.log_of_ok (h : o.Announced) {a : α} (result : o.result = .ok a) :
    o.log = [] := by
  simpa [Announced, record?, fault?, result] using h

theorem Announced.log_of_error (h : o.Announced) (faulty : o.result = .error fault) :
    o.log = fault.record?.toList := by
  simpa [Announced, record?, fault?, faulty] using h

/-- What is in the log, by the two kinds of fault that leave something there. -/
theorem Announced.mem_log_iff (h : o.Announced) : record ∈ o.log ↔
    (∃ v, o.result = .error (.notSpanLike v) ∧
      record = ⟨.spans, "rejected span-like value " ++ v.debug⟩) ∨
    ∃ m, o.result = .error (.crossFile m) ∧ record = ⟨.locations,
      m.operation ++ " across files: " ++ m.left.debug ++ " vs " ++ m.right.debug⟩ := by
  cases result : o.result with
  | ok a => simp [h.log_of_ok result]
  | error fault => simp [h.log_of_error result, Fault.record?_eq_some_iff]

theorem Announced.length_log_le (h : o.Announced) : o.log.length ≤ 1 := by
  rw [Announced] at h
  rw [h]
  cases o.record? <;> simp

/-- The logs of several outcomes, put together, are the records of their faults. -/
theorem flatMap_log {os : List (Outcome α)} (h : ∀ o ∈ os, o.Announced) :
    os.flatMap log = (os.filterMap fault?).filterMap Fault.record? := by
  induction os with
  | nil => rfl
  | cons o os ih =>
    have first : o.log = (o.fault?.bind Fault.record?).toList := h o List.mem_cons_self
    have rest := ih fun o ho => h o (List.mem_cons_of_mem _ ho)
    rw [List.flatMap_cons, first, rest, List.filterMap_cons]
    cases o.fault? with
    | none => rfl
    | some fault => cases recorded : fault.record? <;> simp [recorded]

/-- The outcome ends with the fault and leaves the record, or it ends in another way and leaves
nothing in the log. -/
def Records (o : Outcome α) (fault : Fault) (record : Record) : Prop :=
  o.result = .error fault ∧ o.log = [record] ∨ o.result ≠ .error fault ∧ o.log = []

theorem Announced.records (h : o.Announced) (recorded : fault.record? = some record)
    (only : ∀ fault', o.result = .error fault' → fault' = fault ∨ fault'.record? = none) :
    o.Records fault record := by
  cases result : o.result with
  | ok a => exact .inr ⟨by simp [result], h.log_of_ok result⟩
  | error fault' =>
    have log := h.log_of_error result
    rcases only fault' result with rfl | silent
    · exact .inl ⟨result, by rw [log, recorded]; rfl⟩
    · refine .inr ⟨?_, by rw [log, silent]; rfl⟩
      rintro same
      cases result.symm.trans same
      cases silent.symm.trans recorded

end Outcome

open Outcome

variable {l : Location} {m : Located} {f : Value → Outcome Value}

@[simp] theorem Progression.announced_toSpan (p : Progression) : p.toSpan.Announced := by
  unfold toSpan
  split <;> simp

@[simp] theorem Value.announced_toSpan (v : Value) : v.toSpan.Announced := by
  unfold toSpan
  split
  · simp
  · simp
  · simp
  · simp
  · exact announced_failAfter rfl

theorem announced_spansOf (values : List Value) : (spansOf values).Announced := by
  fun_induction spansOf values with
  | case1 => exact announced_pure _
  | case2 vs ih => exact ih
  | case3 v vs present s spanned ih => exact announced_bind ih fun spans => announced_pure _
  | case4 v vs present spanless => simp

@[simp] theorem announced_joinSpans (values : List Value) : (joinSpans values).Announced := by
  refine announced_bind (announced_spansOf values) fun spans => ?_
  cases Span.join? spans <;> simp

namespace Location

@[simp] theorem announced_ofParts (file v : Value) : (ofParts file v).Announced := by
  simp [ofParts]

@[simp] theorem announced_withSpan (l : Location) (v : Value) : (l.withSpan v).Announced := by
  simp [withSpan]

@[simp] theorem announced_extend (l : Location) (v : Value) : (l.extend v).Announced := by
  simp [extend]

@[simp] theorem announced_mapFile_iff : (l.mapFile f).Announced ↔ (f l.file).Announced := by
  simp [mapFile]

@[simp] theorem announced_requireSameFile (a b : Location) (operation : String) :
    (a.requireSameFile b operation).Announced := by
  unfold requireSameFile
  split
  · exact announced_failAfter rfl
  · simp

@[simp] theorem announced_union (a b : Location) : (a.union b).Announced := by
  simp [union]

@[simp] theorem announced_covers (a b : Location) : (a.covers b).Announced := by
  simp [covers]

end Location

namespace Value

@[simp] theorem announced_union (v w : Value) : (v.union w).Announced := by
  unfold Value.union
  split <;> simp

@[simp] theorem announced_intersection (v w : Value) : (v.intersection w).Announced := by
  unfold Value.intersection
  split <;> simp

end Value

@[simp] theorem Label.Style.announced_ofValue (v : Value) : (ofValue v).Announced := by
  unfold ofValue
  split
  · simp
  · split <;> simp
  · simp

namespace Located

@[simp] theorem announced_map_iff : (m.map f).Announced ↔ (f m.value).Announced := by
  simp [map]

@[simp] theorem announced_mapLocation_iff {f : Location → Outcome Location} :
    (m.mapLocation f).Announced ↔ (f m.location).Announced := by
  simp [mapLocation]

@[simp] theorem announced_mapFile_iff : (m.mapFile f).Announced ↔ (f m.file).Announced := by
  simp [mapFile, file]

@[simp] theorem announced_tryMap (h : (f m.value).Announced) : (m.tryMap f).Announced := by
  rw [tryMap, announced_bind_iff h]
  intro v _
  split <;> simp

@[simp] theorem announced_unwrap (m : Located) : m.unwrap.Announced := by
  unfold unwrap
  split <;> simp

namespace InPlace

/-- The announcements of a computation that may write. -/
def Announced {α : Type} (x : InPlace α) : Prop := ∀ m, (x m).1.Announced

end InPlace

/-- A span is converted twice in a replacement, and the second time has no say in how it ends. -/
theorem announced_edit (edit : Edit) : edit.run.Announced := by
  intro m
  cases edit with
  | value v | location l | file v => exact announced_pure _
  | span spanLike =>
    rw [Edit.run, Changing.bind_pure, setSpan_fst]
    simp

end Located

theorem Optional.announced_toLocated {o : Option Located} {l : Outcome Location} (h : l.Announced) :
    (toLocated o l).Announced := by
  cases o <;> simp [toLocated, h]

namespace Fallible

@[simp] theorem announced_sides (r : Value) : (sides r).Announced := by
  unfold sides
  split <;> simp

@[simp] theorem announced_located (v : Value) : (located v).Announced := by
  unfold located
  split <;> simp

@[simp] theorem announced_locate (r : Value) (l : Location) : (locate r l).Announced := by
  rw [locate, announced_bind_iff (announced_sides r)]
  intro side _
  cases side <;> simp

@[simp] theorem announced_strip (r : Value) : (strip r).Announced := by
  rw [strip, announced_bind_iff (announced_sides r)]
  intro side _
  cases side <;> simp

@[simp] theorem announced_split (r : Value) : (split r).Announced := by
  rw [split, announced_bind_iff (announced_sides r)]
  intro side _
  cases side <;> simp

@[simp] theorem announced_transpose (m : Located) : (transpose m).Announced :=
  announced_locate m.value m.location

theorem announced_locateError {l : Outcome Location} (h : l.Announced) (r : Value) :
    (locateError r l).Announced := by
  rw [locateError, announced_bind_iff (announced_sides r)]
  intro side _
  cases side <;> simp [h]

theorem announced_mapError (h : ∀ v, (f v).Announced) (r : Value) :
    (mapError r f).Announced := by
  rw [mapError, announced_bind_iff (announced_sides r)]
  intro side _
  cases side <;> simp [h]

end Fallible

end Whereabouts
