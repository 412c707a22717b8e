import Whereabouts.Location.Basic
import Whereabouts.Value.Order

/-!
# Outcomes

An operation leaves a trail of events and ends with a result or a fault. `Outcome` holds both, and
its bind runs the rest of a computation only after a result, behind the events so far.

Two kinds of event tell of trouble and stand just before the fault they belong to: a value that is
no span, and two locations in different files that were to be combined. The third kind marks a
call of a function that the caller passed in.
-/
namespace Whereabouts

/-- Two files that an operation was to combine. -/
structure FileMismatch where
  left : Value
  right : Value
  operation : String := "union"
deriving Repr

namespace FileMismatch

def message (m : FileMismatch) : String :=
  "cannot " ++ m.operation ++ " locations from different files: " ++ m.left.debug ++ " and " ++
    m.right.debug

def debug (m : FileMismatch) : String :=
  "FileMismatchError(left=" ++ m.left.debug ++ ", right=" ++ m.right.debug ++ ", operation=" ++
    Text.quoted m.operation ++ ")"

end FileMismatch

/-- Why an operation has no result. -/
inductive Fault where
  | notSpanLike (v : Value)
  /-- A range whose step is not one has no span. -/
  | steppedRange (step : Int)
  | nothingToJoin
  | crossFile (mismatch : FileMismatch)
  | notResult (kind : Kind)
  | absentPayload (location : Location)
  | notStyle (v : Value)
  | frozen (field : String)
  | unsupported (symbol : String) (left right : Kind)
  | unordered (reason : Unordered)
  | unhashable (kind : Kind)
  /-- A list holds two values that can not be compared. -/
  | unsortable
  /-- A function that was passed in gave up with this message. -/
  | failed (message : String)
  | unbound (name : String)
  /-- An argument is of a kind that the operation is not defined for. -/
  | misfit (expected : String) (kind : Kind)
deriving Repr

namespace Fault

/-- Puts the name of a kind between apostrophes. -/
def quotedKind (kind : Kind) : String := "'" ++ kind.name ++ "'"

def message : Fault → String
  | notSpanLike v => "cannot convert " ++ v.kind.name ++ " to a span: " ++ v.debug
  | steppedRange step => "cannot convert a range with step " ++ toString step ++ " to a span"
  | nothingToJoin => "join_spans() requires at least one value"
  | crossFile m => m.message
  | notResult kind => "expected Ok or Err, got " ++ kind.name
  | absentPayload l => "unwrap() on a located None at " ++ l.format
  | notStyle v => v.debug ++ " is not a valid LabelStyle"
  | frozen field => "cannot assign to field '" ++ field ++ "'"
  | unsupported symbol left right =>
    "unsupported operand type(s) for " ++ symbol ++ ": " ++ quotedKind left ++ " and " ++
      quotedKind right
  | unordered u =>
    "'" ++ u.relation.symbol ++ "' not supported between instances of " ++ quotedKind u.left ++
      " and " ++ quotedKind u.right
  | unhashable kind => "unhashable type: " ++ quotedKind kind
  | unsortable => "the items have no common order"
  | failed message => message
  | unbound name => "no variable is named " ++ Text.quoted name
  | misfit expected kind => "expected " ++ expected ++ ", got " ++ kind.name

end Fault

/-- The classes of error that faults are raised as. -/
inductive ErrorClass where
  | type
  | value
  | fileMismatch
  | frozenInstance
deriving DecidableEq, Repr

def ErrorClass.name : ErrorClass → String
  | type => "TypeError"
  | value => "ValueError"
  | fileMismatch => "FileMismatchError"
  | frozenInstance => "FrozenInstanceError"

/-- The class of a fault. A script that names no variable, or is given arguments that its operations
are not defined for, has none. -/
def Fault.errorClass? : Fault → Option ErrorClass
  | notSpanLike _ | notResult _ | unsupported .. | unordered _ | unhashable _ | unsortable =>
    some .type
  | steppedRange _ | nothingToJoin | absentPayload _ | notStyle _ | failed _ => some .value
  | crossFile _ => some .fileMismatch
  | frozen _ => some .frozenInstance
  | unbound _ | misfit .. => none

inductive Event where
  /-- A value was refused as a span. -/
  | rejected (v : Value)
  /-- An operation met two files. -/
  | crossFile (mismatch : FileMismatch)
  /-- A function that was passed in was called. -/
  | called
deriving Repr

/-- The text of the record of an event in the log. Calls leave none. -/
def Event.record? : Event → Option String
  | rejected v => some ("rejected span-like value " ++ v.debug)
  | crossFile m =>
    some (m.operation ++ " across files: " ++ m.left.debug ++ " vs " ++ m.right.debug)
  | called => none

/-- The loggers that records go to. -/
inductive Channel where
  | spans
  | locations
deriving DecidableEq, Repr

def Channel.name : Channel → String
  | spans => "locspan.span"
  | locations => "locspan.location"

def Event.channel? : Event → Option Channel
  | rejected _ => some .spans
  | crossFile _ => some .locations
  | called => none

inductive Level where
  | debug
deriving DecidableEq, Repr

def Level.name : Level → String
  | debug => "DEBUG"

/-- A record in the log. -/
structure Record where
  channel : Channel
  text : String
deriving DecidableEq, Repr

/-- Nothing is logged on any other level. -/
def Record.level (_ : Record) : Level := .debug

/-- What an event leaves in the log. -/
def Event.logged? (event : Event) : Option Record := do
  return { channel := ← event.channel?, text := ← event.record? }

structure Outcome (α : Type u) where
  events : List Event
  result : Except Fault α

namespace Outcome

variable {α β : Type u}

def ofResult (result : Except Fault α) : Outcome α := ⟨[], result⟩

def fail (fault : Fault) : Outcome α := ofResult (.error fault)

/-- The outcome has a result. -/
def Returns (o : Outcome α) : Prop := ∃ a, o.result = .ok a

/-- Adds events in front of what an outcome already holds. -/
def following (events : List Event) (o : Outcome α) : Outcome α :=
  { o with events := events ++ o.events }

def bind (o : Outcome α) (f : α → Outcome β) : Outcome β :=
  match o.result with
  | .ok a => (f a).following o.events
  | .error fault => ⟨o.events, .error fault⟩

instance : Monad Outcome where
  pure a := ofResult (.ok a)
  bind := bind

theorem ext {o p : Outcome α} (events : o.events = p.events) (result : o.result = p.result) :
    o = p := by
  cases o; cases p; cases events; cases result; rfl

@[simp] theorem pure_bind (a : α) (f : α → Outcome β) : (pure a : Outcome α) >>= f = f a := by
  simp [Bind.bind, Pure.pure, bind, ofResult, following]

theorem bind_of_ok {o : Outcome α} {a : α} (h : o.result = .ok a) (f : α → Outcome β) :
    o >>= f = (f a).following o.events := by
  obtain ⟨events, result⟩ := o
  cases h
  rfl

theorem bind_of_error {o : Outcome α} {fault : Fault} (h : o.result = .error fault)
    (f : α → Outcome β) : o >>= f = ⟨o.events, .error fault⟩ := by
  obtain ⟨events, result⟩ := o
  cases h
  rfl

theorem result_bind (o : Outcome α) (f : α → Outcome β) :
    (o >>= f).result = o.result.bind fun a => (f a).result := by
  obtain ⟨events, fault | a⟩ := o <;> rfl

theorem result_bind_eq_ok_iff {o : Outcome α} {f : α → Outcome β} {b : β} :
    (o >>= f).result = .ok b ↔ ∃ a, o.result = .ok a ∧ (f a).result = .ok b := by
  rw [result_bind]
  cases o.result with
  | error fault =>
    constructor
    · intro h; cases h
    · rintro ⟨a, h, -⟩; cases h
  | ok a =>
    constructor
    · intro h; exact ⟨a, rfl, h⟩
    · rintro ⟨a', h, h'⟩; cases h; exact h'

theorem result_bind_of_error {o : Outcome α} {fault : Fault} (h : o.result = .error fault)
    (f : α → Outcome β) : (o >>= f).result = .error fault := by
  rw [bind_of_error h]

theorem result_bind_eq_error_iff {o : Outcome α} {fault : Fault} {f : α → Outcome β} :
    (o >>= f).result = .error fault ↔
      o.result = .error fault ∨ ∃ a, o.result = .ok a ∧ (f a).result = .error fault := by
  rw [result_bind]
  cases o.result with
  | error fault' =>
    constructor
    · intro h; cases h; exact .inl rfl
    · rintro (h | ⟨a, h, -⟩)
      · cases h; rfl
      · cases h
  | ok a =>
    constructor
    · intro h; exact .inr ⟨a, rfl, h⟩
    · rintro (h | ⟨a', h, h'⟩)
      · cases h
      · cases h; exact h'

/-- What only changes a result makes no difference to the faults. -/
theorem result_bind_pure_eq_error_iff {o : Outcome α} {fault : Fault} {f : α → β} :
    (o >>= fun a => pure (f a)).result = .error fault ↔ o.result = .error fault := by
  rw [result_bind_eq_error_iff, or_iff_left]
  rintro ⟨a, -, h⟩
  cases h

@[simp] theorem fail_bind (fault : Fault) (f : α → Outcome β) :
    (fail fault : Outcome α) >>= f = fail fault := rfl

instance : LawfulMonad Outcome := LawfulMonad.mk' Outcome
  (by
    intro α o
    apply ext <;> cases h : o.result <;>
      simp [Functor.map, bind, following, ofResult, h])
  (by intro α β a f; exact pure_bind a f)
  (by
    intro α β γ o f g
    apply ext <;> cases h : o.result <;> simp only [Bind.bind, bind, h, following] <;>
      cases h' : (f _).result <;> simp [List.append_assoc])

/-- Whatever the outcome results in has the property. -/
def Ensures (o : Outcome α) (P : α → Prop) : Prop := ∀ a, o.result = .ok a → P a

theorem ensures_pure {P : α → Prop} {a : α} (h : P a) : (pure a : Outcome α).Ensures P := by
  intro b hb
  cases hb
  exact h

/-- What comes first makes no difference, if the property holds for all that it may give. -/
theorem ensures_bind {P : β → Prop} {o : Outcome α} {f : α → Outcome β}
    (h : ∀ a, (f a).Ensures P) : (o >>= f).Ensures P := by
  intro b hb
  obtain ⟨a, -, ha⟩ := result_bind_eq_ok_iff.1 hb
  exact h a b ha

/-- Ends with a fault that is announced by an event. -/
def failAfter (event : Event) (fault : Fault) : Outcome α := ⟨[event], .error fault⟩

/-- Marks an outcome as that of a function which was passed in. -/
def counted (o : Outcome α) : Outcome α := o.following [.called]

/-- How often functions that were passed in have been called. -/
def calls (o : Outcome α) : Nat := o.events.countP fun
  | .called => true
  | _ => false

@[simp] theorem calls_counted (o : Outcome α) : o.counted.calls = o.calls + 1 := by
  simp [calls, counted, following, Nat.add_comm]

/-- What only changes a result makes no call. -/
@[simp] theorem calls_bind_pure (o : Outcome α) (f : α → β) :
    (o >>= fun a => pure (f a)).calls = o.calls := by
  cases ended : o.result with
  | error fault => rw [bind_of_error ended, calls, calls]
  | ok a =>
    rw [bind_of_ok ended, calls, calls]
    exact congrArg _ (List.append_nil o.events)

/-- The log of an outcome. -/
def log (o : Outcome α) : List Record := o.events.filterMap Event.logged?

end Outcome
end Whereabouts
