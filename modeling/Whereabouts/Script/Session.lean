import Whereabouts.Script.Making

/-!
# Sessions

A session runs operations one after another on named variables. What a step answers is made of
objects, and a step that succeeds can save its result: the variable then holds that object. What a
step has written to a located value before a fault stays written.
-/
namespace Whereabouts.Script

structure Step where
  operation : Operation
  save : Option String := none
deriving Repr

structure Session where
  vars : List (String × Term)
  steps : List Step
deriving Repr

/-- The store with the object, if there is one, stored under `x`, if that is given. -/
def Store.store (s : Store) : Option String → Option Object → Store
  | some x, some o => s.set x o
  | _, _ => s

namespace Step

/-- The object of the value that a step has answered with. -/
def result? (answer : Outcome Reply) (made : Outcome Object) : Option Object :=
  match answer.result, made.result with
  | .ok reply, .ok o => reply.report.result?.map fun _ => o
  | _, _ => none

/-- The outcome of the step and the store after it. -/
def run (step : Step) (s : Store) : Outcome Reply × Store :=
  let answer := step.operation.run s.values
  let (made, heap) := step.operation.act s s.heap
  (answer, { s with heap }.store step.save (result? answer made))

end Step

/-- The outcomes of the steps, in order, and the store in the end. -/
def runSteps (s : Store) : List Step → List (Outcome Reply) × Store
  | [] => ([], s)
  | step :: steps =>
    let (o, s) := step.run s
    let (os, s) := runSteps s steps
    (o :: os, s)

/-- The variables at the start. A term may name the variables before it. -/
def bindAll (s : Store) : List (String × Term) → Outcome Store
  | [] => pure s
  | (x, t) :: rest => do
    let (made, heap) := t.make s s.heap
    let o ← made
    bindAll ({ s with heap }.set x o) rest

/-- The outcomes of all steps; the session itself fails only if a variable has no value. -/
def Session.run (s : Session) : Outcome (List (Outcome Reply)) := do
  let store ← bindAll {} s.vars
  return (runSteps store s.steps).1

/-- The log of a session: what the variables at the start leave, and then what each step leaves. -/
def Session.log (s : Session) : List Record :=
  s.run.log ++
    match s.run.result with
    | .ok os => os.flatMap Outcome.log
    | .error _ => []

end Whereabouts.Script
