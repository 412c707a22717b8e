import Whereabouts.Proofs.Located.Writes

/-!
# A located value as three registers

The payload, the file and the span of a located value are written apart from each other, although
the file and the span share one field. `Write.put` says what a write puts into each register, and
`Write.check` and `Write.reply` how it ends; `run_fst` and `register_run` show that a write does
just that, and `register_runWrites` carries it over to any number of writes, with refused ones among
them.
-/
namespace Whereabouts.Located

open Script

inductive Register where
  | value
  | file
  | span

/-- What a register holds. -/
abbrev Register.Content : Register → Type
  | value => Value
  | file => Value
  | span => Span

def register (m : Located) : (r : Register) → r.Content
  | .value => m.value
  | .file => m.file
  | .span => m.span

theorem eq_of_register {m n : Located} (h : ∀ r, m.register r = n.register r) : m = n := by
  obtain ⟨value, file, span⟩ := m
  obtain ⟨value', file', span'⟩ := n
  obtain rfl : value = value' := h .value
  obtain rfl : file = file' := h .file
  obtain rfl : span = span' := h .span
  rfl

namespace Edit

/-- The part that a replacement is about. -/
def part (m : Located) : Edit → Value
  | value _ => m.value
  | location _ => m.location.toValue
  | span _ => .span m.span
  | file _ => m.file

/-- The replacement of the same part by what it is in `m`. -/
def keeping (m : Located) : Edit → Edit
  | value _ => .value m.value
  | location _ => .location m.location
  | span _ => .span (.span m.span)
  | file _ => .file m.file

/-- The replacement of the same part by another one, if that can stand there. -/
def withPart? : Edit → Value → Option Edit
  | value _, v => some (.value v)
  | location _, v => (Location.ofValue? v).map .location
  | span _, v => some (.span v)
  | file _, v => some (.file v)

theorem withPart?_part (edit : Edit) (m : Located) :
    edit.withPart? (edit.part m) = some (edit.keeping m) := by
  cases edit <;> rfl

end Edit

namespace Write

/-- What a write puts into a register, if it writes there. A span that is refused is not written. -/
def put (w : Write) : (r : Register) → Option r.Content
  | .value =>
    match w with
    | replace (.value v) | assignValue v => some v
    | _ => none
  | .file =>
    match w with
    | replace (.location l) | assignLocation l => some l.file
    | replace (.file v) => some v
    | _ => none
  | .span =>
    match w with
    | replace (.location l) | assignLocation l => some l.span
    | replace (.span spanLike) => spanLike.toSpan.result.toOption
    | _ => none

/-- What a write may be refused for. -/
def check : Write → Outcome Unit
  | replace (.span spanLike) => do let _ ← spanLike.toSpan
  | _ => pure ()

/-- What a write gives back when it is not refused. -/
def reply (m : Located) : Write → Option Value
  | replace edit => some (edit.part m)
  | assignValue _ => none
  | assignLocation _ => none

end Write

/-- What the last of the writes that put something has put, or what was there at first. -/
def latest {α : Type} (initial : α) (put : Write → Option α) (writes : List Write) : α :=
  (writes.reverse.findSome? put).getD initial

/-! ### One write -/

namespace Write

variable {w w' : Write} {m n : Located} {fault : Fault}

theorem run_replace_span (spanLike : Value) (m : Located) :
    (replace (.span spanLike)).run m =
      ((setSpan spanLike m).1 >>= fun old => pure (some (.span old)), (setSpan spanLike m).2) := by
  rw [run_replace, Edit.run, Changing.bind_pure]
  simp only [bind_assoc, pure_bind]

theorem run_fst (w : Write) (m : Located) : (w.run m).1 = do w.check; return w.reply m := by
  match w with
  | assignValue _ | assignLocation _ | replace (.value _) | replace (.location _)
  | replace (.file _) => rfl
  | replace (.span spanLike) =>
    rw [run_replace_span, setSpan_fst, check]
    simp only [bind_assoc, pure_bind]
    rfl

theorem put_span (spanLike : Value) :
    (replace (.span spanLike)).put .span = spanLike.toSpan.result.toOption := rfl

/-- A write changes the registers that it puts something into, and no other one. What is put hangs
on an outcome only where a span is converted on the way. -/
theorem register_run (w : Write) (m : Located) (r : Register) :
    (w.run m).2.register r = (w.put r).getD (m.register r) := by
  match w with
  | assignValue _ | assignLocation _ | replace (.value _) | replace (.location _)
  | replace (.file _) => cases r <;> rfl
  | replace (.span spanLike) =>
    rw [run_replace_span, setSpan_snd]
    cases h : spanLike.toSpan.result with
    | error fault =>
      cases r with
      | value | file => rfl
      | span => rw [put_span, h]; rfl
    | ok s =>
      cases r with
      | value | file => rfl
      | span => rw [put_span, h]; rfl

/-- Only a span is ever refused, and for the reason for which it has no conversion. -/
theorem check_eq_error_iff : w.check.result = .error fault ↔
    ∃ spanLike, w = replace (.span spanLike) ∧ spanLike.toSpan.result = .error fault := by
  constructor
  · intro h
    match w with
    | assignValue _ | assignLocation _ | replace (.value _) | replace (.location _)
    | replace (.file _) => cases h
    | replace (.span spanLike) =>
      rw [check, Outcome.result_bind] at h
      cases hs : spanLike.toSpan.result with
      | error fault' => rw [hs] at h; cases h; exact ⟨spanLike, rfl, hs⟩
      | ok s => rw [hs] at h; cases h
  · rintro ⟨spanLike, rfl, h⟩
    rw [check, Outcome.result_bind, h]
    rfl

theorem result_run (w : Write) (m : Located) :
    (w.run m).1.result = w.check.result.map fun _ => w.reply m := by
  rw [run_fst, Outcome.result_bind]
  rfl

theorem run_eq_error_iff : (w.run m).1.result = .error fault ↔
    ∃ spanLike, w = replace (.span spanLike) ∧ spanLike.toSpan.result = .error fault := by
  rw [result_run, ← check_eq_error_iff]
  cases w.check.result with
  | error fault' => constructor <;> intro h <;> cases h <;> rfl
  | ok _ => constructor <;> intro h <;> cases h

theorem reply_of_run {back : Option Value} (h : (w.run m).1.result = .ok back) :
    back = w.reply m := by
  rw [result_run] at h
  cases hc : w.check.result with
  | error fault => rw [hc] at h; cases h
  | ok _ => rw [hc] at h; cases h; rfl

/-- A write that is refused puts nothing into any register. -/
theorem put_eq_none (h : w.check.result = .error fault) (r : Register) : w.put r = none := by
  obtain ⟨spanLike, rfl, refused⟩ := check_eq_error_iff.1 h
  cases r with
  | value | file => rfl
  | span => rw [put_span, refused]; rfl

theorem run_unchanged (h : (w.run m).1.result = .error fault) : (w.run m).2 = m := by
  rw [run_eq_error_iff, ← check_eq_error_iff] at h
  apply eq_of_register
  intro r
  rw [register_run, put_eq_none h, Option.getD_none]

theorem reply_congr {s : Unit} (accepted : w.check.result = .ok s)
    (h : ∀ r, w.put r ≠ none → m.register r = n.register r) : w.reply m = w.reply n := by
  match w with
  | assignValue _ | assignLocation _ => rfl
  | replace (.value _) =>
    have value : m.value = n.value := h .value (Option.some_ne_none _)
    rw [reply, reply, Edit.part, Edit.part, value]
  | replace (.location _) =>
    have file : m.location.file = n.location.file := h .file (Option.some_ne_none _)
    have span : m.location.span = n.location.span := h .span (Option.some_ne_none _)
    simp only [reply, Edit.part, Location.toValue, file, span]
  | replace (.file _) =>
    have file : m.file = n.file := h .file (Option.some_ne_none _)
    rw [reply, reply, Edit.part, Edit.part, file]
  | replace (.span spanLike) =>
    have span : m.span = n.span := by
      refine h .span ?_
      rw [check, Outcome.result_bind] at accepted
      rw [put_span]
      cases hs : spanLike.toSpan.result with
      | error fault => rw [hs] at accepted; cases accepted
      | ok s => exact Option.some_ne_none s
    rw [reply, reply, Edit.part, Edit.part, span]

/-- What a write answers hangs on no register but those that it puts something into. -/
theorem run_fst_congr (h : ∀ r, w.put r ≠ none → m.register r = n.register r) :
    (w.run m).1 = (w.run n).1 := by
  rw [run_fst, run_fst]
  cases hc : w.check with
  | mk events result =>
    cases result with
    | error fault => rfl
    | ok s => rw [reply_congr (congrArg Outcome.result hc) h]

/-- Writes that put nothing into a common register. -/
def Apart (w w' : Write) : Prop := ∀ r, w.put r = none ∨ w'.put r = none

theorem Apart.symm (h : Apart w w') : Apart w' w := fun r => (h r).symm

theorem Apart.run_comm (h : Apart w w') (m : Located) :
    (w'.run (w.run m).2).2 = (w.run (w'.run m).2).2 := by
  apply eq_of_register
  intro r
  simp only [register_run]
  rcases h r with none | none <;> simp only [none, Option.getD_none]

theorem Apart.run_fst (h : Apart w w') (m : Located) :
    (w'.run (w.run m).2).1 = (w'.run m).1 := by
  apply run_fst_congr
  intro r some
  rw [register_run, (h r).resolve_right some, Option.getD_none]

/-- To write back what a part was undoes its replacement. -/
theorem run_keeping (edit : Edit) (m : Located) :
    ((replace (edit.keeping m)).run ((replace edit).run m).2).2 = m := by
  apply eq_of_register
  intro r
  rw [register_run, register_run]
  cases edit <;> cases r <;> rfl

end Write

/-! ### Any number of writes -/

theorem latest_cons {α : Type} (initial : α) (put : Write → Option α) (w : Write)
    (ws : List Write) : latest initial put (w :: ws) = latest ((put w).getD initial) put ws := by
  rw [latest, latest, List.reverse_cons, List.findSome?_append]
  cases ws.reverse.findSome? put with
  | none => cases h : put w <;> simp [h]
  | some a => rfl

/-- Each register holds what was put into it last, however the writes to the registers follow one
another. -/
theorem register_runWrites (ws : List Write) (m : Located) (r : Register) :
    (runWrites ws m).2.register r = latest (m.register r) (fun w => w.put r) ws := by
  induction ws generalizing m with
  | nil => rfl
  | cons w ws ih =>
    have step : (runWrites (w :: ws) m).2 = (runWrites ws (w.run m).2).2 := rfl
    rw [step, ih, latest_cons, Write.register_run]

/-- The outcome of a write in a run is its outcome on what the writes before it have left. -/
theorem runWrites_fst_append (before after : List Write) (w : Write) (m : Located) :
    (runWrites (before ++ w :: after) m).1[before.length]? =
      some (w.run (runWrites before m).2).1 := by
  induction before generalizing m with
  | nil => rfl
  | cons v before ih => exact ih (v.run m).2

/-- **A located value is three registers.** At every point of a run of writes, refused ones among
them, each register holds what was put into it last, and so it does in a variable that a session
writes to. A write that returns gives back the part as it is then. Only a span can be refused, with
the fault of its conversion, and changes nothing if it is. Writes that share no register do not see
each other, in either order. A part that was given back can be written back. -/
theorem writes_refine_registers (m : Located) (before : List Write) :
    let now := (runWrites before m).2
    (∀ r, now.register r = latest (m.register r) (fun w => w.put r) before) ∧
    (∀ x (s : Store), s.value? x = some m.toValue →
      (runSteps s (before.map (Write.step x))).2.value? x = some now.toValue) ∧
    (∀ w after, (runWrites (before ++ w :: after) m).1[before.length]? = some (w.run now).1) ∧
    (∀ (w : Write) back, (w.run now).1.result = .ok back → back = w.reply now) ∧
    (∀ (w : Write) fault, (w.run now).1.result = .error fault ↔
      ∃ spanLike, w = .replace (.span spanLike) ∧ spanLike.toSpan.result = .error fault) ∧
    (∀ (w : Write) fault, (w.run now).1.result = .error fault → (w.run now).2 = now) ∧
    (∀ w w' : Write, (∀ r, w.put r = none ∨ w'.put r = none) →
      (w'.run (w.run now).2).2 = (w.run (w'.run now).2).2 ∧
      (w'.run (w.run now).2).1 = (w'.run now).1 ∧ (w.run (w'.run now).2).1 = (w.run now).1) ∧
    ∀ edit old, ((Write.replace edit).run now).1.result = .ok (some old) →
      ∃ back, edit.withPart? old = some back ∧
        ((Write.replace back).run ((Write.replace edit).run now).2).2 = now := by
  intro now
  refine ⟨register_runWrites before m, fun x s h => value?_runSteps h before,
    fun w after => runWrites_fst_append before after w m, fun w back => Write.reply_of_run,
    fun w fault => Write.run_eq_error_iff, fun w fault => Write.run_unchanged, ?_, ?_⟩
  · intro w w' h
    have apart : Write.Apart w w' := h
    exact ⟨apart.run_comm now, apart.run_fst now, apart.symm.run_fst now⟩
  · intro edit old h
    obtain rfl : old = edit.part now := Option.some.inj (Write.reply_of_run h)
    exact ⟨edit.keeping now, edit.withPart?_part now, Write.run_keeping edit now⟩

/-- A span that is refused between one that is taken and a new file. -/
theorem writes_refine_registers_refused :
    let m : Located := ⟨.text "x", .text "f", ⟨0, 2⟩⟩
    let s : Store := ⟨[("x", .located 0)],
      [⟨.plain (.text "x") rfl, .plain (.text "f") rfl, ⟨0, 2⟩⟩]⟩
    let moved := Edit.span (.tuple [.int 3, .int 4])
    let refused := Write.replace (.span (.bool true))
    let filed := Write.replace (.file (.text "g"))
    let run := [.replace moved, refused, filed]
    let now := (runWrites run m).2
    now = ⟨.text "x", .text "g", ⟨3, 4⟩⟩ ∧
      (runSteps s (run.map (Write.step "x"))).2.value? "x" = some now.toValue ∧
      ((refused.run now).1.result = .error (.notSpanLike (.bool true)) ∧
        (refused.run now).2 = now) ∧
      ((∀ r, (Write.replace moved).put r = none ∨ filed.put r = none) ∧
        (filed.run ((Write.replace moved).run now).2).2 =
          ((Write.replace moved).run (filed.run now).2).2) ∧
      ((Write.replace moved).run now).1.result = .ok (some (.span ⟨3, 4⟩)) ∧
      ∃ back, moved.withPart? (.span ⟨3, 4⟩) = some back ∧
        ((Write.replace back).run ((Write.replace moved).run now).2).2 = now := by
  intro m s moved refused filed run now
  obtain ⟨registers, session, -, -, -, unchanged, commute, restore⟩ :=
    writes_refine_registers m run
  have fault : (refused.run now).1.result = .error (.notSpanLike (.bool true)) := rfl
  have apart : ∀ r, (Write.replace moved).put r = none ∨ filed.put r = none
    | .value | .file => .inl rfl
    | .span => .inr rfl
  have given : ((Write.replace moved).run now).1.result = .ok (some (.span ⟨3, 4⟩)) := rfl
  refine ⟨eq_of_register fun r => (registers r).trans ?_, session "x" s rfl,
    ⟨fault, unchanged _ _ fault⟩, ⟨apart, (commute _ _ apart).1⟩, given, restore _ _ given⟩
  cases r <;> rfl

end Whereabouts.Located
