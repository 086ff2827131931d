import Handheld.Proofs.Bus.Actions
import Handheld.Proofs.Execution.Map

/-!
# Proofs/Execution/Recorded — executing on a bus that records

The program's stores happen inside an instruction, where only the memory sees them.  So instructions
are executed on a bus that records what happens to its requests (`Recorded`).  That an instruction
does the same there as on the bus itself is `execute_map`, used once to forget the record
(`execute_recorded`) and once to carry along that the record accounts for the open requests
(`faithful_execute`).
-/

namespace Handheld

/-! ## Hosts -/

/-- A host's handler of software interrupts that uses the bus by its actions: what it answers to a
call, and what it does on the bus. -/
abbrev Host := HookCall → Bus → HookAnswer × List Bus.Action

namespace Bus

/-- Carries some actions out. -/
def performAll (b : Bus) (xs : List Action) : Bus := xs.foldl perform b

end Bus

/-- The handler as the processor calls it. -/
def Host.hook (host : Host) : Hook Bus := fun call b =>
  let (answer, xs) := host call b
  (answer, b.performAll xs)

/-! ## A bus that records -/

/-- A bus and what has happened to its requests. -/
structure Recorded where
  /-- The bus. -/
  bus : Bus
  /-- The events since the start. -/
  history : List Event

namespace Recorded

/-- Carries an action out and records its events. -/
def perform (r : Recorded) (x : Bus.Action) : Recorded :=
  ⟨r.bus.perform x, r.history ++ r.bus.events x⟩

/-- Carries some actions out and records their events. -/
def performAll (r : Recorded) (xs : List Bus.Action) : Recorded := xs.foldl perform r

instance : Memory Recorded where
  loadByte r a := (r.bus.loadByte a, r)
  loadHalf r a := (r.bus.loadHalf a, r)
  loadWord r a := (r.bus.loadWord a, r)
  storeByte r a v := r.perform (.storeByte a v)
  storeHalf r a v := r.perform (.storeHalf a v)
  storeWord r a v := r.perform (.storeWord a v)

/-- The record accounts for the open requests. -/
def Faithful (r : Recorded) : Prop := r.bus.requests = Requests.replay r.history

/-- An action that is recorded keeps the record faithful. -/
theorem Faithful.perform {r : Recorded} (h : r.Faithful) (x : Bus.Action) :
    (r.perform x).Faithful := by
  rw [Faithful, Recorded.perform, Bus.requests_perform, Requests.replay_append, h]

/-- Recorded actions keep the record faithful. -/
theorem Faithful.performAll {r : Recorded} (h : r.Faithful) (xs : List Bus.Action) :
    (r.performAll xs).Faithful := by
  induction xs generalizing r with
  | nil => exact h
  | cons x xs ih => exact ih (h.perform x)

/-- Behind the record is the bus that the actions leave. -/
theorem bus_performAll (r : Recorded) (xs : List Bus.Action) :
    (r.performAll xs).bus = r.bus.performAll xs := by
  induction xs generalizing r with
  | nil => rfl
  | cons x xs ih => exact ih (r.perform x)

/-- Recording the stores changes neither loads nor stores. -/
theorem respects_bus : Memory.Respects Recorded.bus :=
  ⟨fun _ _ => rfl, fun _ _ => rfl, fun _ _ => rfl, fun _ _ _ => rfl, fun _ _ _ => rfl,
    fun _ _ _ => rfl⟩

end Recorded

/-- The handler on a bus that records. -/
def Host.recordedHook (host : Host) : Hook Recorded := fun call r =>
  let (answer, xs) := host call r.bus
  (answer, r.performAll xs)

/-! ## A record that is faithful -/

/-- A bus with a faithful record. -/
abbrev Accounted := { r : Recorded // r.Faithful }

namespace Accounted

instance : Memory Accounted where
  loadByte r a := (r.val.bus.loadByte a, r)
  loadHalf r a := (r.val.bus.loadHalf a, r)
  loadWord r a := (r.val.bus.loadWord a, r)
  storeByte r a v := ⟨r.val.perform (.storeByte a v), r.property.perform _⟩
  storeHalf r a v := ⟨r.val.perform (.storeHalf a v), r.property.perform _⟩
  storeWord r a v := ⟨r.val.perform (.storeWord a v), r.property.perform _⟩

theorem respects_val : Memory.Respects (Subtype.val : Accounted → Recorded) :=
  ⟨fun _ _ => rfl, fun _ _ => rfl, fun _ _ => rfl, fun _ _ _ => rfl, fun _ _ _ => rfl,
    fun _ _ _ => rfl⟩

end Accounted

/-- The handler on a bus with a faithful record. -/
def Host.accountedHook (host : Host) : Hook Accounted := fun call r =>
  let (answer, xs) := host call r.val.bus
  (answer, ⟨r.val.performAll xs, r.property.performAll xs⟩)

section Execute

variable (host? : Option Host) (i : Instruction) (registers : Registers)

/-- **Recording does not change what an instruction does.** -/
theorem execute_recorded (r : Recorded) :
    execute (host?.map Host.hook) i registers r.bus
      = (let o := execute (host?.map Host.recordedHook) i registers r
        ⟨o.registers, o.memory.bus, o.result⟩) := by
  refine execute_map Recorded.respects_bus ?_ i registers r
  cases host? with
  | none => exact .none
  | some host =>
    refine .some fun call r => ?_
    exact Prod.ext rfl (r.bus_performAll _).symm

/-- **A faithful record stays faithful while an instruction executes.** -/
theorem faithful_execute {r : Recorded} (h : r.Faithful) :
    (execute (host?.map Host.recordedHook) i registers r).memory.Faithful := by
  have hh : Option.Rel (Hook.Follows Subtype.val) (host?.map Host.accountedHook)
      (host?.map Host.recordedHook) := by
    cases host? with
    | none => exact .none
    | some host => exact .some fun call r => rfl
  have he := execute_map Accounted.respects_val hh i registers ⟨r, h⟩
  rw [show ((⟨r, h⟩ : Accounted) : Recorded) = r from rfl] at he
  rw [he]
  exact (execute (host?.map Host.accountedHook) i registers (⟨r, h⟩ : Accounted)).memory.property

end Execute

end Handheld
