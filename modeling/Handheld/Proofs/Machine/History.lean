import Handheld.Proofs.Execution.Recorded
import Handheld.Proofs.Machine.Return

/-!
# Proofs/Machine/History — no interrupt is lost, invented or serviced twice

The host acts on a machine by steps and by actions on its bus, in any order.  The history of such a
run tells which sources were raised, delivered, requested, cleared and serviced, the program's
stores included, and it accounts for the open requests at every moment (`faithful_run`).  So the
sources that are queued and those that are flagged can be read off it, and of those that are flagged
and enabled a step services the first (`interrupts_accounted`).
-/

namespace Handheld.Machine

/-! ## Runs -/

/-- What a host does with a machine. -/
inductive Action where
  /-- A step. -/
  | step
  /-- An action on the bus. -/
  | bus (x : Bus.Action)

/-- Carries an action out.  A step that fails leaves the machine that it gives. -/
def perform (m : Machine) : Action → Machine
  | .step => m.step.2
  | .bus x => { m with bus := m.bus.perform x }

/-- Carries some actions out. -/
def performAll (m : Machine) (xs : List Action) : Machine := xs.foldl perform m

/-- The bus after an action, with what has happened to its requests: a step first delivers, and then
services a source or executes an instruction on the bus that records. -/
def record (host? : Option Host) (m : Machine) (h : List Event) : Action → Recorded
  | .bus x => Recorded.perform ⟨m.bus, h⟩ x
  | .step =>
    let r := Recorded.perform ⟨m.bus, h⟩ .deliver
    match m.taken? with
    | some k => ⟨m.deliver.interrupt.bus, r.history ++ [.serviced k]⟩
    | none =>
      if m.deliver.bus.interrupts.halted then r
      else match m.deliver.decoded? m.deliver.fetch with
        | none => r
        | some i => (execute (host?.map Host.recordedHook) i m.registers r).memory

/-- What has happened to the requests during a run, after what happened before it. -/
def history (host? : Option Host) (m : Machine) (before : List Event) : List Action → List Event
  | [] => before
  | x :: xs => (m.perform x).history host? (m.record host? before x).history xs

/-! ## The interrupt that a step takes -/

/-- **A step takes the first of the enabled and flagged sources**, if interrupts are on. -/
theorem taken?_eq_some_iff {m : Machine} {k : Source} : m.taken? = some k
    ↔ m.deliver.bus.interrupts.master = true
      ∧ SourceSet.has m.deliver.bus.interrupts.ready k = true
      ∧ ∀ l, SourceSet.has m.deliver.bus.interrupts.ready l = true → k.index ≤ l.index := by
  rw [← SourceSet.first?_eq_some_iff, taken?, Controller.acknowledge]
  cases m.deliver.bus.interrupts.master
  · simp
  · cases SourceSet.first? m.deliver.bus.interrupts.ready <;> simp

theorem taken?_isSome_iff {m : Machine} : m.taken?.isSome = true
    ↔ m.deliver.bus.interrupts.master = true ∧ m.deliver.bus.interrupts.ready ≠ 0#14 := by
  rw [ne_eq, ← SourceSet.first?_eq_none_iff, taken?, Controller.acknowledge]
  cases m.deliver.bus.interrupts.master
  · simp
  · cases SourceSet.first? m.deliver.bus.interrupts.ready <;> simp

/-- Acknowledging a source takes it out of the flags and begins its service. -/
theorem acknowledge_of_taken? {m : Machine} {k : Source} (h : m.taken? = some k) :
    m.deliver.bus.interrupts.acknowledge.2 = { m.deliver.bus.interrupts with
      flagged := SourceSet.erase m.deliver.bus.interrupts.flagged k
      halted := false
      servicing := some k } := by
  obtain ⟨hm, hk⟩ := taken?_eq_some_iff.mp h
  rw [Controller.acknowledge, if_pos hm, SourceSet.first?_eq_some_iff.mpr hk]

/-- Taking an interrupt is an event of the source that is taken. -/
theorem requests_interrupt {m : Machine} {k : Source} (h : m.taken? = some k) :
    m.deliver.interrupt.bus.requests = m.deliver.bus.requests.apply (.serviced k) := by
  refine Requests.ext rfl ?_
  change m.deliver.bus.interrupts.acknowledge.2.flagged = _
  rw [acknowledge_of_taken? h]
  rfl

/-! ## The record of one action -/

theorem bus_conclude (m : Machine) (o : Outcome Bus) : (m.conclude o).2.bus = o.memory := by
  obtain ⟨r, bus, fault | retired⟩ := o <;> rfl

theorem hook?_executeWord (m : Machine) (word : Word) :
    (m.executeWord word).2.hook? = m.hook? := by
  unfold executeWord
  split
  · rfl
  · unfold conclude
    split <;> rfl

theorem hook?_perform (m : Machine) (x : Action) : (m.perform x).hook? = m.hook? := by
  cases x with
  | bus x => rfl
  | step =>
    change m.step.2.hook? = m.hook?
    cases ht : m.taken? with
    | some k => rw [step_interrupt ht]; rfl
    | none =>
      cases hh : m.deliver.bus.interrupts.halted with
      | true => rw [step_idle ht hh]; rfl
      | false => rw [step_execute ht hh]; exact hook?_executeWord m.deliver _

section Record

variable {host? : Option Host} {m : Machine} {h : List Event}

/-- **The recorded bus is the bus.** -/
theorem bus_record (hk : m.hook? = host?.map Host.hook) (x : Action) :
    (m.record host? h x).bus = (m.perform x).bus := by
  cases x with
  | bus x => rfl
  | step =>
    change _ = m.step.2.bus
    unfold record
    dsimp only
    cases ht : m.taken? with
    | some k => rw [step_interrupt ht]
    | none =>
      cases hh : m.deliver.bus.interrupts.halted with
      | true => rw [step_idle ht hh]; rfl
      | false =>
        rw [step_execute ht hh]
        dsimp only
        rw [if_neg (by decide), executeWord]
        cases hd : m.deliver.decoded? m.deliver.fetch with
        | none => rfl
        | some i =>
          dsimp only
          rw [bus_conclude, show m.deliver.hook? = host?.map Host.hook from hk]
          exact congrArg Outcome.memory
            (execute_recorded host? i m.registers (Recorded.perform ⟨m.bus, h⟩ .deliver)).symm

/-- **The record stays faithful.** -/
theorem faithful_record (hf : (⟨m.bus, h⟩ : Recorded).Faithful) (x : Action) :
    (m.record host? h x).Faithful := by
  have hd := hf.perform .deliver
  cases x with
  | bus x => exact hf.perform x
  | step =>
    unfold record
    dsimp only
    cases ht : m.taken? with
    | some k =>
      rw [Recorded.Faithful, Requests.replay_append, requests_interrupt ht]
      exact congrArg (Requests.apply · (.serviced k)) hd
    | none =>
      dsimp only
      split
      · exact hd
      · split
        · exact hd
        · exact faithful_execute host? _ m.registers hd

/-! ## The record of a run -/

/-- **The record that a run keeps is faithful** to its bus. -/
theorem faithful_run (hk : m.hook? = host?.map Host.hook)
    (hf : (⟨m.bus, h⟩ : Recorded).Faithful) (xs : List Action) :
    (⟨(m.performAll xs).bus, m.history host? h xs⟩ : Recorded).Faithful := by
  induction xs generalizing m h with
  | nil => exact hf
  | cons x xs ih =>
    refine ih ((m.hook?_perform x).trans hk) ?_
    have hr := @faithful_record host? m h hf x
    rw [Recorded.Faithful, bus_record hk] at hr
    exact hr

end Record

/-! ## The service of a source -/

/-- The next step services a source and nothing else: it is the first of those that are enabled and
flagged once the queue is delivered, it is taken out of the flags, and every other source that was
flagged or queued is flagged.  The handler starts at its vector, in its own mode. -/
structure Services (m : Machine) (k : Source) : Prop where
  /-- The source is flagged and enabled once the queue is delivered. -/
  ready : SourceSet.has m.deliver.bus.interrupts.ready k = true
  /-- No source that could be taken goes before it. -/
  first : ∀ l, SourceSet.has m.deliver.bus.interrupts.ready l = true → k.index ≤ l.index
  /-- The step enters the handler, at the cost of doing so. -/
  step : m.step = (.ok interruptCycles, m.deliver.interrupt)
  /-- The handler starts at its vector, in its mode, with the way back and the status saved. -/
  starts : m.step.2.registers.Starts m.registers .interrupt (m.registers.pc - 4) 0x18#32
  /-- The source is being serviced. -/
  servicing : m.step.2.bus.interrupts.servicing = some k
  /-- Nothing is left in the queue. -/
  queue : m.step.2.bus.queue = 0#14
  /-- The flag of the source is gone, and the others are as the delivery left them. -/
  flagged : ∀ l, SourceSet.has m.step.2.bus.interrupts.flagged l
    = ((SourceSet.has m.bus.interrupts.flagged l || SourceSet.has m.bus.queue l) && !decide (k = l))

/-- What is taken is the first of the ready sources, and its service begins. -/
theorem services_of_taken? {m : Machine} {k : Source} (h : m.taken? = some k) : m.Services k := by
  obtain ⟨-, hready, hfirst⟩ := taken?_eq_some_iff.mp h
  have hs := step_interrupt h
  have hr := requests_interrupt h
  rw [show m.deliver.bus.requests = m.bus.requests.apply .delivered from m.bus.requests_deliver]
    at hr
  refine ⟨hready, hfirst, hs, ?_, ?_, ?_, fun l => ?_⟩
  · rw [hs]
    exact m.starts_interrupt
  · rw [hs]
    change m.deliver.bus.interrupts.acknowledge.2.servicing = some k
    rw [acknowledge_of_taken? h]
  · rw [hs]
    exact congrArg Requests.queue hr
  · rw [hs]
    refine (congrArg (fun r => SourceSet.has r.flagged l) hr).trans ?_
    simp [Requests.apply, Bus.requests]

/-- A step that takes no interrupt idles or executes an instruction. -/
theorem step_of_not_taken? {m : Machine} (h : m.taken? = none) :
    m.step = (.ok haltCycles, m.deliver.advance haltCycles) ∨ m.step = m.deliver.executeNext := by
  cases hh : m.deliver.bus.interrupts.halted with
  | true => exact .inl (step_idle h hh)
  | false => exact .inr (by rw [step_execute h hh, executeNext_eq])

/-- One that does not idle either executes the instruction at the program counter. -/
theorem executed_step {m : Machine} (h : m.taken? = none)
    (hh : m.deliver.bus.interrupts.halted = false) : m.deliver.Executed m.step := by
  rw [step_execute h hh, ← executeNext_eq]
  exact m.deliver.executed_executeNext

/-- **No interrupt is lost, invented or serviced twice.**  After any actions on a machine that was
freshly built, a source is queued exactly if it was raised after the last delivery, and flagged
exactly if it was delivered or requested after it was last serviced and its flag last cleared.  The
next step services a source exactly if interrupts are on and some source is enabled and flagged once
the queue is delivered, and then it services the first one only; else it idles or executes the
instruction at the program counter. -/
theorem interrupts_accounted (cartridge : Cartridge) (code : List Byte) (host? : Option Host)
    (initialSp? entry? : Option Word) (xs : List Action) :
    let fresh := start {
      bus := (Bus.new cartridge).loadBios code, hook? := host?.map Host.hook, initialSp?, entry? }
    let m := fresh.performAll xs
    let h := fresh.history host? [] xs
    (∀ k, SourceSet.has m.bus.queue k = true ↔ Raised k h)
      ∧ (∀ k, SourceSet.has m.bus.interrupts.flagged k = true ↔ Flagged k h)
      ∧ (m.taken?.isSome = true ↔
          m.deliver.bus.interrupts.master = true ∧ m.deliver.bus.interrupts.ready ≠ 0#14)
      ∧ (∀ k, m.taken? = some k → m.Services k)
      ∧ (m.taken? = none → m.step = (.ok haltCycles, m.deliver.advance haltCycles)
          ∨ m.step = m.deliver.executeNext)
      ∧ (m.taken? = none → m.deliver.bus.interrupts.halted = false →
          m.deliver.Executed m.step) := by
  intro fresh m h
  have hfresh : (⟨fresh.bus, []⟩ : Recorded).Faithful := rfl
  have hf : (⟨m.bus, h⟩ : Recorded).Faithful := faithful_run rfl hfresh xs
  have hq := congrArg Requests.queue hf
  have hg := congrArg Requests.flagged hf
  refine ⟨fun k => ?_, fun k => ?_, taken?_isSome_iff, fun k => services_of_taken?,
    step_of_not_taken?, executed_step⟩
  · rw [← Requests.has_queue_replay_iff]
    exact iff_of_eq (congrArg (SourceSet.has · k = true) hq)
  · rw [← Requests.has_flagged_replay_iff]
    exact iff_of_eq (congrArg (SourceSet.has · k = true) hg)

end Handheld.Machine
