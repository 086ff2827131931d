import Handheld.Machine.State
import Handheld.Proofs.Execution.Alignment
import Handheld.Proofs.Execution.Cases
import Handheld.Proofs.Machine.Step

/-!
# Proofs/Machine/Alignment — the program counter stays aligned

A step leaves the program counter aligned to the instructions then in force: an interrupt starts its
handler at a word, and an instruction goes on at an aligned target or at its successor
(`inStep_step`).  Nothing that a host does to memories and devices reaches the registers, so a
machine that starts aligned, and is given aligned snapshots only, stays aligned
(`pc_stays_aligned`).
-/

namespace Handheld

/-- The program counter of a snapshot is aligned to its instructions. -/
def Snapshot.InStep (s : Snapshot) : Prop :=
  if s.thumb then s.registers[15].toNat % 2 = 0 else s.registers[15].toNat % 4 = 0

/-- Registers from a snapshot in step are in step. -/
theorem Snapshot.InStep.registers {s : Snapshot} (h : s.InStep) {r : Registers}
    (hr : s.registers? = .ok r) : r.InStep := by
  unfold registers? at hr
  dsimp only at hr
  split at hr
  · cases hr
  · split at hr
    · cases hr
    · next r' hparts =>
      obtain ⟨mode, -, rfl⟩ := Option.map_eq_some_iff.mp hparts
      split at hr
      · cases hr
      · split at hr
        · cases hr
        · next hthumb =>
          cases hr
          rw [InStep, ← not_not.mp hthumb] at h
          exact Registers.inStep_iff.mpr h

namespace Machine

variable {m : Machine}

/-! ## One step -/

/-- A machine starts in step if its entry is a multiple of four. -/
theorem inStep_start {s : Setup} (h : ∀ entry, s.entry? = some entry → entry.toNat % 4 = 0) :
    (start s).registers.InStep := by
  -- The stack pointer comes last and is another register, so what counts is the entry point.
  have hsp {r : Registers} (ht : r.flags.thumb = false) (hpc : r.pc.toNat % 4 = 0)
      (sp? : Option Word) : (sp?.elim r (r.write .sp)).InStep := by
    cases sp? with
    | none =>
      change r.InStep
      rw [Registers.inStep_iff, ht]
      exact hpc
    | some sp =>
      change (r.write .sp sp).InStep
      have hf : (r.write .sp sp).flags.thumb = false := ht
      rw [Registers.inStep_iff, r.pc_write_of_ne (by decide), hf]
      exact hpc
  obtain ⟨bus, hook?, initialSp?, entry?⟩ := s
  cases entry? with
  | none =>
    have hr := hsp (r := .initial) rfl rfl initialSp?
    cases initialSp?
    all_goals exact hr
  | some entry =>
    have hpc : (skipStartUp .initial entry).pc = entry := Registers.read_write_self _ .pc entry
    have hr := hsp (r := skipStartUp .initial entry) rfl (hpc ▸ h entry rfl) initialSp?
    cases initialSp?
    all_goals exact hr

/-- The handler of interrupts starts in step, in wide code at a multiple of four. -/
theorem inStep_interrupt (m : Machine) : m.interrupt.registers.InStep := by
  rw [Registers.inStep_iff]
  have hpc : m.interrupt.registers.pc = interruptVector := Registers.read_write_self _ .pc _
  rw [hpc]
  exact (by decide : interruptVector.toNat % 4 = 0)

theorem inStep_conclude (h : m.registers.InStep) {c : Context Bus} (cycles : Nat)
    (hc : c.Settled m.registers.flags.thumb) :
    (m.conclude (c.retire cycles)).2.registers.InStep := by
  change (if c.branched then c.registers
    else c.registers.setPc (m.registers.pc + m.registers.flags.instructionSize)).InStep
  cases hb : c.branched with
  | true => exact hc.jumped hb
  | false =>
    have ht : c.registers.flags.thumb = m.registers.flags.thumb := hc.running hb
    have hnext := c.registers.inStep_setPc (m.registers.pc + m.registers.flags.instructionSize)
    have haligned : (if m.registers.flags.thumb then _ else _) = _ := h.add_instructionSize
    rwa [ht, haligned] at hnext

/-- **An instruction leaves the program counter in step.** -/
theorem inStep_executeWord (h : m.registers.InStep) (word : Word) :
    (m.executeWord word).2.registers.InStep := by
  unfold executeWord
  split
  · exact h
  · next i _ =>
    have hstart := Context.settled_start m.registers m.bus
    cases hc : i.condition.holds m.registers.flags with
    | false =>
      rw [execute_skipped hc]
      exact inStep_conclude h 1 hstart
    | true =>
      by_cases hi : i.operation.IsCoprocessor
      · rw [execute_refused hc hi]
        exact h
      · rw [execute_performed hc hi]
        exact inStep_conclude h _ (Context.settled_perform hstart m.hook? i.operation)

/-- **A step leaves the program counter aligned**, whether it succeeds or fails. -/
theorem inStep_step (h : m.registers.InStep) : m.step.2.registers.InStep := by
  cases ht : m.taken? with
  | some k =>
    rw [step_interrupt ht]
    exact m.deliver.inStep_interrupt
  | none =>
    cases hh : m.deliver.bus.interrupts.halted with
    | true =>
      rw [step_idle ht hh]
      exact h
    | false =>
      rw [step_execute ht hh]
      exact inStep_executeWord (m := m.deliver) h _

/-! ## Runs -/

/-- What can happen to a machine. -/
inductive Happening where
  /-- A step. -/
  | step
  /-- The host changes memories and devices, in any way. -/
  | host (f : Bus → Bus)
  /-- The host loads a snapshot. -/
  | load (s : Snapshot)

/-- The machine after something has happened; a snapshot that is not accepted changes nothing. -/
def happen (m : Machine) : Happening → Machine
  | .step => m.step.2
  | .host f => { m with bus := f m.bus }
  | .load s =>
    match m.load s with
    | .error _ => m
    | .ok restored => restored

/-- The machine after some things have happened. -/
def happenAll (m : Machine) (xs : List Happening) : Machine := xs.foldl happen m

theorem inStep_happen (h : m.registers.InStep) (x : Happening)
    (hx : ∀ s, x = .load s → s.InStep) : (m.happen x).registers.InStep := by
  cases x with
  | step => exact inStep_step h
  | host f => exact h
  | load s =>
    rw [happen]
    split
    · exact h
    · next restored hr =>
      unfold load at hr
      split at hr
      · cases hr
      · next registers hregisters =>
        cases hr
        exact (hx s rfl).registers hregisters

/-- **A run stays in step** if the snapshots that it loads are. -/
theorem inStep_happenAll (h : m.registers.InStep) (xs : List Happening)
    (hloads : ∀ s, .load s ∈ xs → s.InStep) : (m.happenAll xs).registers.InStep := by
  induction xs generalizing m with
  | nil => exact h
  | cons x xs ih =>
    refine ih (inStep_happen h x fun s hs => ?_) fun s hs => ?_
    · exact hloads s (hs ▸ List.mem_cons_self)
    · exact hloads s (List.mem_cons_of_mem x hs)

/-- **The program counter stays aligned to the instructions in force.**  A machine that starts at a
multiple of four, and into which only snapshots are loaded whose program counter is aligned, has an
even program counter whenever its instructions are narrow, and a multiple of four whenever they are
wide, after any steps, successful or not, and whatever the host does to memories and devices. -/
theorem pc_stays_aligned (s : Setup)
    (hentry : ∀ entry, s.entry? = some entry → entry.toNat % 4 = 0) (xs : List Happening)
    (hloads : ∀ snapshot, .load snapshot ∈ xs → snapshot.InStep) :
    let r := ((start s).happenAll xs).registers
    if r.flags.thumb then r.pc.toNat % 2 = 0 else r.pc.toNat % 4 = 0 :=
  Registers.inStep_iff.mp (inStep_happenAll (inStep_start hentry) xs hloads)

/-- A snapshot of narrow code, taken between two words. -/
def narrowSnapshot : Snapshot :=
  { (start { bus := .new (.new #[] 0) }).save with
    registers := Registers.initial.visible.set 15 0x08000002#32
    status := 0x3F#32
    thumb := true }

/-- A step in wide code, a snapshot of narrow code, and the next line of the display. -/
theorem narrow_stays_aligned :
    let fresh := start { bus := .new (.new #[] 0), entry? := some 0x08000000#32 }
    let m := fresh.happenAll [.step, .load narrowSnapshot, .host Bus.advanceLine]
    narrowSnapshot.InStep ∧ m.registers.flags.thumb = true ∧ m.registers.pc.toNat % 2 = 0 := by
  intro fresh m
  have hs : narrowSnapshot.InStep := by
    rw [Snapshot.InStep]
    decide +kernel
  have ht : m.registers.flags.thumb = true := by decide +kernel
  have hpc := pc_stays_aligned { bus := .new (.new #[] 0), entry? := some 0x08000000#32 }
    (fun entry he => by cases he; decide) [.step, .load narrowSnapshot, .host Bus.advanceLine]
    (fun snapshot h => by simp at h; exact h ▸ hs)
  exact ⟨hs, ht, (if_pos ht).mp hpc⟩

end Machine

end Handheld
