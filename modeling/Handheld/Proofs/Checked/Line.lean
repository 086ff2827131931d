import Handheld.Proofs.Bus.Protection
import Handheld.Proofs.Machine.History

/-!
# Proofs/Checked/Line — the line counter stays below its limit

The next line is the only thing on the bus that could overflow, and nothing but the next line moves
the line counter: stores leave it alone, and so does an instruction, whatever it stores.  An
instruction is executed on a bus that carries the bound along (`Paced.execute`), as it is on a bus
that carries a record.  The host's handler of software interrupts has to keep the bound too.
-/

namespace Handheld

/-! ## The bus -/

namespace Bus

/-- The line counter is below its limit. -/
def Paced (b : Bus) : Prop := b.video.line < Video.totalLines

/-- A bus that was just built is at its first line. -/
theorem paced_new (cartridge : Cartridge) : (new cartridge).Paced := by
  change 0#16 < Video.totalLines
  decide

variable {b : Bus}

/-- No stored byte moves the line counter past its limit. -/
theorem Paced.storeByte (h : b.Paced) (a : Word) (v : Byte) : (b.storeByte a v).Paced := by
  have hline : (b.storeByte a v).video.line = b.video.line :=
    congrArg Sealed.line (b.protected_storeByte a v).kept
  rw [Paced, hline]
  exact h

/-- A halfword is two bytes, none of which does. -/
theorem Paced.storeHalf (h : b.Paced) (a : Word) (v : Half) : (b.storeHalf a v).Paced := by
  rw [storeHalf_eq_bytes]
  exact (h.storeByte _ _).storeByte _ _

theorem Paced.storeWord (h : b.Paced) (a v : Word) : (b.storeWord a v).Paced := by
  rw [storeWord_eq_bytes]
  exact (((h.storeByte _ _).storeByte _ _).storeByte _ _).storeByte _ _

/-- The next line after the last is the first. -/
theorem Paced.advanceLine (b : Bus) : b.advanceLine.Paced := by
  rw [Paced, BitVec.lt_def]
  change ((b.video.line + 1) % Video.totalLines).toNat < Video.totalLines.toNat
  rw [BitVec.toNat_umod]
  exact Nat.mod_lt _ (by decide)

/-- **Every action keeps the line counter below its limit.** -/
theorem Paced.perform (h : b.Paced) (x : Action) : (b.perform x).Paced := by
  cases x with
  | advanceLine => exact Paced.advanceLine b
  | storeByte a v => exact h.storeByte a v
  | storeHalf a v => exact h.storeHalf a v
  | storeWord a v => exact h.storeWord a v
  | _ => exact h

end Bus

/-! ## Instructions -/

/-- A host's handler that keeps the line counter below its limit. -/
def Hook.Paces (hook : Hook Bus) : Prop := ∀ call b, b.Paced → (hook call b).2.Paced

/-- A handler that uses the bus by its actions cannot do otherwise. -/
theorem Host.paces_hook (host : Host) : host.hook.Paces := by
  intro call b h
  change (b.performAll (host call b).2).Paced
  generalize (host call b).2 = xs
  induction xs generalizing b with
  | nil => exact h
  | cons x xs ih => exact ih (b.perform x) (h.perform x)

/-- A bus whose line counter is below its limit. -/
abbrev PacedBus := { b : Bus // b.Paced }

namespace PacedBus

instance : Memory PacedBus where
  loadByte b a := (b.val.loadByte a, b)
  loadHalf b a := (b.val.loadHalf a, b)
  loadWord b a := (b.val.loadWord a, b)
  storeByte b a v := ⟨b.val.storeByte a v, b.property.storeByte a v⟩
  storeHalf b a v := ⟨b.val.storeHalf a v, b.property.storeHalf a v⟩
  storeWord b a v := ⟨b.val.storeWord a v, b.property.storeWord a v⟩

/-- Forgetting that a bus is paced forgets nothing of its memory. -/
theorem respects_val : Memory.Respects (Subtype.val : PacedBus → Bus) :=
  ⟨fun _ _ => rfl, fun _ _ => rfl, fun _ _ => rfl, fun _ _ _ => rfl, fun _ _ _ => rfl,
    fun _ _ _ => rfl⟩

end PacedBus

/-- The handler on a bus whose line counter is below its limit. -/
def Hook.paced (hook : Hook Bus) (h : hook.Paces) : Hook PacedBus := fun call b =>
  ((hook call b.val).1, ⟨(hook call b.val).2, h call b.val b.property⟩)

/-- **No instruction moves the line counter past its limit.** -/
theorem Bus.Paced.execute {b : Bus} (h : b.Paced) {hook? : Option (Hook Bus)}
    (hh : ∀ hook ∈ hook?, hook.Paces) (i : Instruction) (r : Registers) :
    (Handheld.execute hook? i r b).memory.Paced := by
  have hrel : Option.Rel (Hook.Follows Subtype.val) (hook?.pmap Hook.paced hh) hook? := by
    cases hook? with
    | none => exact .none
    | some hook => exact .some fun call b => rfl
  have he := execute_map PacedBus.respects_val hrel i r ⟨b, h⟩
  rw [show ((⟨b, h⟩ : PacedBus) : Bus) = b from rfl] at he
  rw [he]
  exact (Handheld.execute (hook?.pmap Hook.paced hh) i r (⟨b, h⟩ : PacedBus)).memory.property

/-! ## The machine -/

namespace Machine

variable {m : Machine}

/-- An instruction keeps the line counter below its limit if the handler of the host does. -/
theorem paced_executeWord (h : m.bus.Paced) (hh : ∀ hook ∈ m.hook?, hook.Paces) (word : Word) :
    (m.executeWord word).2.bus.Paced := by
  unfold executeWord
  cases m.decoded? word with
  | none => exact h
  | some i =>
    dsimp only
    rw [bus_conclude]
    exact h.execute hh i m.registers

/-- **A step keeps the line counter below its limit** if the handler of the host does. -/
theorem paced_step (h : m.bus.Paced) (hh : ∀ hook ∈ m.hook?, hook.Paces) :
    m.step.2.bus.Paced := by
  have hd : m.deliver.bus.Paced := h
  cases ht : m.taken? with
  | some k =>
    rw [step_interrupt ht]
    exact hd
  | none =>
    cases hhalt : m.deliver.bus.interrupts.halted with
    | true =>
      rw [step_idle ht hhalt]
      exact hd
    | false =>
      rw [step_execute ht hhalt]
      exact paced_executeWord hd hh m.deliver.fetch

end Machine

end Handheld
