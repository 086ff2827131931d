import Handheld.Proofs.Execution.File
import Handheld.Proofs.Machine.Load

/-!
# Proofs/Machine/File — a machine whose mode stands beside its status

`FileMachine` is the machine on a `RegisterFile`: it sets up, steps, takes interrupts, saves and
loads as `Machine` does, but it keeps the mode both in the status and beside it, saves them both,
and on loading compares the one with the other.  A machine in which they differ saves a snapshot
that no machine accepts (`load_save_iff`), so resuming rests on an invariant: a machine that was set
up as a `Machine` is set up, and did what a host can ask for, is the file of that machine
(`operateAll_start`), and there the two agree.
-/

namespace Handheld

/-- The processor, its mode both in the status and beside it, and its console. -/
structure FileMachine where
  /-- The registers. -/
  file : RegisterFile
  /-- The memories and devices. -/
  bus : Bus
  /-- The host's handler of software interrupts, if there is one. -/
  hook? : Option (Hook Bus)
  /-- The cycles since the start. -/
  cycles : Double

namespace FileMachine

/-! ## Setting up and stepping -/

/-- A machine that was just switched on. -/
def start (s : Setup) : FileMachine :=
  let f := match s.entry? with
    | some entry =>
      ((RegisterFile.initial.setBankedSp .supervisor Machine.supervisorSp).setBankedSp .interrupt
        Machine.interruptSp).setPc entry
    | none => .initial
  let f := match s.initialSp? with
    | some sp => f.write .sp sp
    | none => f
  { file := f, bus := s.bus, hook? := s.hook?, cycles := 0#64 }

/-- The register file when the handler of interrupts starts. -/
def enterInterrupt (f : RegisterFile) : RegisterFile :=
  (f.enterException .interrupt (f.pc - 4)).setPc Machine.interruptVector

/-- The word or halfword at the program counter. -/
def fetch (m : FileMachine) : Word :=
  if m.file.status.thumb then (m.bus.loadHalf m.file.pc).setWidth 32 else m.bus.loadWord m.file.pc

/-- Executes the instruction at the program counter and moves on to the next, unless it jumped. -/
def executeNext (m : FileMachine) : Except Fault Nat × FileMachine :=
  let word := m.fetch
  match decode? m.file.status.thumb word with
  | none => (.error (.undefined m.file.pc word), m)
  | some i =>
    let next := m.file.pc + m.file.status.instructionSize
    let o := m.file.execute m.hook? i m.bus
    match o.result with
    | .error fault => (.error fault, { m with file := o.file, bus := o.memory })
    | .ok retired =>
      let f := if retired.branched then o.file else o.file.setPc next
      (.ok retired.cycles,
        { m with file := f, bus := o.memory, cycles := m.cycles + BitVec.ofNat 64 retired.cycles })

/-- One step: takes an interrupt, idles, or executes an instruction. -/
def step (m : FileMachine) : Except Fault Nat × FileMachine :=
  let m := { m with bus := m.bus.deliver }
  match m.bus.interrupts.acknowledge with
  | (some _, controller) =>
    (.ok Machine.interruptCycles,
      { m with
        file := enterInterrupt m.file
        bus := m.bus.mapInterrupts fun _ => controller
        cycles := m.cycles + BitVec.ofNat 64 Machine.interruptCycles })
  | (none, _) =>
    if m.bus.interrupts.halted then
      (.ok Machine.haltCycles, { m with cycles := m.cycles + BitVec.ofNat 64 Machine.haltCycles })
    else m.executeNext

/-! ## Saving and loading -/

/-- The state of the processor: the status with its mode bits, and the mode beside it. -/
def save (m : FileMachine) : Snapshot where
  version := Snapshot.currentVersion
  registers := m.file.visible
  status := m.file.status.toWord
  banks := m.file.banks
  mode := m.file.mode
  thumb := m.file.status.thumb
  cycles := m.cycles
  interrupts := m.bus.interrupts.image
  halted := m.bus.interrupts.halted

/-- Puts the processor into the state of a snapshot, if this has the version that is known, a mode
in its status, this mode beside it, and the width of instructions that the status tells. -/
def load (m : FileMachine) (x : Snapshot) : Except Snapshot.Rejection FileMachine :=
  if x.version ≠ Snapshot.currentVersion then .error (.version x.version)
  else
    let status := Psr.ofWord x.status
    match status.mode? with
    | none => .error (.invalidMode status.modeBits)
    | some mode =>
      if mode ≠ x.mode then .error (.modeMismatch x.mode x.status)
      else if status.thumb ≠ x.thumb then .error (.thumbMismatch x.status)
      else
        match RegisterFile.ofParts? x.registers status x.banks with
        | none => .error (.invalidMode status.modeBits)
        | some file =>
          .ok
            { m with
              file
              bus := (m.bus.mapInterrupts fun _ => .ofImage x.interrupts x.halted).clearQueue
              cycles := x.cycles }

/-- Loads the snapshot at the front of bytes. -/
def loadBytes (m : FileMachine) (bytes : List Byte) : Except Machine.Refusal FileMachine :=
  match Snapshot.ofBytes bytes with
  | .error fault => .error (.malformed fault)
  | .ok x => (m.load x).mapError .rejected

/-- The machine with the interrupts forgotten that were raised and not delivered. -/
def drained (m : FileMachine) : FileMachine := { m with bus := m.bus.clearQueue }

/-! ## What a host does with a machine -/

/-- What a debugger shows of a machine. -/
structure Inspection where
  /-- The visible registers. -/
  registers : Vector Word 16
  /-- The status word. -/
  status : Word
  /-- Instructions are narrow. -/
  thumb : Bool
  /-- The mode beside the status. -/
  mode : Mode
  /-- What the interrupt controller is doing. -/
  interrupts : Controller.State
  /-- The cycles since the start. -/
  cycles : Double
  /-- The word or halfword at the program counter. -/
  nextWord : Word
  /-- The instruction there, if there is one. -/
  next? : Option Instruction

/-- Looks at a machine. -/
def inspect (m : FileMachine) : Inspection where
  registers := m.file.visible
  status := m.file.status.toWord
  thumb := m.file.status.thumb
  mode := m.file.mode
  interrupts := m.bus.interrupts.state
  cycles := m.cycles
  nextWord := m.fetch
  next? := decode? m.file.status.thumb m.fetch

/-- What a machine answers: what `Machine` answers, or what a debugger shows. -/
inductive Answer where
  /-- An answer that tells nothing of the registers. -/
  | plain (a : Machine.Answer)
  /-- What a debugger shows. -/
  | shown (i : Inspection)

/-- The command is carried out. -/
def done : Answer := .plain .done

/-- Takes over the outcome of loading; a snapshot that is refused changes nothing. -/
def adopt (m : FileMachine) : Except Machine.Refusal FileMachine → Answer × FileMachine
  | .error why => (.plain (.refused why), m)
  | .ok restored => (done, restored)

/-- Carries a command out. -/
def operate (m : FileMachine) : Machine.Command → Answer × FileMachine
  | .step => let (result, m) := m.step; (.plain (.stepped result), m)
  | .bus x => (done, { m with bus := m.bus.perform x })
  | .read w a => let (v, bus) := Memory.load m.bus w a; (.plain (.value v), { m with bus })
  | .clearQueue => (done, { m with bus := m.bus.clearQueue })
  | .acknowledge =>
    (.plain (.taken m.bus.interrupts.acknowledge.1),
      { m with bus := m.bus.mapInterrupts fun c => c.acknowledge.2 })
  | .controller f => (done, { m with bus := m.bus.mapInterrupts f })
  | .cartridge f => (done, { m with bus := { m.bus with cartridge := f m.bus.cartridge } })
  | .save => (.plain (.saved m.save), m)
  | .load x => m.adopt ((m.load x).mapError .rejected)
  | .loadBytes bytes => m.adopt (m.loadBytes bytes)
  | .inspect => (.shown m.inspect, m)

/-- Carries some commands out. -/
def operateAll (m : FileMachine) : List Machine.Command → List Answer × FileMachine
  | [] => ([], m)
  | x :: xs =>
    let (answer, m) := m.operate x
    let (answers, m) := m.operateAll xs
    (answer :: answers, m)

/-- The machine without the mode bits of its status. -/
def view (m : FileMachine) : Machine := ⟨m.file.view, m.bus, m.hook?, m.cycles⟩

/-- Two machines have the same console; their registers may differ, and neither has to agree with
itself. -/
def SharesConsole (n m : FileMachine) : Prop := n.view.SharesConsole m.view

end FileMachine

/-! ## The file of a machine -/

namespace Machine

/-- A machine with its mode written into its status. -/
def file (m : Machine) : FileMachine := ⟨m.registers.file, m.bus, m.hook?, m.cycles⟩

/-- What a debugger shows of the file of a machine. -/
def Inspection.file (i : Inspection) : FileMachine.Inspection where
  registers := i.registers.visible
  status := i.registers.status.toWord
  thumb := i.registers.flags.thumb
  mode := i.registers.mode
  interrupts := i.interrupts
  cycles := i.cycles
  nextWord := i.nextWord
  next? := i.next?

/-- The answer of the file of a machine. -/
def Answer.file : Answer → FileMachine.Answer
  | .shown i => .shown i.file
  | a => .plain a

/-- However it is set up, a machine starts with its mode in the status. -/
theorem file_start (s : Setup) : (start s).file = FileMachine.start s := by
  unfold start FileMachine.start
  rw [RegisterFile.initial_eq]
  cases s.entry? with
  | none => cases s.initialSp? <;> rfl
  | some entry =>
    rw [← Registers.file_setBankedSp, ← Registers.file_setBankedSp]
    cases s.initialSp? <;> rfl

theorem file_enterInterrupt (r : Registers) :
    (enterInterrupt r).file = FileMachine.enterInterrupt r.file := by
  rw [FileMachine.enterInterrupt]
  exact congrArg (·.setPc interruptVector) (r.file_enterException .interrupt (r.pc - 4))

variable (m : Machine)

/-- An instruction leaves the file of what it leaves of the registers. -/
theorem file_executeNext :
    m.file.executeNext = (m.executeNext.1, m.executeNext.2.file) := by
  rw [executeNext_eq, executeWord, FileMachine.executeNext]
  have hfetch : m.file.fetch = m.fetch := rfl
  have hthumb : m.file.file.status.thumb = m.registers.flags.thumb := rfl
  rw [hfetch, hthumb, decoded?]
  cases decode? m.registers.flags.thumb m.fetch with
  | none => rfl
  | some i =>
    have ho : m.file.file.execute m.file.hook? i m.file.bus
        = (execute m.hook? i m.registers m.bus).file :=
      (Outcome.file_execute m.registers m.hook? i m.bus).symm
    simp only [ho, conclude]
    generalize execute m.hook? i m.registers m.bus = o
    obtain ⟨r, bus, result⟩ := o
    cases result with
    | error fault => rfl
    | ok retired =>
      cases hb : retired.branched <;> simp [hb, Outcome.file] <;> rfl

/-- **A step of the file is the file of the step**, with the same result. -/
theorem file_step : m.file.step = (m.step.1, m.step.2.file) := by
  cases hk : m.taken? with
  | some k =>
    -- Both acknowledge the same controller, so both take the same branch.
    have h : m.file.step = (.ok interruptCycles, { m.deliver.interrupt.file with
        file := FileMachine.enterInterrupt m.registers.file }) := by
      unfold FileMachine.step
      dsimp only
      split
      · next c hc =>
        have hc' : c = m.deliver.bus.interrupts.acknowledge.2 := (congrArg Prod.snd hc).symm
        rw [hc']
        rfl
      · next c hc => exact absurd (hk.symm.trans (congrArg Prod.fst hc)) (by simp)
    rw [h, step_interrupt hk, ← file_enterInterrupt]
    rfl
  | none =>
    have h : m.file.step = if m.deliver.bus.interrupts.halted then
        (.ok haltCycles, (m.deliver.advance haltCycles).file) else m.deliver.file.executeNext := by
      unfold FileMachine.step
      dsimp only
      split
      · next k c hc => exact absurd (hk.symm.trans (congrArg Prod.fst hc)) (by simp)
      · rfl
    rw [h]
    cases hh : m.deliver.bus.interrupts.halted with
    | true =>
      rw [step_idle hk hh]
      rfl
    | false =>
      rw [step_execute hk hh, ← executeNext_eq, if_neg nofun]
      exact m.deliver.file_executeNext

/-- A snapshot is accepted or refused alike, and for the same reason. -/
theorem file_load (x : Snapshot) : m.file.load x = (m.load x).map file := by
  rw [FileMachine.load, load, Snapshot.registers?, Registers.ofParts?]
  by_cases hv : x.version ≠ Snapshot.currentVersion
  · rw [if_pos hv, if_pos hv]
    rfl
  · rw [if_neg hv, if_neg hv]
    dsimp only
    cases hm : (Psr.ofWord x.status).mode? with
    | none => rfl
    | some mode =>
      have hcode : mode.code = (Psr.ofWord x.status).modeBits := Mode.code_of_ofCode? hm
      simp only [Option.map_some, RegisterFile.ofParts?, hm]
      split
      · rfl
      · split
        · rfl
        · have hfile : RegisterFile.mk x.registers (Psr.ofWord x.status) mode x.banks
              = (Registers.mk x.registers (Psr.ofWord x.status).toFlags mode x.banks).file := by
            rw [Registers.file, Registers.status, hcode]
          rw [hfile]
          rfl

theorem file_loadBytes (bytes : List Byte) :
    m.file.loadBytes bytes = (m.loadBytes bytes).map file := by
  rw [FileMachine.loadBytes, loadBytes]
  cases Snapshot.ofBytes bytes with
  | error fault => rfl
  | ok x =>
    dsimp only
    rw [file_load]
    cases m.load x <;> rfl

theorem file_adopt (outcome : Except Refusal Machine) :
    m.file.adopt (outcome.map file) = ((m.adopt outcome).1.file, (m.adopt outcome).2.file) := by
  cases outcome <;> rfl

/-- **Each command does to the file of a machine what it does to the machine**, with the same
answer. -/
theorem file_operate (x : Command) :
    m.file.operate x = ((m.operate x).1.file, (m.operate x).2.file) := by
  cases x with
  | step =>
    rw [FileMachine.operate, file_step]
    rfl
  | load x =>
    have h : ((m.load x).map file).mapError Refusal.rejected
        = ((m.load x).mapError .rejected).map file := by
      cases m.load x <;> rfl
    rw [FileMachine.operate, file_load, h]
    exact m.file_adopt _
  | loadBytes bytes =>
    rw [FileMachine.operate, file_loadBytes]
    exact m.file_adopt _
  | _ => rfl

/-- **What a host does with the file it does with the machine**, command by command. -/
theorem file_operateAll (xs : List Command) :
    m.file.operateAll xs = ((m.operateAll xs).1.map Answer.file, (m.operateAll xs).2.file) := by
  induction xs generalizing m with
  | nil => rfl
  | cons x xs ih =>
    rw [FileMachine.operateAll, file_operate]
    dsimp only
    rw [ih]
    rfl

end Machine

/-! ## Every machine that was switched on -/

namespace FileMachine

/-- A machine that was set up and did what a host asks for is the file of one. -/
theorem operateAll_start (s : Setup) (xs : List Machine.Command) :
    ((start s).operateAll xs).2 = ((Machine.start s).operateAll xs).2.file := by
  rw [← Machine.file_start, Machine.file_operateAll]

/-- **In every machine that a host can bring about the status encodes the mode beside it.** -/
theorem agrees_operateAll (s : Setup) (xs : List Machine.Command) :
    ((start s).operateAll xs).2.file.Agrees := by
  rw [operateAll_start]
  exact RegisterFile.agrees_file _

/-- Loading looks at nothing that the registers hold. -/
theorem load_view (n : FileMachine) (x : Snapshot) : n.view.file.load x = n.load x := rfl

theorem loadBytes_view (n : FileMachine) (bytes : List Byte) :
    n.view.file.loadBytes bytes = n.loadBytes bytes := rfl

/-- **A saved machine is accepted exactly if its status encodes the mode beside it.** -/
theorem load_save_iff (m n : FileMachine) :
    (∃ k, n.load m.save = .ok k) ↔ m.file.Agrees := by
  have hversion : ¬m.save.version ≠ Snapshot.currentVersion := not_not_intro rfl
  have hstatus : Psr.ofWord m.save.status = m.file.status := m.file.status.ofWord_toWord
  have hthumb : ¬m.file.status.thumb ≠ m.save.thumb := not_not_intro rfl
  have hmode : m.save.mode = m.file.mode := rfl
  rw [load, if_neg hversion, hstatus, hmode, RegisterFile.Agrees]
  dsimp only
  cases hm : m.file.status.mode? with
  | none => simp
  | some mode =>
    dsimp only
    rw [if_neg hthumb, RegisterFile.ofParts?, hm]
    by_cases h : mode = m.file.mode
    · rw [if_neg (not_not_intro h)]
      simp [h]
    · rw [if_pos h]
      simp [h]

/-- What the file of a machine saves restores it, but for its queue, also where the registers that
were there do not agree with themselves. -/
theorem load_save_file {k : Machine} {n : FileMachine} (h : n.SharesConsole k.file) :
    n.load k.file.save = .ok k.file.drained
      ∧ n.loadBytes k.file.save.toBytes = .ok k.file.drained := by
  obtain ⟨hload, hbytes, -⟩ := Machine.load_save_resumes k n.view h
  rw [← load_view, ← loadBytes_view, Machine.file_load, Machine.file_loadBytes]
  exact ⟨congrArg (Except.map Machine.file) hload, congrArg (Except.map Machine.file) hbytes⟩

/-- **A saved machine resumes where it was.** However it was set up and whatever was done to it, its
status encodes the mode beside it, so its snapshot is accepted, directly or through bytes, by any
machine that shares its console, whatever the processor there holds, and restores it there with its
queue forgotten.  Whatever a host then does, the answers and the machine are those that the saved
machine gives.  That the two agree is what this takes: no machine accepts the snapshot of one in
which they differ. -/
theorem saved_machine_resumes (s : Setup) (xs : List Machine.Command) (n : FileMachine)
    (h : n.SharesConsole ((start s).operateAll xs).2) :
    let m := ((start s).operateAll xs).2
    m.file.status.mode? = some m.file.mode
      ∧ n.load m.save = .ok m.drained
      ∧ n.loadBytes m.save.toBytes = .ok m.drained
      ∧ (∀ ys,
        let resumed := m.drained.operateAll ys
        n.operateAll (.load m.save :: ys) = (done :: resumed.1, resumed.2)
          ∧ n.operateAll (.loadBytes m.save.toBytes :: ys) = (done :: resumed.1, resumed.2))
      ∧ ∀ k : FileMachine, ¬k.file.Agrees → ∀ j, n.load k.save ≠ .ok j := by
  intro m
  have hm : m = ((Machine.start s).operateAll xs).2.file := operateAll_start s xs
  have agrees : m.file.Agrees := agrees_operateAll s xs
  have hshare : n.SharesConsole m := h
  -- From here on all that is known of the machine is that it is the file of one.
  clear_value m
  subst hm
  obtain ⟨hload, hbytes⟩ := load_save_file hshare
  refine ⟨agrees, hload, hbytes, fun ys => ⟨?_, ?_⟩,
    fun k hk j hj => hk ((load_save_iff k n).mp ⟨j, hj⟩)⟩
  · rw [operateAll, operate, hload]
    rfl
  · rw [operateAll, operate, hbytes]
    rfl

/-- A machine that has just taken an interrupt, restored where a processor stands in a mode that its
status does not tell. -/
theorem interrupted_machine_resumes :
    let s : Setup := { bus := Bus.new (.new #[] 0) }
    let m := ((start s).operateAll
      [.controller fun _ => { enabled := 1#14, flagged := 1#14, master := true }, .step]).2
    let n := { m with file := { RegisterFile.initial with mode := .abort }, cycles := 9#64 }
    n.SharesConsole m ∧ m.file.mode = .interrupt ∧ n.load m.save = .ok m.drained
      ∧ (∀ j, n.load n.save ≠ .ok j)
      ∧ n.operateAll [.loadBytes m.save.toBytes, .step]
        = (done :: (m.drained.operateAll [.step]).1, (m.drained.operateAll [.step]).2) := by
  intro s m n
  have h : n.SharesConsole m := by
    constructor
    all_goals rfl
  obtain ⟨-, hload, -, hresume, hrefused⟩ := saved_machine_resumes s _ n h
  exact ⟨h, by decide +kernel, hload, hrefused n (by decide), (hresume [.step]).2⟩

end FileMachine

end Handheld
