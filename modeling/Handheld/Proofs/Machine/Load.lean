import Handheld.Proofs.Machine.Restore

/-!
# Proofs/Machine/Load — a snapshot is loaded wholly or not at all

A snapshot from anywhere is put to four checks, and the first that fails is what loading reports
(`registers?_eq`).  Done in place, with checks and writes one after another on the machine itself,
loading leaves no machine half written (`run_loadInPlace`).  A snapshot that is accepted is found
again with the bits cleared that stand for nothing, and nothing of the processor that was there
before is found with it (`load_all_or_nothing`).
-/

namespace Handheld

/-- Mode bits encode a mode exactly if they are its code. -/
theorem Mode.ofCode?_eq_some_iff {bits : BitVec 5} {k : Mode} :
    Mode.ofCode? bits = some k ↔ k.code = bits :=
  ⟨Mode.code_of_ofCode?, fun h => h ▸ Mode.ofCode?_code k⟩

/-- Only the bits that name a source are kept in a set. -/
theorem SourceSet.toHalf_ofHalf (h : Half) : toHalf (ofHalf h) = h &&& 0x3FFF#16 := by
  have hm : ∀ j : Fin 16, (0x3FFF#16).getLsbD j = decide (j.val < 14) := by decide
  apply BitVec.eq_of_getLsbD_eq
  intro i hi
  rw [BitVec.getLsbD_and, hm ⟨i, hi⟩]
  simp [toHalf, ofHalf, hi, Bool.and_comm]

namespace Snapshot

/-! ## The checks -/

/-- The five bits of the status word that encode a mode. -/
def modeBits (x : Snapshot) : BitVec 5 := x.status.extractLsb' 0 5

/-- The checks of a snapshot in their order, each with what it reports when it fails. -/
def checks (x : Snapshot) : List (Bool × Rejection) :=
  [(x.version == "1.0", .version x.version),
    (Mode.all.any fun k => k.code == x.modeBits, .invalidMode x.modeBits),
    (x.mode.code == x.modeBits, .modeMismatch x.mode x.status),
    (x.status.getLsbD 5 == x.thumb, .thumbMismatch x.status)]

/-- What the first check that fails reports. -/
def fault? (x : Snapshot) : Option Rejection := (x.checks.find? fun c => !c.1).map Prod.snd

/-- The registers that a snapshot without a fault describes. -/
def describedRegisters (x : Snapshot) : Registers where
  visible := x.registers
  flags := (Psr.ofWord x.status).toFlags
  mode := x.mode
  banks := x.banks

section Faults

variable {x : Snapshot} {k : Mode}

theorem fault?_of_version (hv : x.version ≠ currentVersion) :
    x.fault? = some (.version x.version) := by
  have h : (x.version == "1.0") = false := beq_eq_false_iff_ne.mpr hv
  simp [fault?, checks, h]

theorem any_code_modeBits (x : Snapshot) :
    (Mode.all.any fun k => k.code == x.modeBits) = (Mode.ofCode? x.modeBits).isSome :=
  List.isSome_find?.symm

theorem fault?_of_invalidMode (hv : x.version = currentVersion)
    (hk : Mode.ofCode? x.modeBits = none) : x.fault? = some (.invalidMode x.modeBits) := by
  have hany := any_code_modeBits x
  rw [hk] at hany
  simp [fault?, checks, hv, currentVersion, hany]

/-- With a known version and an encoded mode, two things are left to compare. -/
theorem fault?_of_mode (hv : x.version = currentVersion) (hk : Mode.ofCode? x.modeBits = some k) :
    x.fault? = if k ≠ x.mode then some (.modeMismatch x.mode x.status)
      else if x.status.getLsbD 5 ≠ x.thumb then some (.thumbMismatch x.status)
      else none := by
  have hany := any_code_modeBits x
  rw [hk] at hany
  have hcode : (x.mode.code == x.modeBits) = decide (k = x.mode) := by
    rw [Bool.eq_iff_iff, beq_iff_eq, decide_eq_true_iff, ← Mode.ofCode?_eq_some_iff, hk,
      Option.some_inj]
  have hversion : (x.version == "1.0") = true := beq_iff_eq.mpr hv
  unfold fault? checks
  rw [hversion, hany, hcode]
  by_cases hm : k = x.mode
  · by_cases ht : x.status.getLsbD 5 = x.thumb
    · simp [hm, ← ht]
    · rw [if_pos ht, beq_eq_false_iff_ne.mpr ht]
      simp [hm]
  · simp [hm]

end Faults

/-- **A snapshot describes registers exactly if no check fails**; else the first that fails is
reported. -/
theorem registers?_eq (x : Snapshot) :
    x.registers? = x.fault?.elim (.ok x.describedRegisters) .error := by
  have hparts : Registers.ofParts? x.registers (Psr.ofWord x.status) x.banks
      = (Mode.ofCode? x.modeBits).map fun mode => { x.describedRegisters with mode } := rfl
  unfold registers?
  dsimp only
  rw [hparts]
  by_cases hv : x.version = currentVersion
  · rw [if_neg (not_not_intro hv)]
    cases hk : Mode.ofCode? x.modeBits with
    | none =>
      rw [fault?_of_invalidMode hv hk]
      rfl
    | some k =>
      rw [fault?_of_mode hv hk]
      dsimp only [Option.map_some]
      by_cases hm : k = x.mode
      · rw [if_neg (not_not_intro hm), if_neg (not_not_intro hm)]
        change ite (x.status.getLsbD 5 ≠ x.thumb) _ _ = _
        split
        · rfl
        · rw [hm]
          rfl
      · rw [if_pos hm, if_pos hm]
        rfl
  · rw [if_pos hv, fault?_of_version hv]
    rfl

/-- **No check fails exactly if the version is known and mode and width are the status word's.** -/
theorem fault?_eq_none_iff (x : Snapshot) : x.fault? = none
    ↔ x.version = "1.0" ∧ x.mode.code = x.modeBits ∧ x.status.getLsbD 5 = x.thumb := by
  by_cases hv : x.version = currentVersion
  · cases hk : Mode.ofCode? x.modeBits with
    | none =>
      rw [fault?_of_invalidMode hv hk, ← Mode.ofCode?_eq_some_iff, hk]
      simp
    | some k =>
      rw [fault?_of_mode hv hk, ← Mode.ofCode?_eq_some_iff, hk]
      by_cases hm : k = x.mode
      · rw [if_neg (not_not_intro hm), Option.some_inj]
        simp [hv, hm, currentVersion]
      · simp [hm]
  · rw [fault?_of_version hv]
    simp only [reduceCtorEq, false_iff]
    exact fun h => hv h.1

/-! ## What is kept -/

/-- A snapshot with the bits cleared that stand for nothing. -/
def normalised (x : Snapshot) : Snapshot :=
  { x with
    status := x.status &&& 0xF00000FF#32
    interrupts :=
      { x.interrupts with
        enable := x.interrupts.enable &&& 0x3FFF#16
        flags := x.interrupts.flags &&& 0x3FFF#16 } }

end Snapshot

namespace Machine

/-! ## Loading in place -/

/-- Finds the registers that a snapshot describes, by one check after another. -/
def accept (x : Snapshot) : ExceptT Snapshot.Rejection (StateM Machine) Registers := do
  let p := Psr.ofWord x.status
  unless x.version = Snapshot.currentVersion do throw (.version x.version)
  let mode ← p.mode?.elim (throw (.invalidMode p.modeBits)) pure
  unless mode = x.mode do throw (.modeMismatch x.mode x.status)
  unless p.thumb = x.thumb do throw (.thumbMismatch x.status)
  (Registers.ofParts? x.registers p x.banks).elim (throw (.invalidMode p.modeBits)) pure

/-- Writes to the interrupt controller. -/
def writeController (f : Controller → Controller) (m : Machine) : Machine :=
  { m with bus := m.bus.mapInterrupts f }

/-- The writes of an accepted snapshot, one for each part of the processor. -/
def writes (x : Snapshot) (registers : Registers) : List (Machine → Machine) :=
  [fun m => { m with registers },
    fun m => { m with cycles := x.cycles },
    writeController fun c => { c with enabled := SourceSet.ofHalf x.interrupts.enable },
    writeController fun c => { c with flagged := SourceSet.ofHalf x.interrupts.flags },
    writeController fun c => { c with master := x.interrupts.master },
    writeController fun c => { c with postFlag := x.interrupts.postFlag },
    writeController fun c => { c with halted := x.halted },
    writeController fun c => { c with servicing := x.interrupts.servicing },
    fun m => { m with bus := m.bus.clearQueue }]

/-- Loads a snapshot in place: checks it, then writes to the machine part by part. -/
def loadInPlace (x : Snapshot) : ExceptT Snapshot.Rejection (StateM Machine) Unit := do
  let registers ← accept x
  (writes x registers).forM fun f => modify f

/-- The machine that a snapshot without a fault leads to. -/
def loaded (m : Machine) (x : Snapshot) : Machine :=
  { m with
    registers := x.describedRegisters
    bus := (m.bus.mapInterrupts fun _ => .ofImage x.interrupts x.halted).clearQueue
    cycles := x.cycles }

/-- **Loading tells the fault of a snapshot, or takes its state over.** -/
theorem load_eq (m : Machine) (x : Snapshot) :
    m.load x = x.fault?.elim (.ok (m.loaded x)) .error := by
  unfold load
  rw [x.registers?_eq]
  cases x.fault? <;> rfl

/-- The checks write nothing. -/
theorem run_accept (m : Machine) (x : Snapshot) :
    (accept x).run.run m = pure (x.fault?.elim (.ok x.describedRegisters) .error, m) := by
  by_cases hv : x.version = Snapshot.currentVersion
  · cases hk : Mode.ofCode? x.modeBits with
    | none =>
      have hp : (Psr.ofWord x.status).mode? = none := hk
      have hbits : (Psr.ofWord x.status).modeBits = x.modeBits := rfl
      rw [Snapshot.fault?_of_invalidMode hv hk]
      simp [accept, hv, hp, hbits]
    | some k =>
      have hp : (Psr.ofWord x.status).mode? = some k := hk
      rw [Snapshot.fault?_of_mode hv hk]
      by_cases hm : k = x.mode
      · have hr : Registers.ofParts? x.registers (Psr.ofWord x.status) x.banks
            = some x.describedRegisters := by
          rw [Registers.ofParts?, hp, hm]
          rfl
        rw [if_neg (not_not_intro hm)]
        by_cases ht : x.status.getLsbD 5 = x.thumb
        · have ht' : (Psr.ofWord x.status).thumb = x.thumb := ht
          rw [if_neg (not_not_intro ht)]
          simp [accept, hv, hp, hm, ht', hr]
        · have ht' : ¬(Psr.ofWord x.status).thumb = x.thumb := ht
          rw [if_pos ht]
          simp [accept, hv, hp, hm, ht']
      · rw [if_pos hm]
        simp [accept, hv, hp, hm]
  · rw [Snapshot.fault?_of_version hv]
    simp [accept, hv]

theorem run_forM_modify (fs : List (Machine → Machine)) (m : Machine) :
    (fs.forM fun f => modify f : ExceptT Snapshot.Rejection (StateM Machine) Unit).run.run m
      = pure (.ok (), fs.foldl (fun m f => f m) m) := by
  induction fs generalizing m with
  | nil => rfl
  | cons f rest ih => exact ih (f m)

/-- The fields that are written one after the other are the whole loaded state. -/
theorem foldl_writes (m : Machine) (x : Snapshot) :
    (writes x x.describedRegisters).foldl (fun m f => f m) m = m.loaded x := by
  simp only [writes, List.foldl_cons, List.foldl_nil, writeController, Bus.mapInterrupts,
    Bus.clearQueue, loaded, Controller.ofImage]

/-- **Loading in place writes all or nothing.** -/
theorem run_loadInPlace (m : Machine) (x : Snapshot) :
    (loadInPlace x).run.run m
      = pure (x.fault?.elim (.ok (), m.loaded x) fun e => (.error e, m)) := by
  rw [loadInPlace, ExceptT.run_bind, StateT.run_bind, run_accept, pure_bind]
  cases x.fault? with
  | none =>
    have h := run_forM_modify (writes x x.describedRegisters) m
    rw [foldl_writes] at h
    exact h
  | some e => rfl

/-! ## What is found again -/

variable {m n : Machine} {x : Snapshot}

/-- A snapshot is loaded exactly if it has no fault. -/
theorem load_eq_ok_iff : m.load x = .ok n ↔ x.fault? = none ∧ m.loaded x = n := by
  rw [load_eq]
  cases x.fault? <;> simp

/-- A snapshot is refused exactly for its fault. -/
theorem load_eq_error_iff {e : Snapshot.Rejection} : m.load x = .error e ↔ x.fault? = some e := by
  rw [load_eq]
  cases x.fault? <;> simp

/-- **A snapshot that was loaded is saved again as it was**, but for the bits that stand for
nothing. -/
theorem save_loaded (hx : x.fault? = none) : (m.loaded x).save = x.normalised := by
  obtain ⟨hversion, hmode, hthumb⟩ := x.fault?_eq_none_iff.mp hx
  have hstatus : (m.loaded x).registers.status = Psr.ofWord x.status :=
    congrArg (fun bits => (⟨(Psr.ofWord x.status).toFlags, bits⟩ : Psr)) hmode
  have himage : (m.loaded x).bus.interrupts.image = x.normalised.interrupts := by
    change (Controller.ofImage x.interrupts x.halted).image = _
    simp only [Controller.image, Controller.ofImage, SourceSet.toHalf_ofHalf, Snapshot.normalised]
  have hcurrent : Snapshot.currentVersion = x.version := hversion.symm
  unfold save
  rw [hstatus, himage, Psr.toWord_ofWord, hcurrent,
    show (m.loaded x).registers.flags.thumb = x.thumb from hthumb]
  rfl

/-- Loading leaves the console as it is. -/
theorem sharesConsole_loaded (m : Machine) (x : Snapshot) : (m.loaded x).SharesConsole m := by
  constructor
  all_goals rfl

/-- Nothing but the console is taken over from the machine that was there. -/
theorem SharesConsole.loaded_eq (h : n.SharesConsole m) (x : Snapshot) :
    n.loaded x = m.loaded x := by
  obtain ⟨hbios, hewram, hiwram, hvideo, hsound, hdma, htimers, hserial, hkeypad, hcartridge,
    hhook⟩ := h
  simp only [loaded, Bus.mapInterrupts, Bus.clearQueue, hbios, hewram, hiwram, hvideo, hsound,
    hdma, htimers, hserial, hkeypad, hcartridge, hhook]

/-- **A snapshot is loaded wholly or not at all.**  It is accepted exactly if its version is known
and its mode and width of instructions are those of its status word; the first check that fails is
reported.  A refusal leaves the machine as it is, also if the checks and writes are made in place.
After a load the machine saves the snapshot, less the bits that stand for nothing; nothing is
queued, the console is as it was, and whatever else the machine held is forgotten: any processor in
this console, such as one into which some snapshot was just loaded, becomes the same machine. -/
theorem load_all_or_nothing (m : Machine) (x : Snapshot) :
    ((∃ n, m.load x = .ok n)
        ↔ x.version = "1.0" ∧ x.mode.code = x.modeBits ∧ x.status.getLsbD 5 = x.thumb)
      ∧ (∀ e, m.load x = .error e ↔ x.fault? = some e)
      ∧ (∀ e, m.load x = .error e →
        m.operate (.load x) = (.refused (.rejected e), m)
          ∧ (loadInPlace x).run.run m = (.error e, m))
      ∧ ∀ n, m.load x = .ok n →
        m.operate (.load x) = (.done, n)
          ∧ (loadInPlace x).run.run m = (.ok (), n)
          ∧ n.save = x.normalised ∧ n.bus.queue = 0#14 ∧ n.SharesConsole m
          ∧ (∀ k : Machine, k.SharesConsole m → k.load x = .ok n)
          ∧ ∀ y k, m.load y = .ok k → k.load x = .ok n := by
  refine ⟨?_, fun e => load_eq_error_iff, fun e he => ⟨?_, ?_⟩, fun n hn => ?_⟩
  · rw [← x.fault?_eq_none_iff]
    exact ⟨fun ⟨n, hn⟩ => (load_eq_ok_iff.mp hn).1, fun h => ⟨_, load_eq_ok_iff.mpr ⟨h, rfl⟩⟩⟩
  · rw [operate, he]
    rfl
  · rw [run_loadInPlace, load_eq_error_iff.mp he]
    rfl
  · obtain ⟨hx, rfl⟩ := load_eq_ok_iff.mp hn
    have hsame : ∀ k : Machine, k.SharesConsole m → k.load x = .ok (m.loaded x) := fun k hk =>
      load_eq_ok_iff.mpr ⟨hx, hk.loaded_eq x⟩
    refine ⟨?_, ?_, save_loaded hx, rfl, m.sharesConsole_loaded x, hsame, fun y k hy => ?_⟩
    · rw [operate, hn]
      rfl
    · rw [run_loadInPlace, hx]
      rfl
    · obtain ⟨-, rfl⟩ := load_eq_ok_iff.mp hy
      exact hsame _ (m.sharesConsole_loaded y)

/-- A snapshot with every bit set that stands for nothing. -/
def cluttered : Snapshot where
  version := "1.0"
  registers := Vector.replicate 16 0xFFFFFFFF#32
  status := 0x6FFFFF32#32
  banks := Vector.replicate 6 { savedStatus := 0xFFFFFFFF#32 }
  mode := .interrupt
  thumb := true
  cycles := 7#64
  interrupts := { enable := 0xC001#16, flags := 0xFFFF#16, servicing := some .timer0 }
  halted := true

/-- A snapshot with bits that nothing holds is loaded without them, and one that disagrees with
itself changes nothing. -/
theorem cluttered_all_or_nothing :
    (∃ n, interruptible.load cluttered = .ok n ∧ n.save = cluttered.normalised
        ∧ n.save.status = 0x60000032#32 ∧ n.save.interrupts.enable = 1#16
        ∧ n.load cluttered = .ok n)
      ∧ (loadInPlace { cluttered with mode := .system, thumb := false }).run.run interruptible
        = (.error (.modeMismatch .system 0x6FFFFF32#32), interruptible) := by
  obtain ⟨haccepted, -, -, hloaded⟩ := load_all_or_nothing interruptible cluttered
  obtain ⟨-, hfault, hrefused, -⟩ :=
    load_all_or_nothing interruptible { cluttered with mode := .system, thumb := false }
  obtain ⟨n, hn⟩ := haccepted.mpr ⟨rfl, by decide, by decide⟩
  obtain ⟨-, -, hsave, -, -, -, hagain⟩ := hloaded n hn
  refine ⟨⟨n, hn, hsave, ?_, ?_, hagain _ _ hn⟩, (hrefused _ ((hfault _).mpr ?_)).2⟩
  · rw [hsave]
    decide
  · rw [hsave]
    decide
  · decide

end Machine

end Handheld
