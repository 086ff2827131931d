import Handheld.Machine.State
import Handheld.Proofs.Machine.Return
import Handheld.Proofs.Bus.Actions
import Handheld.Proofs.Snapshot.Bytes

/-!
# Proofs/Machine/Restore — a saved machine resumes where it was

A snapshot holds all of the processor, hidden banks and the running service included, and nothing of
the console.  Loaded into any processor in the same console it restores the machine that was saved,
but for the interrupts that were raised and not delivered (`load_save`).  From there on no host can
tell the two machines apart (`load_save_resumes`).
-/

namespace Handheld.Machine

/-! ## What a host does with a machine -/

/-- Why bytes are not loaded. -/
inductive Refusal where
  /-- They are no snapshot. -/
  | malformed (fault : Malformed)
  /-- Their snapshot is not accepted. -/
  | rejected (reason : Snapshot.Rejection)

/-- Loads the snapshot at the front of bytes. -/
def loadBytes (m : Machine) (bytes : List Byte) : Except Refusal Machine :=
  match Snapshot.ofBytes bytes with
  | .error fault => .error (.malformed fault)
  | .ok s => (m.load s).mapError .rejected

/-- What a host asks of a machine. -/
inductive Command where
  /-- A step. -/
  | step
  /-- An action on the bus. -/
  | bus (x : Bus.Action)
  /-- A load from the bus. -/
  | read (w : Width) (a : Word)
  /-- Forgets the queued interrupts. -/
  | clearQueue
  /-- Takes the waiting interrupt from the controller. -/
  | acknowledge
  /-- Changes the controller, to halt the processor for example. -/
  | controller (f : Controller → Controller)
  /-- Changes the cartridge, to replace the save memory for example. -/
  | cartridge (f : Cartridge → Cartridge)
  /-- A snapshot. -/
  | save
  /-- Loads a snapshot. -/
  | load (s : Snapshot)
  /-- Loads a snapshot from bytes. -/
  | loadBytes (bytes : List Byte)
  /-- A look at the machine. -/
  | inspect

/-- What a machine answers. -/
inductive Answer where
  /-- The command is carried out. -/
  | done
  /-- The result of a step. -/
  | stepped (result : Except Fault Nat)
  /-- A value that was loaded. -/
  | value (v : Word)
  /-- The interrupt that was taken. -/
  | taken (k? : Option Source)
  /-- A snapshot. -/
  | saved (s : Snapshot)
  /-- A snapshot was not loaded. -/
  | refused (why : Refusal)
  /-- What a debugger shows. -/
  | shown (i : Inspection)

/-- Takes over the outcome of loading; a snapshot that is refused changes nothing. -/
def adopt (m : Machine) : Except Refusal Machine → Answer × Machine
  | .error why => (.refused why, m)
  | .ok restored => (.done, restored)

/-- Carries a command out. -/
def operate (m : Machine) : Command → Answer × Machine
  | .step => let (result, m) := m.step; (.stepped result, m)
  | .bus x => (.done, { m with bus := m.bus.perform x })
  | .read w a => let (v, bus) := Memory.load m.bus w a; (.value v, { m with bus })
  | .clearQueue => (.done, { m with bus := m.bus.clearQueue })
  | .acknowledge =>
    (.taken m.bus.interrupts.acknowledge.1,
      { m with bus := m.bus.mapInterrupts fun c => c.acknowledge.2 })
  | .controller f => (.done, { m with bus := m.bus.mapInterrupts f })
  | .cartridge f => (.done, { m with bus := { m.bus with cartridge := f m.bus.cartridge } })
  | .save => (.saved m.save, m)
  | .load s => m.adopt ((m.load s).mapError .rejected)
  | .loadBytes bytes => m.adopt (m.loadBytes bytes)
  | .inspect => (.shown m.inspect, m)

/-- Carries some commands out. -/
def operateAll (m : Machine) : List Command → List Answer × Machine
  | [] => ([], m)
  | x :: xs =>
    let (answer, m) := m.operate x
    let (answers, m) := m.operateAll xs
    (answer :: answers, m)

/-! ## Loading what was saved -/

/-- The machine with the interrupts forgotten that were raised and not delivered. -/
def drained (m : Machine) : Machine := { m with bus := m.bus.clearQueue }

/-- Two machines have the same memories, devices, cartridge and host; their processors may differ,
and so may their queues. -/
structure SharesConsole (n m : Machine) : Prop where
  bios : n.bus.bios = m.bus.bios
  ewram : n.bus.ewram = m.bus.ewram
  iwram : n.bus.iwram = m.bus.iwram
  video : n.bus.video = m.bus.video
  sound : n.bus.sound = m.bus.sound
  dma : n.bus.dma = m.bus.dma
  timers : n.bus.timers = m.bus.timers
  serial : n.bus.serial = m.bus.serial
  keypad : n.bus.keypad = m.bus.keypad
  cartridge : n.bus.cartridge = m.bus.cartridge
  hook? : n.hook? = m.hook?

/-- Everything on the bus but the controller and the queue belongs to the console. -/
theorem SharesConsole.bus_eq {m n : Machine} (h : n.SharesConsole m) :
    (n.bus.mapInterrupts fun _ => m.bus.interrupts).clearQueue = m.bus.clearQueue := by
  simp only [Bus.mapInterrupts, Bus.clearQueue, h.bios, h.ewram, h.iwram, h.video, h.sound, h.dma,
    h.timers, h.serial, h.keypad, h.cartridge]

/-- The snapshot of a machine agrees with itself about the mode and the width of instructions, and
it describes the registers with their hidden banks. -/
theorem registers?_save (m : Machine) : m.save.registers? = .ok m.registers := by
  have hparts : Registers.ofParts? m.save.registers (Psr.ofWord m.save.status) m.save.banks
      = some m.registers := by
    change Registers.ofParts? _ (Psr.ofWord m.registers.status.toWord) _ = _
    rw [Psr.ofWord_toWord, Registers.ofParts?, Registers.mode?_status]
    rfl
  have hversion : ¬m.save.version ≠ Snapshot.currentVersion := not_not_intro rfl
  have hmode : ¬m.registers.mode ≠ m.save.mode := not_not_intro rfl
  have hthumb : ¬m.registers.flags.thumb ≠ m.save.thumb := not_not_intro rfl
  unfold Snapshot.registers?
  dsimp only
  rw [if_neg hversion, hparts]
  dsimp only
  rw [if_neg hmode, if_neg hthumb]

/-- **Loading what was saved restores the machine**, but for its queue. -/
theorem load_save {m n : Machine} (h : n.SharesConsole m) : n.load m.save = .ok m.drained := by
  have hc : Controller.ofImage m.save.interrupts m.save.halted = m.bus.interrupts :=
    m.bus.interrupts.ofImage_image
  unfold load
  rw [registers?_save]
  dsimp only
  rw [hc, h.bus_eq, h.hook?]
  rfl

/-- A snapshot that a machine gives can be written. -/
theorem fits_save (m : Machine) : m.save.Fits := by
  change (Utf8.encode Snapshot.currentVersion).length < 1 <<< 64
  decide +kernel

/-- A snapshot that went through bytes restores as it does directly. -/
theorem loadBytes_toBytes_save {m n : Machine} (h : n.SharesConsole m) :
    n.loadBytes m.save.toBytes = .ok m.drained := by
  have hs : Snapshot.ofBytes m.save.toBytes = .ok m.save :=
    Snapshot.ofBytes_eq_ok_iff.mpr ⟨m.fits_save, List.prefix_rfl⟩
  rw [loadBytes, hs]
  dsimp only
  rw [load_save h]
  rfl

/-- **A saved machine resumes where it was.**  In any machine that shares its console, whatever the
processor there is doing, its snapshot is accepted, directly or through bytes, and restores it with
its queue forgotten.  Whatever a host then does, the answers and the machine are those that the
saved machine gives. -/
theorem load_save_resumes (m n : Machine) (h : n.SharesConsole m) :
    n.load m.save = .ok m.drained
      ∧ n.loadBytes m.save.toBytes = .ok m.drained
      ∧ ∀ xs,
        let resumed := m.drained.operateAll xs
        n.operateAll (.load m.save :: xs) = (.done :: resumed.1, resumed.2)
          ∧ n.operateAll (.loadBytes m.save.toBytes :: xs) = (.done :: resumed.1, resumed.2) := by
  refine ⟨load_save h, loadBytes_toBytes_save h, fun xs => ⟨?_, ?_⟩⟩
  · rw [operateAll, operate, load_save h]
    rfl
  · rw [operateAll, operate, loadBytes_toBytes_save h]
    rfl

end Handheld.Machine
