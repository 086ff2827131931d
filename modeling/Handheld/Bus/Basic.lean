import Handheld.Device.Video
import Handheld.Device.Sound
import Handheld.Device.Keypad
import Handheld.Device.Cartridge
import Handheld.Interrupt.Controller

/-!
# Bus/Basic — the console around the processor

The bus holds every memory and device.  Interrupts that devices raise wait in a queue, which is a
set: raising a source twice is raising it once.  Delivering the queue requests its sources from the
controller.
-/

namespace Handheld

/-- Everything that the processor reaches by an address. -/
structure Bus where
  /-- The start-up code, which cannot be written. -/
  bios : Ram 14
  /-- The large working memory. -/
  ewram : Ram 18
  /-- The fast working memory. -/
  iwram : Ram 15
  /-- The video unit. -/
  video : Video
  /-- The sound unit. -/
  sound : Sound
  /-- The registers of the transfer channels. -/
  dma : RegisterBlock 0xB0#32 40
  /-- The registers of the timers. -/
  timers : RegisterBlock 0x100#32 8
  /-- The registers of the serial link. -/
  serial : RegisterBlock 0x120#32 112
  /-- The keys. -/
  keypad : Keypad
  /-- The interrupt controller. -/
  interrupts : Controller
  /-- The cartridge. -/
  cartridge : Cartridge
  /-- The interrupts that were raised and not yet delivered. -/
  queue : SourceSet

namespace Bus

/-- A console that was just switched on with a cartridge. -/
def new (cartridge : Cartridge) : Bus where
  bios := .zeros 14
  ewram := .zeros 18
  iwram := .zeros 15
  video := .initial
  sound := .initial
  dma := .zeros 0xB0#32 40
  timers := .zeros 0x100#32 8
  serial := .zeros 0x120#32 112
  keypad := {}
  interrupts := {}
  cartridge
  queue := 0#14

/-- Copies start-up code in, as much as there is room for. -/
def loadBios (b : Bus) (code : List Byte) : Bus :=
  let copied := (code.take (Ram.size 14)).zipIdx.foldl
    (fun r (v, i) => r.storeByte (BitVec.ofNat 32 i) v) b.bios
  { b with bios := copied }

/-! ## Interrupts -/

/-- Queues an interrupt. -/
def raise (b : Bus) (k : Source) : Bus := { b with queue := b.queue.insert k }

/-- Requests the queued interrupts from the controller, the first-served first. -/
def deliver (b : Bus) : Bus :=
  { b with
    interrupts := (Source.all.filter (SourceSet.has b.queue)).foldl Controller.request b.interrupts
    queue := 0#14 }

/-- Forgets the queued interrupts. -/
def clearQueue (b : Bus) : Bus := { b with queue := 0#14 }

/-- Changes the controller. -/
def mapInterrupts (b : Bus) (f : Controller → Controller) : Bus :=
  { b with interrupts := f b.interrupts }

/-! ## Devices -/

/-- Moves the video unit on to the next line. -/
def advanceLine (b : Bus) : Bus :=
  let (video, raised) := b.video.advanceLine
  { b with video, queue := b.queue ||| raised }

/-- Presses a key. -/
def press (b : Bus) (k : Key) : Bus :=
  let (keypad, raised) := b.keypad.press k
  { b with keypad, queue := b.queue ||| raised }

/-- Releases a key. -/
def release (b : Bus) (k : Key) : Bus :=
  let (keypad, raised) := b.keypad.release k
  { b with keypad, queue := b.queue ||| raised }

end Bus

end Handheld
