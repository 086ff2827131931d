import Handheld.Bus.Basic

/-!
# Bus/Registers — device registers by address

Every halfword of the register region belongs to one device or to none.  Registers are read and
written by halfwords, with a mask that selects the bytes a narrower store covers; addresses are
offsets in the region.  Reads where no device answers give zero and writes there are dropped.
-/

namespace Handheld

/-- The devices that have registers. -/
inductive Owner where
  /-- The video unit. -/
  | video
  /-- The sound unit. -/
  | sound
  /-- The transfer channels. -/
  | dma
  /-- The timers. -/
  | timers
  /-- The serial link. -/
  | serial
  /-- The keys. -/
  | keypad
  /-- The interrupt controller. -/
  | interrupts
  /-- The cartridge. -/
  | cartridge
  deriving DecidableEq

/-- The device that owns the register at an offset, if one does. -/
def owner? (o : Word) : Option Owner :=
  let within (first last : Word) : Bool := first ≤ o && o ≤ last
  if within 0x000#32 0x05F#32 then some .video
  else if within 0x060#32 0x0AF#32 then some .sound
  else if within 0x0B0#32 0x0FF#32 then some .dma
  else if within 0x100#32 0x10F#32 then some .timers
  else if within 0x130#32 0x133#32 then some .keypad
  else if within 0x120#32 0x1FF#32 then some .serial
  else if within 0x200#32 0x203#32 || within 0x208#32 0x209#32 || within 0x300#32 0x301#32 then
    some .interrupts
  else if within 0x204#32 0x205#32 || within 0x800#32 0x801#32 then some .cartridge
  else none

namespace Bus

/-- Reads the register around an offset. -/
def readRegister (b : Bus) (offset : Word) : Half :=
  let o := offset.alignHalf
  match owner? o with
  | some .video => b.video.read o
  | some .sound => b.sound.read o
  | some .dma => b.dma.read o
  | some .timers => b.timers.read o
  | some .serial => b.serial.read o
  | some .keypad => b.keypad.read o
  | some .interrupts => b.interrupts.read o
  | some .cartridge => b.cartridge.read o
  | none => 0#16

/-- Writes the bits that `mask` selects of the register around an offset. -/
def writeRegister (b : Bus) (offset : Word) (value mask : Half) : Bus :=
  let o := offset.alignHalf
  match owner? o with
  | some .video => { b with video := b.video.write o value mask }
  | some .sound => { b with sound := b.sound.write o value mask }
  | some .dma => { b with dma := b.dma.write o value mask }
  | some .timers => { b with timers := b.timers.write o value mask }
  | some .serial => { b with serial := b.serial.write o value mask }
  | some .keypad => { b with keypad := b.keypad.write o value mask }
  | some .interrupts => { b with interrupts := b.interrupts.write o value mask }
  | some .cartridge => { b with cartridge := b.cartridge.write o value mask }
  | none => b

/-- Reads one byte of the register around an offset. -/
def readRegisterByte (b : Bus) (offset : Word) : Byte :=
  let h := b.readRegister offset
  if offset.getLsbD 0 then h.high else h.low

/-- Writes one byte of the register around an offset. -/
def writeRegisterByte (b : Bus) (offset : Word) (v : Byte) : Bus :=
  if offset.getLsbD 0 then b.writeRegister offset (Half.ofBytes 0#8 v) 0xFF00#16
  else b.writeRegister offset (Half.ofBytes v 0#8) 0x00FF#16

end Bus

end Handheld
