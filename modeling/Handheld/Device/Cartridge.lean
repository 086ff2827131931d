import Handheld.Interrupt.Source

/-!
# Device/Cartridge — the program, the save memory and their two registers

The program cannot be written, and reads as all ones past its end, as does the save memory.  A byte
written to the save memory marks it as changed and raises an interrupt; the mark is cleared by
writing a one to it.
-/

namespace Handheld

/-- A cartridge. -/
structure Cartridge where
  /-- The program. -/
  rom : Array Byte
  /-- The save memory. -/
  save : Array Byte
  /-- The register of access times. -/
  waitControl : Half := 0#16
  /-- The register that marks changes. -/
  changed : Half := 0#16
  deriving DecidableEq

namespace Cartridge

/-- The address of the register of access times. -/
def waitControlAddress : Word := 0x204#32

/-- The address of the register that marks changes. -/
def changedAddress : Word := 0x800#32

/-- The size of a save memory of which nothing is said. -/
def defaultSaveSize : Nat := 0x10000

/-- A cartridge whose save memory of `saveSize` bytes is all ones. -/
def new (rom : Array Byte) (saveSize : Nat) : Cartridge where
  rom
  save := Array.replicate saveSize 0xFF#8

/-- The four letters that name the game, if the program is long enough to hold them. -/
def gameCode? (c : Cartridge) : Option String :=
  if 0xB0 ≤ c.rom.size then
    some (String.ofList ((c.rom.extract 0xAC 0xB0).toList.map fun b => Char.ofNat b.toNat))
  else none

/-- The offset of an address in the program, which repeats every 32 MiB. -/
def romOffset (a : Word) : Nat := a.toNat % 0x2000000

/-- The offset of an address in the save memory, which repeats every 64 KiB. -/
def saveOffset (a : Word) : Nat := a.toNat % 0x10000

/-- Reads a byte of the program. -/
def readRom (c : Cartridge) (a : Word) : Byte := c.rom.getD (romOffset a) 0xFF#8

/-- Reads a byte of the save memory. -/
def readSave (c : Cartridge) (a : Word) : Byte := c.save.getD (saveOffset a) 0xFF#8

/-- Writes a byte of the save memory, and tells which interrupts this raises. -/
def writeSave (c : Cartridge) (a : Word) (v : Byte) : Cartridge × SourceSet :=
  if h : saveOffset a < c.save.size then
    ({ c with save := c.save.set (saveOffset a) v, changed := c.changed ||| 1#16 },
      Source.gamePak.bit)
  else (c, 0#14)

/-- Replaces the save memory. -/
def loadSave (c : Cartridge) (save : Array Byte) : Cartridge := { c with save }

/-- Reads the register at an address. -/
def read (c : Cartridge) (a : Word) : Half :=
  if a = waitControlAddress then c.waitControl
  else if a = changedAddress then c.changed
  else 0#16

/-- Writes the bits that `mask` selects of the register at an address; marks are cleared by
ones. -/
def write (c : Cartridge) (a : Word) (value mask : Half) : Cartridge :=
  if a = waitControlAddress then { c with waitControl := Half.merge c.waitControl value mask }
  else if a = changedAddress then { c with changed := c.changed &&& ~~~(value &&& mask) }
  else c

end Cartridge

end Handheld
