import Handheld.Device.RegisterBlock
import Handheld.Memory.Ram
import Handheld.Interrupt.Source

/-!
# Device/Video — the line counter, its interrupts and the memories of the picture

Drawing happens elsewhere.  Here are the registers, which read back what was written but for the
line counter and the three status bits, and the palette, picture and object memories.  Of the
228 lines of a frame the first 160 show the picture.
-/

namespace Handheld

/-- The video unit. -/
structure Video where
  /-- The registers; the slot of the line counter is never used. -/
  registers : RegisterBlock 0#32 48
  /-- The current line. -/
  line : Half
  /-- The colours. -/
  palette : Ram 10
  /-- The picture memory. -/
  vram : Ram 17
  /-- The objects. -/
  oam : Ram 10

namespace Video

/-- The lines that show the picture. -/
def visibleLines : Half := 160#16

/-- All lines. -/
def totalLines : Half := 228#16

/-- The address of the status register. -/
def statusAddress : Word := 0x004#32

/-- The address of the line counter. -/
def lineAddress : Word := 0x006#32

/-- The status bits that a program cannot write: below the picture, at a line's end, and at the line
asked for. -/
def statusBits : Half := 0x7#16

/-- At the start of a frame, all registers and memories zero. -/
def initial : Video where
  registers := .zeros 0#32 48
  line := 0#16
  palette := .zeros 10
  vram := .zeros 17
  oam := .zeros 10

/-! ## Registers -/

/-- The content of the `i`-th register. -/
def register (v : Video) (i : Fin 48) : Half := v.registers.cells[i]

/-- The display control register. -/
def control (v : Video) : Half := v.register 0

/-- The status register. -/
def status (v : Video) : Half := v.register 2

/-- Replaces the status register. -/
def setStatus (v : Video) (s : Half) : Video :=
  { v with registers := ⟨v.registers.cells.set 2 s⟩ }

/-- The control register of a background. -/
def background (v : Video) (n : Nat) : Half :=
  if h : 4 + n < 48 then v.register ⟨4 + n, h⟩ else 0#16

/-- Reads the register at an address. -/
def read (v : Video) (a : Word) : Half := if a = lineAddress then v.line else v.registers.read a

/-- Writes the bits that `mask` selects of the register at an address.  The line counter and the
status bits stay. -/
def write (v : Video) (a : Word) (value mask : Half) : Video :=
  if a = lineAddress then v
  else if a = statusAddress then v.setStatus (Half.merge v.status value (mask &&& ~~~statusBits))
  else { v with registers := v.registers.write a value mask }

/-! ## Lines -/

/-- Moves on to the next line, and tells which interrupts this raises: one on entering the lines
below the picture, one at every line, and one at the line that the status register asks for, each if
the status register enables it. -/
def advanceLine (v : Video) : Video × SourceSet :=
  let line := (v.line + 1) % totalLines
  let settings := v.status &&& ~~~statusBits
  let below : Bool := visibleLines ≤ line && line < totalLines - 1
  let reached : Bool := line = settings >>> 8
  let status := settings ||| (if below then 1#16 else 0#16) ||| (if reached then 4#16 else 0#16)
  let raised (on : Bool) (k : Source) : SourceSet := if on then k.bit else 0#14
  ({ v.setStatus status with line },
    raised (line = visibleLines && settings.getLsbD 3) .vBlank |||
      raised (settings.getLsbD 4) .hBlank ||| raised (reached && settings.getLsbD 5) .vCount)

/-! ## Memories -/

/-- Where an address of the picture's region lies in the picture memory.  Of the 128 KiB that
repeat, the last 32 KiB repeat those before them. -/
def vramOffset (a : Word) : Word :=
  let o := a &&& 0x1FFFF#32
  if 0x18000#32 ≤ o then o - 0x8000#32 else o

end Video

end Handheld
