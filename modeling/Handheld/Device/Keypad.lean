import Handheld.Interrupt.Source

/-!
# Device/Keypad — the ten keys

The key register holds a one for every released key.  Every change of a key raises an interrupt,
whatever the control register says.
-/

namespace Handheld

/-- The keys. -/
inductive Key where
  /-- The right round button. -/
  | a
  /-- The left round button. -/
  | b
  /-- The selection button. -/
  | select
  /-- The start button. -/
  | start
  /-- The cross to the right. -/
  | right
  /-- The cross to the left. -/
  | left
  /-- The cross upwards. -/
  | up
  /-- The cross downwards. -/
  | down
  /-- The right shoulder. -/
  | shoulderRight
  /-- The left shoulder. -/
  | shoulderLeft
  deriving DecidableEq, Inhabited

namespace Key

/-- Every key, by its bit. -/
def all : List Key :=
  [a, b, select, start, right, left, up, down, shoulderRight, shoulderLeft]

/-- The bit of a key. -/
def index : Key → Nat
  | a => 0
  | b => 1
  | select => 2
  | start => 3
  | right => 4
  | left => 5
  | up => 6
  | down => 7
  | shoulderRight => 8
  | shoulderLeft => 9

end Key

/-- The keypad. -/
structure Keypad where
  /-- A one for every released key. -/
  released : BitVec 10 := BitVec.allOnes 10
  /-- The control register. -/
  control : Half := 0#16
  deriving DecidableEq, Inhabited

namespace Keypad

/-- The address of the key register. -/
def keysAddress : Word := 0x130#32

/-- The address of the control register. -/
def controlAddress : Word := 0x132#32

/-- Sets which keys are released, and tells which interrupts this raises. -/
def setReleased (p : Keypad) (released : BitVec 10) : Keypad × SourceSet :=
  if released = p.released then (p, 0#14) else ({ p with released }, Source.keypad.bit)

/-- Presses a key. -/
def press (p : Keypad) (k : Key) : Keypad × SourceSet :=
  p.setReleased (p.released &&& ~~~BitVec.twoPow 10 k.index)

/-- Releases a key. -/
def release (p : Keypad) (k : Key) : Keypad × SourceSet :=
  p.setReleased (p.released ||| BitVec.twoPow 10 k.index)

/-- A key is held down. -/
def pressed (p : Keypad) (k : Key) : Bool := !p.released.getLsbD k.index

/-- Reads the register at an address. -/
def read (p : Keypad) (a : Word) : Half :=
  if a = keysAddress then p.released.setWidth 16
  else if a = controlAddress then p.control
  else 0#16

/-- Writes the bits that `mask` selects of the register at an address.  The keys cannot be
written. -/
def write (p : Keypad) (a : Word) (value mask : Half) : Keypad :=
  if a = controlAddress then { p with control := Half.merge p.control value mask } else p

end Keypad

end Handheld
