import Handheld.Device.RegisterBlock

/-!
# Device/Sound — the registers of the sound unit

Mixing happens elsewhere.  The registers read back what was written; some of them hold the wave that
the third channel plays.
-/

namespace Handheld

/-- The sound unit. -/
structure Sound where
  /-- The registers. -/
  registers : RegisterBlock 0x60#32 40
  deriving DecidableEq

namespace Sound

/-- All registers zero. -/
def initial : Sound := ⟨.zeros 0x60#32 40⟩

/-- Reads the register at an address. -/
def read (s : Sound) (a : Word) : Half := s.registers.read a

/-- Writes the bits that `mask` selects of the register at an address. -/
def write (s : Sound) (a : Word) (value mask : Half) : Sound :=
  ⟨s.registers.write a value mask⟩

/-- Sound is on at all. -/
def enabled (s : Sound) : Bool := (s.read 0x84#32).getLsbD 7

/-- The sixteen bytes of the wave, two samples each. -/
def wave (s : Sound) : List Byte :=
  (List.range 8).flatMap fun i =>
    let h := s.read (0x90#32 + BitVec.ofNat 32 (2 * i))
    [h.low, h.high]

end Sound

end Handheld
