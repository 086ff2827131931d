import Handheld.Status

/-!
# Condition — when an instruction takes effect

Every wide instruction carries four bits that name a test on the condition flags.  An instruction
whose test fails has no effect but still costs a cycle.
-/

namespace Handheld

/-- A test on the condition flags. -/
inductive Condition where
  /-- Equal: zero set. -/
  | eq
  /-- Not equal: zero clear. -/
  | ne
  /-- Unsigned higher or same: carry set. -/
  | cs
  /-- Unsigned lower: carry clear. -/
  | cc
  /-- Negative. -/
  | mi
  /-- Positive or zero. -/
  | pl
  /-- Overflow. -/
  | vs
  /-- No overflow. -/
  | vc
  /-- Unsigned higher. -/
  | hi
  /-- Unsigned lower or same. -/
  | ls
  /-- Signed greater or equal. -/
  | ge
  /-- Signed less. -/
  | lt
  /-- Signed greater. -/
  | gt
  /-- Signed less or equal. -/
  | le
  /-- Always. -/
  | al
  /-- Never. -/
  | nv
  deriving DecidableEq, Inhabited

namespace Condition

/-- The test passes on these flags. -/
def holds (c : Condition) (f : Flags) : Bool :=
  match c with
  | eq => f.zero
  | ne => !f.zero
  | cs => f.carry
  | cc => !f.carry
  | mi => f.negative
  | pl => !f.negative
  | vs => f.overflow
  | vc => !f.overflow
  | hi => f.carry && !f.zero
  | ls => !f.carry || f.zero
  | ge => f.negative == f.overflow
  | lt => f.negative != f.overflow
  | gt => !f.zero && f.negative == f.overflow
  | le => f.zero || f.negative != f.overflow
  | al => true
  | nv => false

/-- The four bits of a condition. -/
def code : Condition → BitVec 4
  | eq => 0x0#4
  | ne => 0x1#4
  | cs => 0x2#4
  | cc => 0x3#4
  | mi => 0x4#4
  | pl => 0x5#4
  | vs => 0x6#4
  | vc => 0x7#4
  | hi => 0x8#4
  | ls => 0x9#4
  | ge => 0xA#4
  | lt => 0xB#4
  | gt => 0xC#4
  | le => 0xD#4
  | al => 0xE#4
  | nv => 0xF#4

/-- The condition that four bits name. -/
def ofCode (bits : BitVec 4) : Condition :=
  match bits with
  | 0x0#4 => eq
  | 0x1#4 => ne
  | 0x2#4 => cs
  | 0x3#4 => cc
  | 0x4#4 => mi
  | 0x5#4 => pl
  | 0x6#4 => vs
  | 0x7#4 => vc
  | 0x8#4 => hi
  | 0x9#4 => ls
  | 0xA#4 => ge
  | 0xB#4 => lt
  | 0xC#4 => gt
  | 0xD#4 => le
  | 0xE#4 => al
  | _ => nv

/-- The two letters of a condition. -/
def name : Condition → String
  | eq => "EQ"
  | ne => "NE"
  | cs => "CS"
  | cc => "CC"
  | mi => "MI"
  | pl => "PL"
  | vs => "VS"
  | vc => "VC"
  | hi => "HI"
  | ls => "LS"
  | ge => "GE"
  | lt => "LT"
  | gt => "GT"
  | le => "LE"
  | al => "AL"
  | nv => "NV"

/-- What a condition adds to a mnemonic; an instruction that always takes effect adds nothing. -/
def suffix : Condition → String
  | al => ""
  | c => c.name

@[simp] theorem ofCode_code (c : Condition) : ofCode c.code = c := by cases c <;> rfl

end Condition

end Handheld
