import Handheld.Word

/-!
# Interrupt/Source — the fourteen sources of interrupts and sets of them

A source is numbered by its bit in the enable and request registers, and of several requests the one
with the lowest number is served first.  A set of sources is fourteen bits.
-/

namespace Handheld

/-- What can request an interrupt. -/
inductive Source where
  /-- The first line below the picture starts. -/
  | vBlank
  /-- A line ends. -/
  | hBlank
  /-- The line asked for starts. -/
  | vCount
  /-- The first timer overflows. -/
  | timer0
  /-- The second timer overflows. -/
  | timer1
  /-- The third timer overflows. -/
  | timer2
  /-- The fourth timer overflows. -/
  | timer3
  /-- A transfer over the serial link ends. -/
  | serial
  /-- The first transfer channel ends. -/
  | dma0
  /-- The second transfer channel ends. -/
  | dma1
  /-- The third transfer channel ends. -/
  | dma2
  /-- The fourth transfer channel ends. -/
  | dma3
  /-- The keys change. -/
  | keypad
  /-- The cartridge. -/
  | gamePak
  deriving DecidableEq, Inhabited

/-- A set of sources, as their bits. -/
abbrev SourceSet := BitVec 14

namespace Source

/-- Every source, by number. -/
def all : List Source :=
  [vBlank, hBlank, vCount, timer0, timer1, timer2, timer3, serial, dma0, dma1, dma2, dma3, keypad,
    gamePak]

/-- The number of a source. -/
def index : Source → Nat
  | vBlank => 0
  | hBlank => 1
  | vCount => 2
  | timer0 => 3
  | timer1 => 4
  | timer2 => 5
  | timer3 => 6
  | serial => 7
  | dma0 => 8
  | dma1 => 9
  | dma2 => 10
  | dma3 => 11
  | keypad => 12
  | gamePak => 13

/-- The source with a number, if there is one. -/
def ofIndex? (n : Nat) : Option Source := all[n]?

/-- The set that holds one source. -/
def bit (k : Source) : SourceSet := BitVec.twoPow 14 k.index

/-- The name of a source. -/
def name : Source → String
  | vBlank => "VBlank"
  | hBlank => "HBlank"
  | vCount => "VCount"
  | timer0 => "Timer0"
  | timer1 => "Timer1"
  | timer2 => "Timer2"
  | timer3 => "Timer3"
  | serial => "Serial"
  | dma0 => "Dma0"
  | dma1 => "Dma1"
  | dma2 => "Dma2"
  | dma3 => "Dma3"
  | keypad => "Keypad"
  | gamePak => "GamePak"

theorem index_lt (k : Source) : k.index < 14 := by cases k <;> decide

theorem index_injective {k l : Source} (h : k.index = l.index) : k = l := by
  revert h; cases k <;> cases l <;> decide

@[simp] theorem ofIndex?_index (k : Source) : ofIndex? k.index = some k := by cases k <;> rfl

theorem mem_all (k : Source) : k ∈ all := by cases k <;> decide

end Source

namespace SourceSet

/-- A set holds a source. -/
def has (s : SourceSet) (k : Source) : Bool := s.getLsbD k.index

/-- The set with a source put in. -/
def insert (s : SourceSet) (k : Source) : SourceSet := s ||| k.bit

/-- The set with a source taken out. -/
def erase (s : SourceSet) (k : Source) : SourceSet := s &&& ~~~k.bit

/-- The source in a set that is served first. -/
def first? (s : SourceSet) : Option Source := Source.all.find? (has s)

/-- The sources that the low bits of a register name. -/
def ofHalf (h : Half) : SourceSet := h.setWidth 14

/-- The set as the content of a register. -/
def toHalf (s : SourceSet) : Half := s.setWidth 16

@[simp] theorem ofHalf_toHalf (s : SourceSet) : ofHalf (toHalf s) = s := by
  simp [ofHalf, toHalf]

@[simp] theorem has_bit (k l : Source) : has k.bit l = decide (k = l) := by
  cases k <;> cases l <;> rfl

@[simp] theorem has_empty (k : Source) : has 0#14 k = false := by simp [has]

@[simp] theorem has_or (s t : SourceSet) (k : Source) : has (s ||| t) k = (has s k || has t k) := by
  simp [has]

@[simp] theorem has_and (s t : SourceSet) (k : Source) :
    has (s &&& t) k = (has s k && has t k) := by
  simp [has]

@[simp] theorem has_not (s : SourceSet) (k : Source) : has (~~~s) k = !has s k := by
  simp [has, k.index_lt]

@[simp] theorem has_insert (s : SourceSet) (k l : Source) :
    has (insert s k) l = (has s l || decide (k = l)) := by
  simp [insert]

@[simp] theorem has_erase (s : SourceSet) (k l : Source) :
    has (erase s k) l = (has s l && !decide (k = l)) := by
  simp [erase]

end SourceSet

end Handheld
