import Handheld.Execution.Transfer

/-!
# Execution/Block — loads and stores of register lists

The listed registers occupy ascending words, lowest register first, whichever way the base moves.
A load writes the base back first, so that a loaded base wins; a store writes it back last, so that
it stores the base of before.  With the user mark a list without the program counter transfers the
registers of user mode, and a load of the program counter first returns from an exception.
-/

namespace Handheld.Context

variable {M : Type}

/-- The lowest address of a block of `count` words and the address that is written back. -/
def blockAddresses (c : Context M) (mode : Addressing) (count : Nat) : Word × Word :=
  let base := c.read mode.base
  let length := BitVec.ofNat 32 (4 * count)
  if mode.up then (if mode.early then base + 4 else base, base + length)
  else (if mode.early then base - length else base - length + 4, base - length)

variable [Memory M]

/-- Loads registers from ascending addresses.  With `user` they are those of user mode; with
`restore` the saved status is restored just before the program counter is written. -/
def loadRegisters (user restore : Bool) : List Register → Word → Context M → Context M
  | [], _, c => c
  | n :: rest, a, c =>
    let (v, c) := c.loadWord a.alignWord
    let c := if restore && n = .pc then c.restoreStatus else c
    let c := if user then c.writeUser n v else c.write n v
    loadRegisters user restore rest (a + 4) c

/-- Loads the listed registers. -/
def loadMultiple (c : Context M) (mode : Addressing) (list : Half) (user : Bool) : Context M :=
  let (a, moved) := c.blockAddresses mode (listed list).length
  let c := if mode.writeBack then c.write mode.base moved else c
  loadRegisters (user && !list.getLsbD 15) user (listed list) a c

/-- Stores registers to ascending addresses.  With `user` they are those of user mode. -/
def storeRegisters (user : Bool) : List Register → Word → Context M → Context M
  | [], _, c => c
  | n :: rest, a, c =>
    let v := if user && n ≠ .pc then c.readUser n else c.stored n
    storeRegisters user rest (a + 4) (c.storeWord a.alignWord v)

/-- Stores the listed registers. -/
def storeMultiple (c : Context M) (mode : Addressing) (list : Half) (user : Bool) : Context M :=
  let (a, moved) := c.blockAddresses mode (listed list).length
  let c := storeRegisters user (listed list) a c
  if mode.writeBack then c.write mode.base moved else c

end Handheld.Context
