import Handheld.Instruction.Basic
import Handheld.Text.Hex

/-!
# Instruction/Text — instructions as assembly text

The condition follows the mnemonic and stands before any suffix that tells width or flags.  Numbers
are hexadecimal, shift distances and register numbers decimal, and a zero offset is not written.
A register list is written as its maximal runs of consecutive registers (`runs`).
-/

namespace Handheld

/-- The text of a register. -/
def Register.text (n : Register) : String := "R" ++ toString n.val

namespace Text

/-- A text that is written only under a condition. -/
def optional (b : Bool) (text : String) : String := if b then text else ""

/-- A number as it stands in an instruction. -/
def literal (v : Word) : String := "#" ++ hex v.toNat

end Text

open Text (hex literal optional)

/-! ## Operands -/

namespace Operand

/-- The text of an operand. -/
def text : Operand → String
  | immediate v | rotated v => literal v
  | plain n => n.text
  | shifted n kind distance => n.text ++ "," ++ kind.name ++ " #" ++ toString distance
  | throughCarry n => n.text ++ ",RRX"

end Operand

namespace DataOperand

/-- The text of the second operand of a data operation. -/
def text : DataOperand → String
  | fixed o => o.text
  | byRegister n kind distance => n.text ++ "," ++ kind.name ++ " " ++ distance.text

end DataOperand

namespace Addressing

/-- The text of an address with an offset. -/
def text (mode : Addressing) (offset : Operand) : String :=
  let base := "[" ++ mode.base.text
  if offset = .immediate 0#32 then base ++ "]"
  else
    let moved := optional (!mode.up) "-" ++ offset.text
    if mode.early then base ++ "," ++ moved ++ "]" ++ optional mode.writeBack "!"
    else base ++ "]," ++ moved

/-- How the addresses of a block relate to its base. -/
def blockName (mode : Addressing) : String :=
  match mode.up, mode.early with
  | true, false => "IA"
  | true, true => "IB"
  | false, false => "DA"
  | false, true => "DB"

end Addressing

/-! ## Register lists -/

/-- The maximal runs of consecutive numbers in an ascending list, each as its first and last. -/
def runs : List Nat → List (Nat × Nat)
  | [] => []
  | n :: rest =>
    match runs rest with
    | [] => [(n, n)]
    | (first, last) :: more =>
      if n + 1 = first then (n, last) :: more else (n, n) :: (first, last) :: more

/-- The text of a run of registers. -/
def runText : Nat × Nat → String
  | (first, last) =>
    "R" ++ toString first ++ if first = last then "" else "-R" ++ toString last

/-- The text of a register list. -/
def listText (list : Half) : String :=
  ",".intercalate ((runs ((listed list).map Fin.val)).map runText)

/-! ## Mnemonics -/

namespace LoadKind

/-- What the kind of a load adds to its mnemonic. -/
def suffix : LoadKind → String
  | word => ""
  | byte => "B"
  | half => "H"
  | signedByte => "SB"
  | signedHalf => "SH"

end LoadKind

namespace StoreKind

/-- What the kind of a store adds to its mnemonic. -/
def suffix : StoreKind → String
  | word => ""
  | byte => "B"
  | half => "H"

end StoreKind

namespace BinaryOp

/-- The mnemonic of an operation. -/
def name : BinaryOp → String
  | and => "AND"
  | eor => "EOR"
  | sub => "SUB"
  | rsb => "RSB"
  | add => "ADD"
  | adc => "ADC"
  | sbc => "SBC"
  | rsc => "RSC"
  | orr => "ORR"
  | bic => "BIC"

end BinaryOp

namespace TestOp

/-- The mnemonic of a comparison. -/
def name : TestOp → String
  | tst => "TST"
  | teq => "TEQ"
  | cmp => "CMP"
  | cmn => "CMN"

end TestOp

namespace MoveOp

/-- The mnemonic of a move. -/
def name : MoveOp → String
  | mov => "MOV"
  | mvn => "MVN"

end MoveOp

/-- The name of a status word. -/
def statusName (saved : Bool) : String := if saved then "SPSR" else "CPSR"

/-! ## Instructions -/

/-- The text of a block transfer. -/
def blockText (mnemonic c : String) (mode : Addressing) (list : Half) (user : Bool) : String :=
  mnemonic ++ c ++ mode.blockName ++ " " ++ mode.base.text ++ optional mode.writeBack "!" ++
    ",\x7b" ++ listText list ++ "\x7d" ++ optional user "^"

namespace Operation

/-- The text of an operation, with `c` as the suffix of its condition. -/
def text (c : String) : Operation → String
  | softwareInterrupt comment => "SWI" ++ c ++ " " ++ hex comment.toNat
  | coprocessor number => "CP" ++ c ++ toString number.toNat
  | branch offset | branchNarrow offset => "B" ++ c ++ " " ++ literal offset
  | branchLink offset | linkHigh offset | linkLow offset => "BL" ++ c ++ " " ++ literal offset
  | branchExchange n => "BX" ++ c ++ " " ++ n.text
  | swap byte base rd rm =>
    "SWP" ++ c ++ optional byte "B" ++ " " ++ rd.text ++ "," ++ rm.text ++ ",[" ++ base.text ++ "]"
  | load kind mode rd offset =>
    "LDR" ++ c ++ kind.suffix ++ " " ++ rd.text ++ "," ++ mode.text offset
  | store kind mode rd offset =>
    "STR" ++ c ++ kind.suffix ++ " " ++ rd.text ++ "," ++ mode.text offset
  | loadFromPc rd offset => "LDR " ++ rd.text ++ ",[PC," ++ literal offset ++ "]"
  | loadMultiple mode list user => blockText "LDM" c mode list user
  | storeMultiple mode list user => blockText "STM" c mode list user
  | binary op setFlags rd rn operand =>
    op.name ++ c ++ optional setFlags "S" ++ " " ++ rd.text ++ "," ++ rn.text ++ "," ++ operand.text
  | test op rn operand => op.name ++ c ++ " " ++ rn.text ++ "," ++ operand.text
  | move op setFlags rd operand =>
    op.name ++ c ++ optional setFlags "S" ++ " " ++ rd.text ++ "," ++ operand.text
  | addToPc rd offset => "ADD " ++ rd.text ++ ",PC," ++ literal offset
  | multiply setFlags rd rs rm none =>
    "MUL" ++ c ++ optional setFlags "S" ++ " " ++ rd.text ++ "," ++ rm.text ++ "," ++ rs.text
  | multiply setFlags rd rs rm (some rn) =>
    "MLA" ++ c ++ optional setFlags "S" ++ " " ++ rd.text ++ "," ++ rm.text ++ "," ++ rs.text ++
      "," ++ rn.text
  | multiplyLong signed accumulate setFlags high low rs rm =>
    (if signed then "S" else "U") ++ (if accumulate then "MLAL" else "MULL") ++ c ++
      optional setFlags "S" ++ " " ++ low.text ++ "," ++ high.text ++ "," ++ rm.text ++ "," ++
      rs.text
  | writeStatus saved mask data =>
    "MSR" ++ c ++ " " ++ statusName saved ++ "_" ++ hex mask.toNat ++ "," ++ data.text
  | readStatus saved rd => "MRS" ++ c ++ " " ++ rd.text ++ "," ++ statusName saved

end Operation

/-- The text of an instruction. -/
def Instruction.text (i : Instruction) : String := i.operation.text i.condition.suffix

end Handheld
