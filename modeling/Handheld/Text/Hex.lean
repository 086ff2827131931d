/-!
# Text/Hex — numbers in base sixteen

Disassembly writes upper-case digits without leading zeros; messages write lower-case digits
padded with zeros after `0x`.
-/

namespace Handheld.Text

/-- The number in base sixteen, upper-case, with as many digits as it needs. -/
def hex (n : Nat) : String :=
  String.ofList ((Nat.toDigits 16 n).map Char.toUpper)

/-- The number in base sixteen after `0x`, lower-case, with at least `digits` digits. -/
def hexPadded (digits n : Nat) : String :=
  let written := Nat.toDigits 16 n
  "0x" ++ String.ofList (List.replicate (digits - written.length) '0' ++ written)

end Handheld.Text
