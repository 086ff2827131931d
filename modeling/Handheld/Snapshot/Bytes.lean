import Handheld.Snapshot.Basic
import Handheld.Snapshot.Reader

/-!
# Snapshot/Bytes — snapshots as bytes

The fields follow one another without gaps, in the order of the structure.  `Snapshot.ofBytes` reads
what `Snapshot.toBytes` writes and ignores what follows it.

The fields, their types and their order are the snapshot's own.  How a field of each type is laid
out in bytes is not decided here: writing and reading are left to an external serializer, with its
default configuration.  Its layout is taken as documented (numbers little-endian in their full
width, eight bytes for a length, four for the number of an alternative, one for a truth value or for
the mark of a value that may be missing, nothing between fields), and is an assumption.
-/

namespace Handheld

/-! ## Writing -/

/-- A number as `count` bytes, the lowest first. -/
def numberBytes : (count n : Nat) → List Byte
  | 0, _ => []
  | count + 1, n => BitVec.ofNat 8 n :: numberBytes count (n / 256)

/-- A truth value as a byte. -/
def truthByte (b : Bool) : Byte := if b then 1#8 else 0#8

/-- A text after its length in bytes. -/
def textBytes (s : String) : List Byte :=
  numberBytes 8 (Utf8.encode s).length ++ Utf8.encode s

/-- A word as bytes. -/
def wordBytes (w : Word) : List Byte := numberBytes 4 w.toNat

namespace Bank

/-- A bank as bytes. -/
def toBytes (b : Bank) : List Byte :=
  b.high.toList.flatMap wordBytes ++ wordBytes b.sp ++ wordBytes b.link ++ wordBytes b.savedStatus

/-- Reads a bank. -/
def reader : Reader Bank := do
  let high ← Reader.vector .word 5
  let sp ← .word
  let link ← .word
  let savedStatus ← .word
  pure { high, sp, link, savedStatus }

end Bank

namespace Mode

/-- A mode as bytes: its number. -/
def toBytes (m : Mode) : List Byte := numberBytes 4 (all.idxOf m)

end Mode

namespace Source

/-- A source that may be missing, as bytes: whether there is one, and its number. -/
def optionBytes : Option Source → List Byte
  | none => [0#8]
  | some k => 1#8 :: numberBytes 4 k.index

end Source

namespace Controller.Image

/-- The registers of a controller as bytes. -/
def toBytes (i : Image) : List Byte :=
  numberBytes 2 i.enable.toNat ++ numberBytes 2 i.flags.toNat ++ [truthByte i.master] ++
    [i.postFlag] ++ Source.optionBytes i.servicing

/-- Reads the registers of a controller. -/
def reader : Reader Image := do
  let enable ← .half
  let flags ← .half
  let master ← .truth
  let postFlag ← .byte
  let servicing ← .optional (.oneOf Source.all)
  pure { enable, flags, master, postFlag, servicing }

end Controller.Image

namespace Snapshot

/-- A snapshot as bytes. -/
def toBytes (s : Snapshot) : List Byte :=
  textBytes s.version ++ s.registers.toList.flatMap wordBytes ++ wordBytes s.status ++
    s.banks.toList.flatMap Bank.toBytes ++ s.mode.toBytes ++ [truthByte s.thumb] ++
    numberBytes 8 s.cycles.toNat ++ s.interrupts.toBytes ++ [truthByte s.halted]

/-! ## Reading -/

/-- Reads a snapshot. -/
def reader : Reader Snapshot := do
  let version ← .text
  let registers ← Reader.vector .word 16
  let status ← .word
  let banks ← Reader.vector Bank.reader 6
  let mode ← .oneOf Mode.all
  let thumb ← .truth
  let cycles ← .double
  let interrupts ← Controller.Image.reader
  let halted ← .truth
  pure { version, registers, status, banks, mode, thumb, cycles, interrupts, halted }

/-- The snapshot at the front of bytes. -/
def ofBytes (bytes : List Byte) : Except Malformed Snapshot := (reader.run bytes).map Prod.fst

end Snapshot

end Handheld
