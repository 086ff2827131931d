import Handheld.Bus.Registers
import Handheld.Memory.Basic

/-!
# Bus/Access — loads and stores by address

The top byte of an address selects a region, and most regions repeat their memory over the rest.
Loads change nothing; where nothing answers they give zero.  Stores to the start-up code and to the
program are dropped.
-/

namespace Handheld

/-- What an address leads to. -/
inductive Region where
  /-- The start-up code. -/
  | bios
  /-- The large working memory. -/
  | ewram
  /-- The fast working memory. -/
  | iwram
  /-- The device registers. -/
  | registers
  /-- The colours. -/
  | palette
  /-- The picture memory. -/
  | vram
  /-- The objects. -/
  | oam
  /-- The program. -/
  | rom
  /-- The save memory. -/
  | save
  deriving DecidableEq

namespace Region

/-- The region of an address, if it lies in one. -/
def of? (a : Word) : Option Region :=
  match a.byte 3 with
  | 0x00#8 => if a < 0x4000#32 then some bios else none
  | 0x02#8 => some ewram
  | 0x03#8 => some iwram
  | 0x04#8 => some registers
  | 0x05#8 => some palette
  | 0x06#8 => some vram
  | 0x07#8 => some oam
  | 0x08#8 | 0x09#8 | 0x0A#8 | 0x0B#8 | 0x0C#8 | 0x0D#8 => some rom
  | 0x0E#8 | 0x0F#8 => some save
  | _ => none

/-- The offset of an address in the region of the device registers. -/
def registerOffset (a : Word) : Word := a - 0x04000000#32

end Region

namespace Bus

/-! ## Changing one memory -/

/-- Changes the large working memory. -/
def mapEwram (b : Bus) (f : Ram 18 → Ram 18) : Bus := { b with ewram := f b.ewram }

/-- Changes the fast working memory. -/
def mapIwram (b : Bus) (f : Ram 15 → Ram 15) : Bus := { b with iwram := f b.iwram }

/-- Changes the colours. -/
def mapPalette (b : Bus) (f : Ram 10 → Ram 10) : Bus :=
  { b with video := { b.video with palette := f b.video.palette } }

/-- Changes the picture memory. -/
def mapVram (b : Bus) (f : Ram 17 → Ram 17) : Bus :=
  { b with video := { b.video with vram := f b.video.vram } }

/-- Changes the objects. -/
def mapOam (b : Bus) (f : Ram 10 → Ram 10) : Bus :=
  { b with video := { b.video with oam := f b.video.oam } }

/-- Writes a byte of the save memory. -/
def storeSave (b : Bus) (a : Word) (v : Byte) : Bus :=
  let (cartridge, raised) := b.cartridge.writeSave a v
  { b with cartridge, queue := b.queue ||| raised }

/-! ## Loads -/

/-- Loads a byte. -/
def loadByte (b : Bus) (a : Word) : Byte :=
  match Region.of? a with
  | some .bios => b.bios.loadByte a
  | some .ewram => b.ewram.loadByte a
  | some .iwram => b.iwram.loadByte a
  | some .registers => b.readRegisterByte (Region.registerOffset a)
  | some .palette => b.video.palette.loadByte a
  | some .vram => b.video.vram.loadByte (Video.vramOffset a)
  | some .oam => b.video.oam.loadByte a
  | some .rom => b.cartridge.readRom a
  | some .save => b.cartridge.readSave a
  | none => 0#8

/-- Loads the halfword around an address. -/
def loadHalf (b : Bus) (a : Word) : Half :=
  match Region.of? a with
  | some .bios => b.bios.loadHalf a
  | some .ewram => b.ewram.loadHalf a
  | some .iwram => b.iwram.loadHalf a
  | some .registers => b.readRegister (Region.registerOffset a)
  | some .palette => b.video.palette.loadHalf a
  | some .vram => b.video.vram.loadHalf (Video.vramOffset a)
  | some .oam => b.video.oam.loadHalf a
  | some .rom =>
    let s := a.alignHalf
    Half.ofBytes (b.cartridge.readRom s) (b.cartridge.readRom (s + 1))
  | some .save =>
    let s := a.alignHalf
    Half.ofBytes (b.cartridge.readSave s) (b.cartridge.readSave (s + 1))
  | none => 0#16

/-- Loads the word around an address. -/
def loadWord (b : Bus) (a : Word) : Word :=
  match Region.of? a with
  | some .bios => b.bios.loadWord a
  | some .ewram => b.ewram.loadWord a
  | some .iwram => b.iwram.loadWord a
  | some .registers =>
    let o := (Region.registerOffset a).alignWord
    Word.ofHalves (b.readRegister o) (b.readRegister (o + 2))
  | some .palette => b.video.palette.loadWord a
  | some .vram => b.video.vram.loadWord (Video.vramOffset a)
  | some .oam => b.video.oam.loadWord a
  | some .rom =>
    let s := a.alignWord
    Word.ofBytes (b.cartridge.readRom s) (b.cartridge.readRom (s + 1))
      (b.cartridge.readRom (s + 2)) (b.cartridge.readRom (s + 3))
  | some .save =>
    let s := a.alignWord
    Word.ofBytes (b.cartridge.readSave s) (b.cartridge.readSave (s + 1))
      (b.cartridge.readSave (s + 2)) (b.cartridge.readSave (s + 3))
  | none => 0#32

/-! ## Stores -/

/-- Stores a byte. -/
def storeByte (b : Bus) (a : Word) (v : Byte) : Bus :=
  match Region.of? a with
  | some .ewram => b.mapEwram fun r => r.storeByte a v
  | some .iwram => b.mapIwram fun r => r.storeByte a v
  | some .registers => b.writeRegisterByte (Region.registerOffset a) v
  | some .palette => b.mapPalette fun r => r.storeByte a v
  | some .vram => b.mapVram fun r => r.storeByte (Video.vramOffset a) v
  | some .oam => b.mapOam fun r => r.storeByte a v
  | some .save => b.storeSave a v
  | some .bios | some .rom | none => b

/-- Stores the halfword around an address. -/
def storeHalf (b : Bus) (a : Word) (v : Half) : Bus :=
  match Region.of? a with
  | some .ewram => b.mapEwram fun r => r.storeHalf a v
  | some .iwram => b.mapIwram fun r => r.storeHalf a v
  | some .registers => b.writeRegister (Region.registerOffset a) v 0xFFFF#16
  | some .palette => b.mapPalette fun r => r.storeHalf a v
  | some .vram => b.mapVram fun r => r.storeHalf (Video.vramOffset a) v
  | some .oam => b.mapOam fun r => r.storeHalf a v
  | some .save =>
    let s := a.alignHalf
    (b.storeSave s v.low).storeSave (s + 1) v.high
  | some .bios | some .rom | none => b

/-- Stores the word around an address. -/
def storeWord (b : Bus) (a v : Word) : Bus :=
  match Region.of? a with
  | some .ewram => b.mapEwram fun r => r.storeWord a v
  | some .iwram => b.mapIwram fun r => r.storeWord a v
  | some .registers =>
    let o := (Region.registerOffset a).alignWord
    (b.writeRegister o v.lowHalf 0xFFFF#16).writeRegister (o + 2) v.highHalf 0xFFFF#16
  | some .palette => b.mapPalette fun r => r.storeWord a v
  | some .vram => b.mapVram fun r => r.storeWord (Video.vramOffset a) v
  | some .oam => b.mapOam fun r => r.storeWord a v
  | some .save =>
    let s := a.alignWord
    (((b.storeSave s (v.byte 0)).storeSave (s + 1) (v.byte 1)).storeSave (s + 2)
      (v.byte 2)).storeSave (s + 3) (v.byte 3)
  | some .bios | some .rom | none => b

instance : Memory Bus where
  loadByte b a := (b.loadByte a, b)
  loadHalf b a := (b.loadHalf a, b)
  loadWord b a := (b.loadWord a, b)
  storeByte := storeByte
  storeHalf := storeHalf
  storeWord := storeWord

end Bus

end Handheld
