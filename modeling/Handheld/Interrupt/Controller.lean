import Handheld.Interrupt.Source

/-!
# Interrupt/Controller — flagged requests, and the halt that waits for one

A request flags its source and, if the source is enabled, wakes the processor from a halt.  While
interrupts are on, an enabled and flagged source can be acknowledged; it is then being serviced
until its flag is written by the handler or another source is acknowledged.
-/

namespace Handheld

/-- The interrupt controller. -/
structure Controller where
  /-- The sources that may interrupt. -/
  enabled : SourceSet := 0#14
  /-- The sources that have requested. -/
  flagged : SourceSet := 0#14
  /-- Interrupts are on. -/
  master : Bool := false
  /-- What the start-up code leaves to tell that it has run. -/
  postFlag : Byte := 0#8
  /-- The processor waits for a request. -/
  halted : Bool := false
  /-- The source whose handler has not yet written its flag. -/
  servicing : Option Source := none
  deriving DecidableEq, Inhabited

/-- What a controller is doing. -/
inductive Controller.State where
  /-- Nothing. -/
  | idle
  /-- An interrupt is waiting to be taken. -/
  | pending
  /-- A handler is running. -/
  | servicing
  /-- The processor waits for a request. -/
  | halted
  deriving DecidableEq, Inhabited

/-- The content of a controller as its registers show it. -/
structure Controller.Image where
  /-- The sources that may interrupt. -/
  enable : Half := 0#16
  /-- The sources that have requested. -/
  flags : Half := 0#16
  /-- Interrupts are on. -/
  master : Bool := false
  /-- What the start-up code has left. -/
  postFlag : Byte := 0#8
  /-- The source whose handler has not yet written its flag. -/
  servicing : Option Source := none
  deriving DecidableEq, Inhabited

namespace Controller

/-! ## Registers -/

/-- The address of the enable register. -/
def enableAddress : Word := 0x200#32

/-- The address of the request register. -/
def flagsAddress : Word := 0x202#32

/-- The address of the register that turns interrupts on. -/
def masterAddress : Word := 0x208#32

/-- The address of the start-up flag; the byte above it halts the processor. -/
def postFlagAddress : Word := 0x300#32

/-! ## Requests -/

/-- Flags a source; an enabled one ends a halt. -/
def request (c : Controller) (k : Source) : Controller :=
  { c with
    flagged := c.flagged.insert k
    halted := c.halted && !SourceSet.has c.enabled k }

/-- The sources that are enabled and flagged. -/
def ready (c : Controller) : SourceSet := c.enabled &&& c.flagged

/-- An interrupt is waiting to be taken. -/
def pending (c : Controller) : Bool := c.master && c.ready != 0#14

/-- Takes the waiting source that is served first: clears its flag, starts its service and ends a
halt. -/
def acknowledge (c : Controller) : Option Source × Controller :=
  match if c.master then SourceSet.first? c.ready else none with
  | some k =>
    (some k,
      { c with
        flagged := SourceSet.erase c.flagged k
        halted := false
        servicing := some k })
  | none => (none, c)

/-- What the controller is doing. -/
def state (c : Controller) : State :=
  if c.halted then .halted
  else if c.servicing.isSome then .servicing
  else if c.pending then .pending
  else .idle

/-- Waits for a request. -/
def halt (c : Controller) : Controller := { c with halted := true }

/-! ## Access by the program -/

/-- Reads the register at an address. -/
def read (c : Controller) (a : Word) : Half :=
  if a = enableAddress then SourceSet.toHalf c.enabled
  else if a = flagsAddress then SourceSet.toHalf c.flagged
  else if a = masterAddress then (BitVec.ofBool c.master).setWidth 16
  else if a = postFlagAddress then c.postFlag.setWidth 16
  else 0#16

/-- Clears the flags of a set and ends the service of a source in it. -/
def clearFlags (c : Controller) (s : SourceSet) : Controller :=
  { c with
    flagged := c.flagged &&& ~~~s
    servicing := c.servicing.filter fun k => !SourceSet.has s k }

/-- Writes the bits that `mask` selects of the register at an address.  Writing a request bit clears
it; writing the byte above the start-up flag with a clear top bit halts the processor. -/
def write (c : Controller) (a : Word) (value mask : Half) : Controller :=
  if a = enableAddress then
    { c with enabled := SourceSet.ofHalf (Half.merge (SourceSet.toHalf c.enabled) value mask) }
  else if a = flagsAddress then c.clearFlags (SourceSet.ofHalf (value &&& mask))
  else if a = masterAddress then
    if mask.getLsbD 0 then { c with master := value.getLsbD 0 } else c
  else if a = postFlagAddress then
    let c :=
      if mask.low = 0#8 then c
      else { c with postFlag := (BitVec.ofBool (value.getLsbD 0)).setWidth 8 }
    if mask.high = 0#8 || value.getLsbD 15 then c else c.halt
  else c

/-! ## Images -/

/-- The registers of a controller. -/
def image (c : Controller) : Image where
  enable := SourceSet.toHalf c.enabled
  flags := SourceSet.toHalf c.flagged
  master := c.master
  postFlag := c.postFlag
  servicing := c.servicing

/-- The controller with these registers.  Bits that name no source are lost. -/
def ofImage (i : Image) (halted : Bool) : Controller where
  enabled := SourceSet.ofHalf i.enable
  flagged := SourceSet.ofHalf i.flags
  master := i.master
  postFlag := i.postFlag
  halted
  servicing := i.servicing

@[simp] theorem ofImage_image (c : Controller) : ofImage c.image c.halted = c := by
  simp [ofImage, image]

end Controller

end Handheld
