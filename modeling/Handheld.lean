import Handheld.Bus.Access
import Handheld.Bus.Basic
import Handheld.Bus.Registers
import Handheld.Condition
import Handheld.Device.Cartridge
import Handheld.Device.Keypad
import Handheld.Device.RegisterBlock
import Handheld.Device.Sound
import Handheld.Device.Video
import Handheld.Encoding.Basic
import Handheld.Encoding.Narrow
import Handheld.Encoding.Wide
import Handheld.Execution.Basic
import Handheld.Execution.Block
import Handheld.Execution.Branch
import Handheld.Execution.Context
import Handheld.Execution.Data
import Handheld.Execution.Fault
import Handheld.Execution.Multiply
import Handheld.Execution.StatusTransfer
import Handheld.Execution.Transfer
import Handheld.Instruction.Basic
import Handheld.Instruction.Text
import Handheld.Interrupt.Controller
import Handheld.Interrupt.Source
import Handheld.Machine.Basic
import Handheld.Machine.State
import Handheld.Memory.Basic
import Handheld.Memory.Ram
import Handheld.Mode
import Handheld.Proofs.Bus.Actions
import Handheld.Proofs.Bus.Bytes
import Handheld.Proofs.Bus.Cells
import Handheld.Proofs.Bus.Loads
import Handheld.Proofs.Bus.Protection
import Handheld.Proofs.Bus.Region
import Handheld.Proofs.Bus.Stores
import Handheld.Proofs.Checked.Arithmetic
import Handheld.Proofs.Checked.Bus
import Handheld.Proofs.Checked.Data
import Handheld.Proofs.Checked.Device
import Handheld.Proofs.Checked.Execution
import Handheld.Proofs.Checked.Line
import Handheld.Proofs.Checked.Machine
import Handheld.Proofs.Checked.Memory
import Handheld.Proofs.Checked.Narrow
import Handheld.Proofs.Checked.Registers
import Handheld.Proofs.Checked.Wide
import Handheld.Proofs.Device.Lines
import Handheld.Proofs.Encoding.Assembly
import Handheld.Proofs.Encoding.Disguise
import Handheld.Proofs.Encoding.Fields
import Handheld.Proofs.Encoding.Grammar
import Handheld.Proofs.Encoding.Layout
import Handheld.Proofs.Encoding.Spaces
import Handheld.Proofs.Encoding.WellFormed
import Handheld.Proofs.Execution.Alignment
import Handheld.Proofs.Execution.Arithmetic
import Handheld.Proofs.Execution.Banks
import Handheld.Proofs.Execution.Block
import Handheld.Proofs.Execution.Cases
import Handheld.Proofs.Execution.Comparison
import Handheld.Proofs.Execution.Confinement
import Handheld.Proofs.Execution.File
import Handheld.Proofs.Execution.Footprint
import Handheld.Proofs.Execution.Map
import Handheld.Proofs.Execution.PcOperands
import Handheld.Proofs.Execution.Products
import Handheld.Proofs.Execution.Recorded
import Handheld.Proofs.Execution.Spill
import Handheld.Proofs.Execution.UserMode
import Handheld.Proofs.Instruction.BlockText
import Handheld.Proofs.Instruction.Runs
import Handheld.Proofs.Interrupt.Delivery
import Handheld.Proofs.Interrupt.Requests
import Handheld.Proofs.Interrupt.Service
import Handheld.Proofs.Interrupt.Source
import Handheld.Proofs.Machine.Alignment
import Handheld.Proofs.Machine.Confinement
import Handheld.Proofs.Machine.Failure
import Handheld.Proofs.Machine.File
import Handheld.Proofs.Machine.Halt
import Handheld.Proofs.Machine.History
import Handheld.Proofs.Machine.Inspection
import Handheld.Proofs.Machine.Load
import Handheld.Proofs.Machine.LongCall
import Handheld.Proofs.Machine.Reach
import Handheld.Proofs.Machine.Restore
import Handheld.Proofs.Machine.Return
import Handheld.Proofs.Machine.Step
import Handheld.Proofs.Machine.Wake
import Handheld.Proofs.Memory.Flat
import Handheld.Proofs.Memory.Words
import Handheld.Proofs.Registers.Cell
import Handheld.Proofs.Registers.File
import Handheld.Proofs.Registers.Flat
import Handheld.Proofs.Registers.Physical
import Handheld.Proofs.Registers.Return
import Handheld.Proofs.Shifter
import Handheld.Proofs.Snapshot.Bytes
import Handheld.Proofs.Word
import Handheld.Registers.Basic
import Handheld.Registers.Exception
import Handheld.Shifter
import Handheld.Snapshot.Basic
import Handheld.Snapshot.Bytes
import Handheld.Snapshot.Reader
import Handheld.Status
import Handheld.Text.Hex
import Handheld.Text.Utf8
import Handheld.Word
