import Nes.Bus
import Nes.Cartridge.Basic
import Nes.Cartridge.Board
import Nes.Cartridge.Discrete
import Nes.Cartridge.Image
import Nes.Cartridge.Mirroring
import Nes.Cartridge.Mmc1
import Nes.Cartridge.Mmc3
import Nes.Cartridge.Stored
import Nes.Cartridge.Window
import Nes.CommandLine.Options
import Nes.CommandLine.Report
import Nes.Console
import Nes.Console.Files
import Nes.Controller
import Nes.Cpu.AddressSpace
import Nes.Cpu.Basic
import Nes.Cpu.Effect
import Nes.Cpu.Instruction
import Nes.Cpu.OpcodeMatrix
import Nes.Cpu.Status
import Nes.Cpu.Step
import Nes.Machine
import Nes.Main
import Nes.Memory
import Nes.OamTransfer
import Nes.Picture.Color
import Nes.Picture.FrameBuffer
import Nes.Ppu.Background
import Nes.Ppu.Basic
import Nes.Ppu.CartridgeSide
import Nes.Ppu.Dot
import Nes.Ppu.Flags
import Nes.Ppu.ProcessorSide
import Nes.Ppu.Scroll
import Nes.Ppu.Sprites
import Nes.Ppu.VideoMemory
import Nes.Proofs.Arithmetic.Checked
import Nes.Proofs.Bus.Access
import Nes.Proofs.Bus.Guise
import Nes.Proofs.Bus.IrqRequest
import Nes.Proofs.Bus.LastWrite
import Nes.Proofs.Cartridge.Accepted
import Nes.Proofs.Cartridge.BoardMemory
import Nes.Proofs.Cartridge.BoardReset
import Nes.Proofs.Cartridge.BoardState
import Nes.Proofs.Cartridge.BoardUse
import Nes.Proofs.Cartridge.Bounds
import Nes.Proofs.Cartridge.CharacterRam
import Nes.Proofs.Cartridge.Checked
import Nes.Proofs.Cartridge.ExtendedCounts
import Nes.Proofs.Cartridge.FixedBank
import Nes.Proofs.Cartridge.ImageParts
import Nes.Proofs.Cartridge.Indexed
import Nes.Proofs.Cartridge.ReadOnly
import Nes.Proofs.Cartridge.Restored
import Nes.Proofs.Cartridge.SerialPort
import Nes.Proofs.Cartridge.Stored
import Nes.Proofs.Cartridge.Use
import Nes.Proofs.Console.Bounds
import Nes.Proofs.Console.CutState
import Nes.Proofs.Console.Foreground
import Nes.Proofs.Console.Frame
import Nes.Proofs.Console.FrameSkip
import Nes.Proofs.Console.IrqRequest
import Nes.Proofs.Console.RasterOutput
import Nes.Proofs.Console.Reachable
import Nes.Proofs.Console.ReadOnly
import Nes.Proofs.Console.Redraw
import Nes.Proofs.Console.SaveState
import Nes.Proofs.Console.SpriteTransfer
import Nes.Proofs.Cpu.Accesses
import Nes.Proofs.Cpu.ByteSum
import Nes.Proofs.Cpu.Checked
import Nes.Proofs.Cpu.Cycles
import Nes.Proofs.Cpu.Execution
import Nes.Proofs.Cpu.FlatMemory
import Nes.Proofs.Cpu.LongArithmetic
import Nes.Proofs.Cpu.Simulation
import Nes.Proofs.Cpu.Stack
import Nes.Proofs.Cpu.StatusMarks
import Nes.Proofs.Cpu.Timing
import Nes.Proofs.Machine.Bounds
import Nes.Proofs.Machine.Checked
import Nes.Proofs.Machine.ChipAccess
import Nes.Proofs.Machine.Clock
import Nes.Proofs.Machine.Guise
import Nes.Proofs.Machine.HeldUp
import Nes.Proofs.Machine.Indexed
import Nes.Proofs.Machine.IrqRequest
import Nes.Proofs.Machine.Overwrite
import Nes.Proofs.Machine.Progress
import Nes.Proofs.Machine.Raster
import Nes.Proofs.Machine.Signals
import Nes.Proofs.Machine.SlotUse
import Nes.Proofs.Machine.Sound
import Nes.Proofs.Machine.SpriteTransfer
import Nes.Proofs.Machine.Stored
import Nes.Proofs.Machine.Tick
import Nes.Proofs.Machine.Truncated
import Nes.Proofs.Machine.Use
import Nes.Proofs.Memory.Indexed
import Nes.Proofs.Ppu.BackgroundPicture
import Nes.Proofs.Ppu.Bounds
import Nes.Proofs.Ppu.CheckedBackground
import Nes.Proofs.Ppu.CheckedDot
import Nes.Proofs.Ppu.CheckedSprites
import Nes.Proofs.Ppu.DotPhase
import Nes.Proofs.Ppu.DotWork
import Nes.Proofs.Ppu.FirstLine
import Nes.Proofs.Ppu.FrameTiming
import Nes.Proofs.Ppu.FrameWalk
import Nes.Proofs.Ppu.Grid
import Nes.Proofs.Ppu.IndexedDot
import Nes.Proofs.Ppu.IndexedMemory
import Nes.Proofs.Ppu.IndexedSprites
import Nes.Proofs.Ppu.Nametables
import Nes.Proofs.Ppu.PicturePlaces
import Nes.Proofs.Ppu.Raster
import Nes.Proofs.Ppu.Registers
import Nes.Proofs.Ppu.ScrollFields
import Nes.Proofs.Ppu.Signals
import Nes.Proofs.Ppu.SpriteLine
import Nes.Proofs.Ppu.SpriteLookUp
import Nes.Proofs.Ppu.Stage
import Nes.Proofs.Ppu.TileStream
import Nes.Proofs.Ppu.Unseen
import Nes.Proofs.SaveState.Codec
import Nes.Proofs.SaveState.Components
import Nes.Proofs.SaveState.Entries
import Nes.Proofs.SaveState.Layout
import Nes.Proofs.SaveState.Overwrite
import Nes.Proofs.SaveState.Prefix
import Nes.SaveState.Codec
import Nes.SaveState.Layout
import Nes.Settings
import Nes.Storage.Basic
import Nes.Storage.Path
import Nes.Text.Digits
import Nes.Text.Json
import Nes.Text.JsonToken
import Nes.Text.Utf8
import Nes.Trace
import Nes.Word
import Nes.Proofs.Cartridge.SerialRegisters
import Nes.Proofs.Cartridge.BankWindows
import Nes.Proofs.Ppu.SpriteSelection
import Nes.Proofs.Ppu.SpriteWalk
import Nes.Proofs.Ppu.ZeroHit
import Nes.Proofs.Cartridge.CharacterPairs
import Nes.Proofs.Cartridge.LineCounter
import Nes.Proofs.Bus.TransferStores
import Nes.Proofs.Ppu.VideoHistory
import Nes.Proofs.Ppu.ScrollProtocol
import Nes.Proofs.Ppu.DataPort
import Nes.Proofs.Ppu.DarkDots
import Nes.Proofs.Bus.ControllerPort
import Nes.Proofs.Machine.ControllerPort
