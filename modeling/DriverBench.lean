import DriverBench.Arguments
import DriverBench.Caret
import DriverBench.Command.Argument
import DriverBench.Command.Bindings
import DriverBench.Command.Device
import DriverBench.Command.Execute
import DriverBench.Command.Help
import DriverBench.Command.Launch
import DriverBench.Command.Name
import DriverBench.Command.Save
import DriverBench.CommandLine
import DriverBench.Console
import DriverBench.Cursor
import DriverBench.Device.Image
import DriverBench.Device.Object
import DriverBench.Device.Status
import DriverBench.Environment
import DriverBench.Expression.Array
import DriverBench.Expression.Constructor
import DriverBench.Expression.Evaluate
import DriverBench.Expression.File
import DriverBench.Expression.Memory
import DriverBench.Expression.Program
import DriverBench.Fault
import DriverBench.Files.Error
import DriverBench.Files.Path
import DriverBench.Files.Tree
import DriverBench.History
import DriverBench.Listing
import DriverBench.Main
import DriverBench.Number.Binary
import DriverBench.Number.Bytes
import DriverBench.Number.Constant
import DriverBench.Number.Decimal
import DriverBench.Number.Element
import DriverBench.Number.Half
import DriverBench.Raster.Checksum
import DriverBench.Raster.Codec
import DriverBench.Raster.Container
import DriverBench.Raster.Deflate
import DriverBench.Raster.Deflate.Bits
import DriverBench.Raster.Deflate.Code
import DriverBench.Raster.Deflate.Item
import DriverBench.Raster.Deflate.Reading
import DriverBench.Raster.Netpbm
import DriverBench.Raster.Png
import DriverBench.Script
import DriverBench.Session.Basic
import DriverBench.Session.Reading
import DriverBench.Simulator.Declaration
import DriverBench.Simulator.Fleet
import DriverBench.Simulator.Kernel
import DriverBench.Simulator.Memory
import DriverBench.Simulator.Platform
import DriverBench.Simulator.Program
import DriverBench.Simulator.State
import DriverBench.Table
import DriverBench.Text.Abbreviation
import DriverBench.Text.Backspace
import DriverBench.Text.Blank
import DriverBench.Text.Grapheme
import DriverBench.Text.GraphemeClass
import DriverBench.Text.Lines
import DriverBench.Text.Quoted
import DriverBench.Text.Ranges
import DriverBench.Text.Utf8
import DriverBench.Text.WordCharacter
import DriverBench.Token.Basic
import DriverBench.Token.Scan
import DriverBench.Proofs.Reading.Run
import DriverBench.Proofs.Reading.Quiet
import DriverBench.Proofs.Token.Place
import DriverBench.Proofs.Reading.Place
import DriverBench.Proofs.Reading.Progress
import DriverBench.Proofs.Simulator.Entry
import DriverBench.Proofs.Simulator.Calls
import DriverBench.Proofs.Simulator.Fleet
import DriverBench.Proofs.Simulator.Bytes
import DriverBench.Proofs.Simulator.Request
import DriverBench.Proofs.Simulator.Arrays
import DriverBench.Proofs.Session.Balance
import DriverBench.Proofs.Session.Operations
import DriverBench.Proofs.Session.Spares
import DriverBench.Proofs.Session.Drive
import DriverBench.Proofs.Expression.Spares
import DriverBench.Proofs.Expression.Balance
import DriverBench.Proofs.Expression.Place
import DriverBench.Proofs.Command.Spares
import DriverBench.Proofs.Command.Balance
import DriverBench.Proofs.Command.Within
import DriverBench.Proofs.Command.Steady
import DriverBench.Proofs.Command.Place
import DriverBench.Proofs.Command.Execute
import DriverBench.Proofs.Script.Run
import DriverBench.Proofs.Script.Journal
import DriverBench.Proofs.Session.Reached
import DriverBench.Proofs.Session.Report
import DriverBench.Proofs.Script.Depth
import DriverBench.Proofs.Expression.Frame
import DriverBench.Proofs.Session.Failure
import DriverBench.Proofs.Command.Launch
import DriverBench.Proofs.Simulator.Machine
import DriverBench.Proofs.Simulator.Refusal
import DriverBench.Proofs.Text.Utf8
import DriverBench.Proofs.Token.Grammar
import DriverBench.Proofs.Simulator.Binary
import DriverBench.Proofs.Raster.Pixels
import DriverBench.Proofs.Raster.Deflate
import DriverBench.Proofs.Raster.Netpbm
import DriverBench.Proofs.Raster.Png
import DriverBench.Proofs.Raster.Codec
import DriverBench.Proofs.Token.Bytes
import DriverBench.Proofs.Token.Quoted
import DriverBench.Proofs.Session.Switch
import DriverBench.Proofs.Session.Unread
import DriverBench.Proofs.Simulator.Launches
import DriverBench.Proofs.Simulator.Identity
import DriverBench.Proofs.Reading.Gives
import DriverBench.Proofs.Session.Saving
import DriverBench.Proofs.Script.Trace
import DriverBench.Proofs.Expression.InFlight
import DriverBench.Proofs.Command.InFlight
import DriverBench.Proofs.Session.InFlight
import DriverBench.Proofs.Reading.Parallel
import DriverBench.Proofs.Simulator.Near
import DriverBench.Proofs.Session.Near
import DriverBench.Proofs.Reading.Even
import DriverBench.Proofs.Expression.Even
import DriverBench.Proofs.Command.Even
import DriverBench.Proofs.Script.Even
import DriverBench.Proofs.Script.Beside
import DriverBench.Proofs.Session.Display
import DriverBench.Proofs.Expression.Usable
import DriverBench.Proofs.Expression.Clone
import DriverBench.Proofs.Script.Within
import DriverBench.Proofs.Session.Lines
import DriverBench.Proofs.Session.Usable
import DriverBench.Proofs.Script.Shown
import DriverBench.Proofs.CommandLine.Status
import DriverBench.Proofs.Expression.Recursion
import DriverBench.Proofs.Expression.Grammar
import DriverBench.Proofs.Reading.Alike
import DriverBench.Proofs.Expression.Alike
import DriverBench.Proofs.Reading.Settled
import DriverBench.Proofs.Expression.Settled
import DriverBench.Proofs.Expression.Tokens
import DriverBench.Proofs.Environment.OrderedMap
import DriverBench.Proofs.Session.Release
import DriverBench.Proofs.Script.Source
import DriverBench.Proofs.Script.Compose
import DriverBench.Proofs.Token.Name
import DriverBench.Proofs.Token.Compose
import DriverBench.Proofs.Session.Bindings
import DriverBench.Proofs.Session.Naming
import DriverBench.Proofs.Command.Operands
import DriverBench.Proofs.Command.Setting
import DriverBench.Proofs.Command.LocalSize
import DriverBench.Proofs.Session.Kernels
import DriverBench.Proofs.Session.Handing
import DriverBench.Proofs.Session.Launching
import DriverBench.Proofs.Text.Trim
import DriverBench.Proofs.Simulator.Declarations
import DriverBench.Proofs.Simulator.Sources
import DriverBench.Proofs.Session.Paths
import DriverBench.Proofs.Simulator.Independence
import DriverBench.Proofs.Session.Maintained
import DriverBench.Proofs.Session.Clones
import DriverBench.Proofs.Number.Numeral
import DriverBench.Proofs.Number.Element
import DriverBench.Proofs.Expression.IntegerArray
import DriverBench.Proofs.Number.Datum
import DriverBench.Proofs.Number.Truncation
import DriverBench.Proofs.Session.Slicing
import DriverBench.Proofs.Raster.Encoding
import DriverBench.Proofs.Session.Conversation
import DriverBench.Proofs.Reading.Onward
import DriverBench.Proofs.Expression.Onward
import DriverBench.Proofs.Command.Ending
import DriverBench.Proofs.Command.Abbreviation
import DriverBench.Proofs.Session.ImageSize
