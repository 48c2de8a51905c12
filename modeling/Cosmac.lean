import Cosmac.Bench.Answer
import Cosmac.Bench.Keypad
import Cosmac.Bench.Machine
import Cosmac.Bench.Picture
import Cosmac.Bench.Screen
import Cosmac.Bench.Timers
import Cosmac.Config.Basic
import Cosmac.Config.Document
import Cosmac.Console.Command
import Cosmac.Console.CommandLine
import Cosmac.Console.Option
import Cosmac.Files
import Cosmac.Framebuffer.Basic
import Cosmac.Framebuffer.Image
import Cosmac.Framebuffer.Png
import Cosmac.Framebuffer.RunLength
import Cosmac.Framebuffer.Sprite
import Cosmac.Instruction.Basic
import Cosmac.Instruction.Listing
import Cosmac.Instruction.Mnemonic
import Cosmac.Json.Agreement
import Cosmac.Json.Argument
import Cosmac.Json.Basic
import Cosmac.Json.Display
import Cosmac.Json.Grid
import Cosmac.Json.Reader
import Cosmac.Json.Writer
import Cosmac.Keypad.Basic
import Cosmac.Keypad.Name
import Cosmac.Machine.Basic
import Cosmac.Machine.CallStack
import Cosmac.Machine.Document
import Cosmac.Machine.Font
import Cosmac.Machine.Listener
import Cosmac.Machine.Snapshot
import Cosmac.Machine.Start
import Cosmac.Machine.Step
import Cosmac.Main
import Cosmac.Number.Binary64
import Cosmac.Number.ByteCount
import Cosmac.Number.FixedPoint
import Cosmac.Number.Numeral
import Cosmac.Number.Quantity
import Cosmac.Number.Shortest
import Cosmac.Program
import Cosmac.Proofs.Halting
import Cosmac.Proofs.Instruction.Decoding
import Cosmac.Proofs.Machine.Execution
import Cosmac.Proofs.Machine.History
import Cosmac.Proofs.Microcode.Cells
import Cosmac.Proofs.Microcode.Devices
import Cosmac.Proofs.Microcode.Families
import Cosmac.Proofs.Microcode.Handlers
import Cosmac.Proofs.Microcode.Host
import Cosmac.Proofs.Microcode.Simulation
import Cosmac.Proofs.Microcode.View
import Cosmac.Proofs.Nesting
import Cosmac.Proofs.Range
import Cosmac.Proofs.Recognition
import Cosmac.Random.ByteSource
import Cosmac.Random.Digest
import Cosmac.Random.Seed
import Cosmac.Random.Twister
import Cosmac.Run.Basic
import Cosmac.Run.Given
import Cosmac.Run.Journal
import Cosmac.Run.Paced
import Cosmac.Run.Session
import Cosmac.Service.Basic
import Cosmac.Service.Runner
import Cosmac.Service.View
import Cosmac.Text.Alphanumeric
import Cosmac.Text.Base64
import Cosmac.Text.Blank
import Cosmac.Text.Capital
import Cosmac.Text.CaseFold
import Cosmac.Text.CaseTable
import Cosmac.Text.CharacterName
import Cosmac.Text.CodePointSet
import Cosmac.Text.CombiningClass
import Cosmac.Text.DecimalDigit
import Cosmac.Text.Decomposition
import Cosmac.Text.Direction
import Cosmac.Text.Encoding
import Cosmac.Text.Hexadecimal
import Cosmac.Text.Identifier
import Cosmac.Text.LowerCase
import Cosmac.Text.NormalForm
import Cosmac.Text.Pattern.Basic
import Cosmac.Text.Pattern.CharSet
import Cosmac.Text.Pattern.Escape
import Cosmac.Text.Pattern.Fit
import Cosmac.Text.Pattern.Reader
import Cosmac.Text.Pattern.Settings
import Cosmac.Text.Pattern.Token
import Cosmac.Text.Printable
import Cosmac.Text.Punycode
import Cosmac.Text.Quoted
import Cosmac.Text.Symbol
import Cosmac.Text.Template
import Cosmac.Text.Utf8
import Cosmac.Timers.Basic
import Cosmac.Timers.Clock
import Cosmac.Web.Api
import Cosmac.Web.Authority
import Cosmac.Web.Endpoint
import Cosmac.Web.Host
import Cosmac.Web.HostName
import Cosmac.Web.IpAddress
import Cosmac.Web.Message
import Cosmac.Web.Origin
import Cosmac.Web.Percent
import Cosmac.Web.Site
import Cosmac.Web.Target
import Cosmac.Word
import Cosmac.Proofs.Machine.Bisimulation
import Cosmac.Proofs.Machine.Likeness
import Cosmac.Proofs.Capture
import Cosmac.Proofs.KeyWait
import Cosmac.Proofs.Wrapping
import Cosmac.Proofs.Instruction.Pattern
import Cosmac.Proofs.Machine.Devices
import Cosmac.Proofs.Machine.Monitoring
import Cosmac.Proofs.Frame
import Cosmac.Proofs.Interleaving
import Cosmac.Proofs.Restart
import Cosmac.Proofs.Number.Magnitude
import Cosmac.Proofs.Run.Schedule
import Cosmac.Proofs.Run.Moment
import Cosmac.Proofs.Run.Answer
import Cosmac.Proofs.Pacing
import Cosmac.Proofs.Number.Notation
import Cosmac.Proofs.Text.LowerCase
import Cosmac.Proofs.Config.Construction
import Cosmac.Proofs.Config.Refusal
import Cosmac.Proofs.Config.Storage
import Cosmac.Proofs.Console.Loading
import Cosmac.Proofs.Json.Integers
import Cosmac.Proofs.Keypad.Resolution
import Cosmac.Proofs.Web.Status
import Cosmac.Proofs.Difference
import Cosmac.Proofs.Service.Action
import Cosmac.Proofs.Web.Request
import Cosmac.Proofs.Web.Refusal
import Cosmac.Proofs.Service.Running
import Cosmac.Proofs.Web.Running
import Cosmac.Proofs.Service.Tone
import Cosmac.Proofs.Keypad.Labels
import Cosmac.Proofs.Instruction.Notation
import Cosmac.Proofs.Disassembly
import Cosmac.Proofs.Service.Diagnostics
import Cosmac.Proofs.Framebuffer.Blit
import Cosmac.Proofs.Demonstration
import Cosmac.Proofs.Drawing
import Cosmac.Proofs.Randomness
import Cosmac.Proofs.Arithmetic
import Cosmac.Proofs.Transfer
import Cosmac.Proofs.Keypad.Calls
import Cosmac.Proofs.Keypad.Delivery
import Cosmac.Proofs.Keypad.Precedence
import Cosmac.Proofs.Text.LetterCase
import Cosmac.Proofs.Keypad.LetterCase
import Cosmac.Proofs.Countdown
import Cosmac.Proofs.Number.Positive
import Cosmac.Proofs.Run.Statistics
import Cosmac.Proofs.Number.Sign
import Cosmac.Proofs.Service.Batch
import Cosmac.Proofs.Service.Pausing
import Cosmac.Proofs.Program.Loading
import Cosmac.Proofs.Program.Listing
import Cosmac.Proofs.Timekeeping
import Cosmac.Proofs.Number.Rounding
import Cosmac.Proofs.Config.Steps
import Cosmac.Proofs.Framebuffer.Snapshot
import Cosmac.Proofs.Framebuffer.Picture
import Cosmac.Proofs.Display
import Cosmac.Proofs.Delivery
import Cosmac.Proofs.Number.IntegerPart
import Cosmac.Proofs.Keypad.Numbers
