import Plantilla.Check
import Plantilla.Command
import Plantilla.Command.Run
import Plantilla.Config
import Plantilla.Config.Fault
import Plantilla.Config.Layers
import Plantilla.Diagnostic
import Plantilla.Failure
import Plantilla.Files
import Plantilla.Format
import Plantilla.Grammar
import Plantilla.Grammar.Stock
import Plantilla.Json
import Plantilla.Json.Reader
import Plantilla.Log
import Plantilla.Main
import Plantilla.Matching
import Plantilla.Matching.Cursor
import Plantilla.Position
import Plantilla.Process
import Plantilla.Proofs.Acceptance
import Plantilla.Proofs.Accounting
import Plantilla.Proofs.Boundaries
import Plantilla.Proofs.Following
import Plantilla.Proofs.Items
import Plantilla.Proofs.Likeness
import Plantilla.Proofs.Margins
import Plantilla.Proofs.Munch
import Plantilla.Proofs.Narrowing
import Plantilla.Proofs.Ordering
import Plantilla.Proofs.Pattern
import Plantilla.Proofs.Positions
import Plantilla.Proofs.Quieting
import Plantilla.Proofs.Rebase
import Plantilla.Proofs.Respelling
import Plantilla.Proofs.Segmentation
import Plantilla.Proofs.Spelling
import Plantilla.Proofs.Surroundings
import Plantilla.Proofs.Trimming
import Plantilla.Proofs.Window
import Plantilla.Proofs.Writing
import Plantilla.Report.Records
import Plantilla.Report.Render
import Plantilla.Scan
import Plantilla.Session
import Plantilla.Setting
import Plantilla.Setting.KeyPath
import Plantilla.Spec
import Plantilla.Text.Blank
import Plantilla.Text.Bytes
import Plantilla.Text.Decimal
import Plantilla.Text.Distinct
import Plantilla.Text.Escape
import Plantilla.Text.Extender
import Plantilla.Text.LowerCase
import Plantilla.Text.Numeral
import Plantilla.Text.Shortest
import Plantilla.Text.Unprintable
import Plantilla.Token
import Plantilla.Token.Dump
import Plantilla.Token.Kind
import Plantilla.Token.Reserved
import Plantilla.Toml.Document
import Plantilla.Toml.Moment
import Plantilla.Toml.Number
import Plantilla.Toml.Reader
import Plantilla.Toml.Slot
import Plantilla.Toml.Text
import Plantilla.Toml.Value
import Plantilla.Yaml.Reader
import Plantilla.Yaml.Scalar
import Plantilla.Proofs.Sessions
import Plantilla.Proofs.Lines
import Plantilla.Proofs.Merging
import Plantilla.Proofs.Keys
import Plantilla.Proofs.Layering
import Plantilla.Proofs.Reaching
import Plantilla.Proofs.Exit
import Plantilla.Proofs.Reading
import Plantilla.Proofs.Decoding
import Plantilla.Proofs.Dumping
import Plantilla.Proofs.Expecting
import Plantilla.Proofs.Parity
import Plantilla.Proofs.Distinguishing
import Plantilla.Proofs.Scalars
import Plantilla.Proofs.Joining
import Plantilla.Proofs.Resuming
import Plantilla.Proofs.Magnitude
import Plantilla.Proofs.Searching
import Plantilla.Proofs.Draining
import Plantilla.Proofs.Ending
import Plantilla.Proofs.Sifting
import Plantilla.Proofs.Cascading
import Plantilla.Proofs.Listing
import Plantilla.Proofs.Recording
import Plantilla.Proofs.Specs
import Plantilla.Proofs.Blaming
import Plantilla.Proofs.Tracking
