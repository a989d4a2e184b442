import DuplexStream.Attempt
import DuplexStream.Binary64.Basic
import DuplexStream.Binary64.Decimal
import DuplexStream.Cancel
import DuplexStream.Client
import DuplexStream.CommandLine
import DuplexStream.ConfigFile.Basic
import DuplexStream.ConfigFile.Location
import DuplexStream.ConfigFile.Reading
import DuplexStream.Controller.Basic
import DuplexStream.Controller.Phase
import DuplexStream.Controller.Policy
import DuplexStream.Controller.Run
import DuplexStream.Duration
import DuplexStream.Exchange
import DuplexStream.Handoff
import DuplexStream.InvalidSetting
import DuplexStream.Launch
import DuplexStream.Loss.Layer
import DuplexStream.Loss.Model
import DuplexStream.Main
import DuplexStream.Mode
import DuplexStream.Outcome
import DuplexStream.Program
import DuplexStream.Proofs.Binary64.Seconds
import DuplexStream.Proofs.Binary64.Value
import DuplexStream.Proofs.Binary64.Whole
import DuplexStream.Proofs.Cancel.Families
import DuplexStream.Proofs.ConfigFile.Partial
import DuplexStream.Proofs.ConfigFile.Sections
import DuplexStream.Proofs.ConfigFile.Values
import DuplexStream.Proofs.Controller.Budget
import DuplexStream.Proofs.Controller.Cycles
import DuplexStream.Proofs.Controller.Isolation
import DuplexStream.Proofs.Controller.Shutdown
import DuplexStream.Proofs.Controller.States
import DuplexStream.Proofs.Controller.Timeline
import DuplexStream.Proofs.Exchange.InOrder
import DuplexStream.Proofs.Exchange.Moves
import DuplexStream.Proofs.Exchange.Rehearsal
import DuplexStream.Proofs.Exchange.Taking
import DuplexStream.Proofs.Loss.Decisions
import DuplexStream.Proofs.Loss.Verdicts
import DuplexStream.Proofs.Program.ExitStatus
import DuplexStream.Proofs.Program.Precedence
import DuplexStream.Proofs.Session.Accounting
import DuplexStream.Proofs.Session.AckOrder
import DuplexStream.Proofs.Session.Acknowledgements
import DuplexStream.Proofs.Session.Arrivals
import DuplexStream.Proofs.Session.AutoCancel
import DuplexStream.Proofs.Session.CancelRecord
import DuplexStream.Proofs.Session.Capacity
import DuplexStream.Proofs.Session.Clock
import DuplexStream.Proofs.Session.Flush
import DuplexStream.Proofs.Session.Forecast
import DuplexStream.Proofs.Session.Frame
import DuplexStream.Proofs.Session.HangUp
import DuplexStream.Proofs.Session.Interleaving
import DuplexStream.Proofs.Session.Interruption
import DuplexStream.Proofs.Session.Moves
import DuplexStream.Proofs.Session.Pace
import DuplexStream.Proofs.Session.Parting
import DuplexStream.Proofs.Session.PlainTimeline
import DuplexStream.Proofs.Session.Promptness
import DuplexStream.Proofs.Session.Recast
import DuplexStream.Proofs.Session.SideBySide
import DuplexStream.Proofs.Session.Sightings
import DuplexStream.Proofs.Session.Skeleton
import DuplexStream.Proofs.Session.Termination
import DuplexStream.Proofs.Session.Unread
import DuplexStream.Proofs.Target.Normalisation
import DuplexStream.Proofs.Text.Lossy
import DuplexStream.Proofs.Text.SmallLetters
import DuplexStream.Proofs.Text.Utf8
import DuplexStream.Proofs.Text.WellFormed
import DuplexStream.Proofs.Toml.Documents
import DuplexStream.Proofs.Toml.Lines
import DuplexStream.Proofs.Toml.Literals
import DuplexStream.Proofs.Toml.Tree
import DuplexStream.Proofs.Transport.Bookkeeping
import DuplexStream.Proofs.Transport.Rehearsal
import DuplexStream.Proofs.Wire.Fields
import DuplexStream.Proofs.Wire.Framing
import DuplexStream.Proofs.Wire.Merging
import DuplexStream.Proofs.Wire.RoundTrip
import DuplexStream.Proofs.Wire.Schemas
import DuplexStream.Proofs.Wire.Spelling
import DuplexStream.Queue
import DuplexStream.Random.ChaCha
import DuplexStream.Random.Generator
import DuplexStream.Random.Seeded
import DuplexStream.Rehearsal.Client
import DuplexStream.Rehearsal.Controller
import DuplexStream.Rehearsal.Session
import DuplexStream.Rehearsal.Transport
import DuplexStream.Rounding
import DuplexStream.Script
import DuplexStream.Session.Basic
import DuplexStream.Session.Moment
import DuplexStream.Session.Peer
import DuplexStream.Session.Plan
import DuplexStream.Session.Run
import DuplexStream.Session.WriteLoop
import DuplexStream.Settings
import DuplexStream.Status
import DuplexStream.Target
import DuplexStream.Target.Address
import DuplexStream.Text.Blank
import DuplexStream.Text.Numeral
import DuplexStream.Text.SmallLetters
import DuplexStream.Text.Utf8
import DuplexStream.Toml.Document
import DuplexStream.Toml.Node
import DuplexStream.Toml.Scalar
import DuplexStream.Toml.Text
import DuplexStream.Trace
import DuplexStream.Transport
import DuplexStream.Transport.Clients
import DuplexStream.Trigger
import DuplexStream.Wire
import DuplexStream.Wire.Adapter
import DuplexStream.Wire.Decoding
import DuplexStream.Wire.Encoding
import DuplexStream.Wire.Message
import DuplexStream.Wire.Record
