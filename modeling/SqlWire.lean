import SqlWire.Main
import SqlWire.Proofs.Action
import SqlWire.Proofs.Calendar.Cells
import SqlWire.Proofs.Calendar.Gregorian
import SqlWire.Proofs.Column.Order
import SqlWire.Proofs.Decimal.Canonical
import SqlWire.Proofs.Decimal.RoundTrip
import SqlWire.Proofs.Decimal.Value
import SqlWire.Proofs.Json.Queries
import SqlWire.Proofs.Json.Reading
import SqlWire.Proofs.Json.Rows
import SqlWire.Proofs.Json.Values
import SqlWire.Proofs.Options.Layers
import SqlWire.Proofs.Reply
import SqlWire.Proofs.Request
import SqlWire.Proofs.Result.Aborted
import SqlWire.Proofs.Result.Columns
import SqlWire.Proofs.Result.Cursor
import SqlWire.Proofs.Result.History
import SqlWire.Proofs.Result.Moves
import SqlWire.Proofs.Result.Navigation
import SqlWire.Proofs.Result.Steps
import SqlWire.Proofs.Result.Streaming
import SqlWire.Proofs.Session.Correlation
import SqlWire.Proofs.Session.Descriptions
import SqlWire.Proofs.Session.Exchange
import SqlWire.Proofs.Session.Execution
import SqlWire.Proofs.Session.Gates
import SqlWire.Proofs.Session.Handshake
import SqlWire.Proofs.Session.Lifecycle
import SqlWire.Proofs.Session.Rewording
import SqlWire.Proofs.Session.Runs
import SqlWire.Proofs.Session.Secrecy
import SqlWire.Proofs.Session.SideBySide
import SqlWire.Proofs.Session.Synchrony
import SqlWire.Proofs.Session.Turns
import SqlWire.Proofs.ShapeCache
import SqlWire.Proofs.Stream.Assembly
import SqlWire.Proofs.Stream.Encoding
import SqlWire.Proofs.Stream.Frames
import SqlWire.Proofs.Stream.Parsing
import SqlWire.Proofs.Stream.Reception
import SqlWire.Proofs.Stream.Rephrasing
import SqlWire.Proofs.Stream.Report
import SqlWire.Proofs.Stream.Splitting
import SqlWire.Proofs.Text.Digits
import SqlWire.Proofs.Text.Numeral
import SqlWire.Proofs.Text.Parsing
import SqlWire.Proofs.Wire.Counts
import SqlWire.Proofs.Wire.Layout
import SqlWire.Proofs.Wire.RoundTrip
import SqlWire.Proofs.Wire.Steps
import SqlWire.Session.Script
import SqlWire.Wire.Slot
