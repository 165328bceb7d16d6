import AnchorLayout.CommandLine
import AnchorLayout.CommandLine.Device
import AnchorLayout.CommandLine.FileSystem
import AnchorLayout.CommandLine.Options
import AnchorLayout.Coord
import AnchorLayout.Decimal.Binary64
import AnchorLayout.Decimal.Number
import AnchorLayout.Digest.Blake3
import AnchorLayout.Document
import AnchorLayout.Document.Printer
import AnchorLayout.Document.Reader
import AnchorLayout.Error
import AnchorLayout.Frame
import AnchorLayout.Json.Basic
import AnchorLayout.Json.Fault
import AnchorLayout.Json.Lexeme
import AnchorLayout.Json.Reader
import AnchorLayout.Layout
import AnchorLayout.Layout.Dependency
import AnchorLayout.Layout.Placement
import AnchorLayout.Log
import AnchorLayout.Log.RotatingFile
import AnchorLayout.Main
import AnchorLayout.Preview
import AnchorLayout.Preview.Bounded
import AnchorLayout.Proofs.Building.Edits
import AnchorLayout.Proofs.Building.Labels
import AnchorLayout.Proofs.Building.Runs
import AnchorLayout.Proofs.CommandLine.Files
import AnchorLayout.Proofs.CommandLine.PassLog
import AnchorLayout.Proofs.CommandLine.Reports
import AnchorLayout.Proofs.Dependency.Accesses
import AnchorLayout.Proofs.Dependency.Anchoring
import AnchorLayout.Proofs.Dependency.Cycle
import AnchorLayout.Proofs.Dependency.Graph
import AnchorLayout.Proofs.Dependency.Least
import AnchorLayout.Proofs.Dependency.Order
import AnchorLayout.Proofs.Dependency.Schedule
import AnchorLayout.Proofs.Digest.Encoding
import AnchorLayout.Proofs.Document.Loading
import AnchorLayout.Proofs.Document.Outcomes
import AnchorLayout.Proofs.Document.Reordering
import AnchorLayout.Proofs.Document.RoundTrip
import AnchorLayout.Proofs.Json.Lexeme
import AnchorLayout.Proofs.Json.Lines
import AnchorLayout.Proofs.Json.Reading
import AnchorLayout.Proofs.Json.Records
import AnchorLayout.Proofs.Json.Telling
import AnchorLayout.Proofs.Log.Books
import AnchorLayout.Proofs.Log.Framing
import AnchorLayout.Proofs.Log.Received
import AnchorLayout.Proofs.Log.Rotation
import AnchorLayout.Proofs.Outputs
import AnchorLayout.Proofs.Placement.Accesses
import AnchorLayout.Proofs.Placement.Axes
import AnchorLayout.Proofs.Placement.Bypass
import AnchorLayout.Proofs.Placement.Commuting
import AnchorLayout.Proofs.Placement.Counterparts
import AnchorLayout.Proofs.Placement.Edges
import AnchorLayout.Proofs.Placement.Extents
import AnchorLayout.Proofs.Placement.FallThrough
import AnchorLayout.Proofs.Placement.Fixpoint
import AnchorLayout.Proofs.Placement.Locality
import AnchorLayout.Proofs.Placement.Magnitude
import AnchorLayout.Proofs.Placement.Mirroring
import AnchorLayout.Proofs.Placement.OwnAnchors
import AnchorLayout.Proofs.Placement.Pins
import AnchorLayout.Proofs.Placement.Saturation
import AnchorLayout.Proofs.Placement.Trails
import AnchorLayout.Proofs.Placement.Transposition
import AnchorLayout.Proofs.Placement.Visibility
import AnchorLayout.Proofs.Preview.Alignment
import AnchorLayout.Proofs.Preview.Cells
import AnchorLayout.Proofs.Preview.Confinement
import AnchorLayout.Proofs.Preview.Labels
import AnchorLayout.Proofs.Preview.LineFeeds
import AnchorLayout.Proofs.Preview.Outlines
import AnchorLayout.Proofs.Preview.Range
import AnchorLayout.Proofs.Preview.Separation
import AnchorLayout.Proofs.Preview.Stacking
import AnchorLayout.Proofs.Resolution
import AnchorLayout.Proofs.Text.Widening
import AnchorLayout.Proofs.Tracking.Entries
import AnchorLayout.Proofs.Tracking.Fingerprint
import AnchorLayout.Proofs.Tracking.Runs
import AnchorLayout.Resolved
import AnchorLayout.Resolver
import AnchorLayout.Rule
import AnchorLayout.Tally
import AnchorLayout.Text.Blank
import AnchorLayout.Text.Columns
import AnchorLayout.Text.Columns.Table
import AnchorLayout.Text.Escapes
import AnchorLayout.Text.Printable
import AnchorLayout.Text.Quoted
import AnchorLayout.Text.Ranges
import AnchorLayout.Tracker
