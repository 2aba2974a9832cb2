import AsmView.Text.Table
import AsmView.Text.Blank
import AsmView.Text.Lines
import AsmView.Text.Digits
import AsmView.Text.Alphanumeric
import AsmView.Text.WordCharacter
import AsmView.Text.Printable
import AsmView.Text.CaseTable
import AsmView.Text.CasedTable
import AsmView.Text.Case
import AsmView.Text.Quoted
import AsmView.Address
import AsmView.Reference
import AsmView.Routine
import AsmView.Line
import AsmView.Decimal.Shortest
import AsmView.Json.Fault
import AsmView.Json.Reader
import AsmView.Image
import AsmView.Image.Check
import AsmView.Image.Codec
import AsmView.Analyzer
import AsmView.Image.Sample
import AsmView.Halving
import AsmView.Loaded
import AsmView.Channels
import AsmView.Config
import AsmView.Listing
import AsmView.Machine
import AsmView.Seek
import AsmView.Template
import AsmView.Feed
import AsmView.Focus
import AsmView.Panel
import AsmView.Panel.Refill
import AsmView.Session
import AsmView.Session.Move
import AsmView.Board
import AsmView.Tool
import AsmView.App
import AsmView.App.Keys
import AsmView.App.Frame
import AsmView.Disk.Route
import AsmView.Disk.Tree
import AsmView.Image.Store
import AsmView.Launch
import AsmView.Channels.Guards
import AsmView.Main
import AsmView.Screen.Slices
import AsmView.Proofs.Analyzer
import AsmView.Proofs.Channels
import AsmView.Proofs.Listing
import AsmView.Proofs.Feed
import AsmView.Proofs.Panel.Handler
import AsmView.Proofs.Panel.Refill
import AsmView.Proofs.Panel.Report
import AsmView.Proofs.Focus
import AsmView.Proofs.Panel
import AsmView.Proofs.Session.Focus
import AsmView.Proofs.Session.Refill
import AsmView.Proofs.Session.Reload
import AsmView.Proofs.Session.Step
import AsmView.Proofs.Session.Order
import AsmView.Proofs.Session.Reentry
import AsmView.Proofs.Session.Told
import AsmView.Proofs.Session.Whole
import AsmView.Proofs.Line
import AsmView.Proofs.Json.Scalar
import AsmView.Proofs.Json.Reader
import AsmView.Proofs.Disk.Tree
import AsmView.Proofs.Image.Codec
import AsmView.Proofs.Image.Store
import AsmView.Proofs.Halving
import AsmView.Proofs.Loaded
import AsmView.Proofs.Loaded.Seamless
import AsmView.Proofs.Config
import AsmView.Proofs.Session.Seamless
import AsmView.Proofs.Loaded.Panels
import AsmView.Proofs.Panel.Alone
import AsmView.Proofs.Loaded.Owner
import AsmView.Proofs.Loaded.Listed
import AsmView.Proofs.Session.Reflects
import AsmView.Proofs.Session.Landing
import AsmView.Proofs.Panel.Fixed
import AsmView.Proofs.Image.Check
import AsmView.Proofs.Tool
import AsmView.Proofs.Feed.Passes
import AsmView.Proofs.Session.Regrow
import AsmView.Proofs.Session.Paging
import AsmView.Proofs.Board
import AsmView.Proofs.Board.Revision
import AsmView.Proofs.Board.Request
import AsmView.Proofs.Panel.Agreement
import AsmView.Proofs.Session.Counts
import AsmView.Proofs.Session.Stream
import AsmView.Proofs.Loaded.Home
import AsmView.Proofs.Session.Return
import AsmView.Proofs.Machine
import AsmView.Proofs.Pager
import AsmView.Proofs.Session.Ample
import AsmView.Proofs.Session.Place
import AsmView.Proofs.Panel.Calls
import AsmView.Proofs.Panel.Thrift
import AsmView.Proofs.Session.Calls
import AsmView.Proofs.Session.Passes
import AsmView.Proofs.App
import AsmView.Proofs.App.Order
import AsmView.Proofs.App.Notice
import AsmView.Proofs.Session.OnScreen
import AsmView.Proofs.App.OnScreen
import AsmView.Proofs.Loaded.Accepted
import AsmView.Proofs.Loaded.References
import AsmView.Proofs.Session.Crossing
import AsmView.Proofs.Session.Trail
import AsmView.Proofs.Session.Announced
import AsmView.Proofs.Loaded.Graph
import AsmView.Proofs.Loaded.Lookup
import AsmView.Proofs.Loaded.Index
import AsmView.Proofs.Panel.Preview
import AsmView.Proofs.Seek.Likeness
import AsmView.Proofs.Seek
import AsmView.Proofs.Address
import AsmView.Proofs.Address.Written
import AsmView.Proofs.Text.Blank
import AsmView.Proofs.Text.Digits
import AsmView.Proofs.Options
import AsmView.Proofs.Loaded.Transfer
import AsmView.Proofs.Screen.Painting
import AsmView.Proofs.Screen.Columns
import AsmView.Proofs.Screen.Arcs
import AsmView.Proofs.Template
import AsmView.Proofs.Channels.Guards
import AsmView.Proofs.Screen.Palette
import AsmView.Proofs.Image.Leftover
