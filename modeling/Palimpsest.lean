import Palimpsest.Analysis.Finding
import Palimpsest.Analysis.Result
import Palimpsest.Analysis.Service
import Palimpsest.Bisect
import Palimpsest.Command.Arguments
import Palimpsest.Command.Libraries
import Palimpsest.Command.Run
import Palimpsest.Datum
import Palimpsest.Decimal.Binary64
import Palimpsest.Declaration.Name
import Palimpsest.Declaration.Registry
import Palimpsest.Dictionary
import Palimpsest.Event
import Palimpsest.Expander.Output
import Palimpsest.Expansion.Entry
import Palimpsest.Expansion.Fetch
import Palimpsest.Expansion.Nested
import Palimpsest.Expansion.Store
import Palimpsest.Files
import Palimpsest.Files.Snapshot
import Palimpsest.Json.Number
import Palimpsest.Json.Printer
import Palimpsest.Json.Reader
import Palimpsest.Json.Value
import Palimpsest.Main
import Palimpsest.Mapping.Lookup
import Palimpsest.Mapping.Mapper
import Palimpsest.Mapping.Segment
import Palimpsest.Mapping.SegmentMap
import Palimpsest.Mapping.Wording
import Palimpsest.Offset
import Palimpsest.Pattern.CharSet
import Palimpsest.Pattern.Expr
import Palimpsest.Pattern.Reader
import Palimpsest.Proofs.Bisect
import Palimpsest.Proofs.Declaration.Name
import Palimpsest.Proofs.Declaration.Sharing
import Palimpsest.Proofs.Expansion.Answers
import Palimpsest.Proofs.Expansion.Direct
import Palimpsest.Proofs.Expansion.Effects
import Palimpsest.Proofs.Expansion.Frame
import Palimpsest.Proofs.Expansion.Fresh
import Palimpsest.Proofs.Expansion.Reentrancy
import Palimpsest.Proofs.Expansion.Runs
import Palimpsest.Proofs.Expansion.Units
import Palimpsest.Proofs.Mapping.Carry
import Palimpsest.Proofs.Mapping.Identity
import Palimpsest.Proofs.Mapping.Monotone
import Palimpsest.Proofs.Mapping.Nesting
import Palimpsest.Proofs.Mapping.Order
import Palimpsest.Proofs.Mapping.Outline
import Palimpsest.Proofs.Mapping.Refusal
import Palimpsest.Proofs.Mapping.RoundTrip
import Palimpsest.Proofs.Mapping.Scan
import Palimpsest.Proofs.Mapping.Spans
import Palimpsest.Proofs.Mapping.Totality
import Palimpsest.Proofs.Mapping.Validity
import Palimpsest.Proofs.Session.Bypass
import Palimpsest.Proofs.Session.Calls
import Palimpsest.Proofs.Session.Locations
import Palimpsest.Proofs.Session.Origin
import Palimpsest.Proofs.Session.Present
import Palimpsest.Proofs.Session.Pruning
import Palimpsest.Proofs.Session.Queries
import Palimpsest.Proofs.Session.Reading
import Palimpsest.Proofs.Session.Reload
import Palimpsest.Proofs.Session.Repeat
import Palimpsest.Proofs.Session.Runs
import Palimpsest.Proofs.Session.Staleness
import Palimpsest.Proofs.Session.Transparent
import Palimpsest.Proofs.Session.UnitReads
import Palimpsest.Proofs.Text.Inverse
import Palimpsest.Proofs.Text.Lines
import Palimpsest.Proofs.Text.Monotone
import Palimpsest.Proofs.Text.Offsets
import Palimpsest.Proofs.Text.Parts
import Palimpsest.Proofs.Text.Positions
import Palimpsest.Proofs.Url.Percent
import Palimpsest.Proofs.Version
import Palimpsest.Proofs.Wire.FreeForm
import Palimpsest.Proofs.Wire.Records
import Palimpsest.Proofs.Wire.RoundTrip
import Palimpsest.Provider.Manifest
import Palimpsest.Provider.Resolver
import Palimpsest.Session.Basic
import Palimpsest.Session.Host
import Palimpsest.Session.Remap
import Palimpsest.Settings.Basic
import Palimpsest.Settings.File
import Palimpsest.Settings.Load
import Palimpsest.Span
import Palimpsest.Table
import Palimpsest.Text.Blank
import Palimpsest.Text.Category
import Palimpsest.Text.CodeTable
import Palimpsest.Text.Fold
import Palimpsest.Text.Hex
import Palimpsest.Text.Letter
import Palimpsest.Text.Lines
import Palimpsest.Text.Property
import Palimpsest.Text.Quoted
import Palimpsest.Text.Script
import Palimpsest.Toml.Reader
import Palimpsest.Toml.Scalar
import Palimpsest.Toml.Tree
import Palimpsest.Url.Basic
import Palimpsest.Url.Host
import Palimpsest.Url.Path
import Palimpsest.Url.Percent
import Palimpsest.Url.Punycode
import Palimpsest.Url.Reader
import Palimpsest.Url.Scheme
import Palimpsest.Url.Strict
import Palimpsest.Version
import Palimpsest.Wire.Analysis
import Palimpsest.Wire.Codec
import Palimpsest.Wire.Datum
import Palimpsest.Wire.Expander
import Palimpsest.Wire.Mapping
import Palimpsest.Wire.Settings
import Palimpsest.Proofs.Settings.Layers
import Palimpsest.Proofs.Provider.Resolution
import Palimpsest.Proofs.Url.Written
import Palimpsest.Proofs.Url.Rendered
import Palimpsest.Proofs.Declaration.Recognition
import Palimpsest.Proofs.Declaration.Beside
import Palimpsest.Proofs.Command.Explanation
