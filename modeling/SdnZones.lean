import SdnZones.Api.Canned
import SdnZones.Api.Cluster
import SdnZones.Api.Exchange
import SdnZones.Api.Procedure
import SdnZones.Api.Zones
import SdnZones.Command.Arguments
import SdnZones.Command.Format
import SdnZones.Command.Invocation
import SdnZones.Command.Outcome
import SdnZones.Command.Run
import SdnZones.Command.Table
import SdnZones.Command.Zones
import SdnZones.Decode.Datum
import SdnZones.Decode.Fault
import SdnZones.Decode.Layout
import SdnZones.Diagnostic
import SdnZones.Dict
import SdnZones.Http.Answer
import SdnZones.Http.Client
import SdnZones.Http.Form
import SdnZones.Http.Status
import SdnZones.Http.Url
import SdnZones.Ini.Reader
import SdnZones.Json.Printer
import SdnZones.Json.Reader
import SdnZones.Json.Relaxed
import SdnZones.Json.Token
import SdnZones.Json.Value
import SdnZones.Main
import SdnZones.Number.Binary64
import SdnZones.Number.Numeral
import SdnZones.Number.Power
import SdnZones.Number.Shortest
import SdnZones.Proofs.Api.Cluster
import SdnZones.Proofs.Api.Interleaving
import SdnZones.Proofs.Api.ItemPath
import SdnZones.Proofs.Api.Listing
import SdnZones.Proofs.Api.Runs
import SdnZones.Proofs.Command.Show
import SdnZones.Proofs.Command.Table
import SdnZones.Proofs.Command.Zones
import SdnZones.Proofs.Decode.Codec
import SdnZones.Proofs.Decode.Slot
import SdnZones.Proofs.Dict
import SdnZones.Proofs.Document.Codec
import SdnZones.Proofs.Document.Form
import SdnZones.Proofs.Document.Setting
import SdnZones.Proofs.Document.Text
import SdnZones.Proofs.Http.Answer
import SdnZones.Proofs.Json.Normal
import SdnZones.Proofs.Json.RoundTrip
import SdnZones.Proofs.Json.Token
import SdnZones.Proofs.Settings.Masking
import SdnZones.Proofs.Settings.Token
import SdnZones.Proofs.Text.CommaList
import SdnZones.Proofs.Text.Numeral
import SdnZones.Proofs.Text.Occurrence
import SdnZones.Proofs.Text.Percent
import SdnZones.Proofs.Text.Utf8
import SdnZones.Proofs.Zone.Absence
import SdnZones.Proofs.Zone.Canonical
import SdnZones.Proofs.Zone.Change
import SdnZones.Proofs.Zone.Classification
import SdnZones.Proofs.Zone.Clients
import SdnZones.Proofs.Zone.Commas
import SdnZones.Proofs.Zone.Constraints
import SdnZones.Proofs.Zone.Convergence
import SdnZones.Proofs.Zone.Defaults
import SdnZones.Proofs.Zone.FieldNames
import SdnZones.Proofs.Zone.Independence
import SdnZones.Proofs.Zone.Lifecycle
import SdnZones.Proofs.Zone.Lists
import SdnZones.Proofs.Zone.Locality
import SdnZones.Proofs.Zone.Operation
import SdnZones.Proofs.Zone.Partition
import SdnZones.Proofs.Zone.Patch
import SdnZones.Proofs.Zone.Projection
import SdnZones.Proofs.Zone.Reading
import SdnZones.Proofs.Zone.Record
import SdnZones.Proofs.Zone.Replacement
import SdnZones.Proofs.Zone.Replies
import SdnZones.Proofs.Zone.Requests
import SdnZones.Proofs.Zone.RoundTrip
import SdnZones.Proofs.Zone.Rules
import SdnZones.Proofs.Zone.Scalar
import SdnZones.Proofs.Zone.Schema
import SdnZones.Proofs.Zone.Subjects
import SdnZones.Proofs.Zone.Update
import SdnZones.Settings.Basic
import SdnZones.Settings.Files
import SdnZones.Settings.Layer
import SdnZones.Settings.Load
import SdnZones.Settings.Source
import SdnZones.Settings.Token
import SdnZones.Text.Blank
import SdnZones.Text.CommaList
import SdnZones.Text.FileName
import SdnZones.Text.GraphemeExtend
import SdnZones.Text.Numeral
import SdnZones.Text.Percent
import SdnZones.Text.Printable
import SdnZones.Text.Quoted
import SdnZones.Text.Split
import SdnZones.Text.Utf8
import SdnZones.Toml.Reader
import SdnZones.Toml.Text
import SdnZones.Toml.Value
import SdnZones.Toml.Word
import SdnZones.Toml.Writer
import SdnZones.Yaml.Folding
import SdnZones.Yaml.Node
import SdnZones.Yaml.Scalar
import SdnZones.Yaml.Spot
import SdnZones.Yaml.Token
import SdnZones.Yaml.Writer
import SdnZones.Zone.Attribute
import SdnZones.Zone.Basic
import SdnZones.Zone.Change
import SdnZones.Zone.Conversion
import SdnZones.Zone.Document
import SdnZones.Zone.DocumentFile
import SdnZones.Zone.Kind
import SdnZones.Zone.Lifecycle
import SdnZones.Zone.Record
import SdnZones.Zone.Rules
