import ResourceKernel.CommandLine.Answer
import ResourceKernel.CommandLine.Arguments
import ResourceKernel.CommandLine.Files
import ResourceKernel.CommandLine.Run
import ResourceKernel.Config.Basic
import ResourceKernel.Config.Reader
import ResourceKernel.Config.Schema
import ResourceKernel.Digest.Sha256
import ResourceKernel.Document
import ResourceKernel.Document.Content
import ResourceKernel.Endpoint.Basic
import ResourceKernel.Endpoint.Directory
import ResourceKernel.Error
import ResourceKernel.Fault
import ResourceKernel.Graph.Operations
import ResourceKernel.Handler.Catalog
import ResourceKernel.Handler.Options
import ResourceKernel.Json.Document
import ResourceKernel.Json.Reader
import ResourceKernel.Json.Value
import ResourceKernel.Kernel
import ResourceKernel.Library.Basic
import ResourceKernel.Library.Draft
import ResourceKernel.Library.Loader
import ResourceKernel.Main
import ResourceKernel.Name.Basic
import ResourceKernel.Name.Codec
import ResourceKernel.Name.Json
import ResourceKernel.Resource.Entity
import ResourceKernel.Resource.Identity
import ResourceKernel.Resource.Key
import ResourceKernel.Resource.Report
import ResourceKernel.Resource.Slug
import ResourceKernel.Service
import ResourceKernel.Store.Basic
import ResourceKernel.Store.Faulty
import ResourceKernel.Store.Memory
import ResourceKernel.Store.State
import ResourceKernel.Table
import ResourceKernel.Template.Basic
import ResourceKernel.Template.Kind
import ResourceKernel.Text.Base64
import ResourceKernel.Text.BigEndian
import ResourceKernel.Text.Blank
import ResourceKernel.Text.Composition
import ResourceKernel.Text.Composition.Table
import ResourceKernel.Text.Decimal
import ResourceKernel.Text.Hex
import ResourceKernel.Text.Numeral
import ResourceKernel.Text.Utf8
import ResourceKernel.Transaction.Basic
import ResourceKernel.Transaction.Change
import ResourceKernel.Uri.Basic
import ResourceKernel.Uri.Host
import ResourceKernel.Uri.Percent
import ResourceKernel.Uri.Reader
import ResourceKernel.Yaml.Document
import ResourceKernel.Yaml.Node.Basic
import ResourceKernel.Yaml.Node.Reader
import ResourceKernel.Yaml.Scalar.Block
import ResourceKernel.Yaml.Scalar.Flow
import ResourceKernel.Yaml.Scalar.Meaning
import ResourceKernel.Yaml.Spot
import ResourceKernel.Yaml.Token.Basic
import ResourceKernel.Yaml.Token.Lexer
import ResourceKernel.Proofs.Text.Blank
import ResourceKernel.Proofs.Name.Extent
import ResourceKernel.Proofs.Name.RoundTrip
import ResourceKernel.Proofs.Name.Canonical
import ResourceKernel.Proofs.Name.Spelling
import ResourceKernel.Proofs.Name.Delimited
import ResourceKernel.Proofs.Key
import ResourceKernel.Proofs.Handler.Catalog
import ResourceKernel.Proofs.Library.Identified
import ResourceKernel.Proofs.Library.Draft
import ResourceKernel.Proofs.Library.Reach
import ResourceKernel.Proofs.Library.Loader
import ResourceKernel.Proofs.Library.Closure
import ResourceKernel.Proofs.Library.Closed
import ResourceKernel.Proofs.Library.Rounds
import ResourceKernel.Proofs.Slug.Path
import ResourceKernel.Proofs.Graph.Members
import ResourceKernel.Proofs.Graph.Effect
import ResourceKernel.Proofs.Graph.Sound
import ResourceKernel.Proofs.Graph.Answer
import ResourceKernel.Proofs.Graph.Kinship
import ResourceKernel.Proofs.Graph.Refusal
import ResourceKernel.Proofs.Graph.Fits
import ResourceKernel.Proofs.Graph.Descent
import ResourceKernel.Proofs.Kernel.Move
import ResourceKernel.Proofs.Kernel.Run
import ResourceKernel.Proofs.Kernel.History
import ResourceKernel.Proofs.Kernel.Fits
import ResourceKernel.Proofs.Kernel.Serial
import ResourceKernel.Proofs.Kernel.Committed
import ResourceKernel.Proofs.Kernel.Program
import ResourceKernel.Proofs.Kernel.Descent
import ResourceKernel.Proofs.Text.Decomposition
import ResourceKernel.Proofs.Text.Normal
import ResourceKernel.Proofs.Slug.Linked
import ResourceKernel.Proofs.Slug.Handout
import ResourceKernel.Proofs.Slug.Merge
import ResourceKernel.Proofs.Slug.Version
import ResourceKernel.Proofs.Slug.Normal
import ResourceKernel.Proofs.Endpoint.Index
import ResourceKernel.Proofs.Kernel.Later
import ResourceKernel.Proofs.Endpoint.Lasting
import ResourceKernel.Proofs.Kernel.Reports
import ResourceKernel.Proofs.Kernel.Rooted
import ResourceKernel.Proofs.Kernel.Owned
import ResourceKernel.Proofs.Kernel.Roster
import ResourceKernel.Proofs.Transaction.Calls
import ResourceKernel.Proofs.Transaction.Contexts
import ResourceKernel.Proofs.Kernel.Attached
import ResourceKernel.Proofs.Kernel.Placed
import ResourceKernel.Proofs.Kernel.Attachable
import ResourceKernel.Proofs.Kernel.Enterable
import ResourceKernel.Proofs.Service.Once
import ResourceKernel.Proofs.Service.Handlers
import ResourceKernel.Proofs.Key.Remembered
import ResourceKernel.Proofs.Uri.Urn
import ResourceKernel.Proofs.Key.Healed
import ResourceKernel.Proofs.Config.Service
import ResourceKernel.Proofs.Json.RoundTrip
import ResourceKernel.Proofs.Document.Present
import ResourceKernel.Proofs.Json.Content
import ResourceKernel.Proofs.Config.RoundTrip
import ResourceKernel.Proofs.CommandLine.Answer
import ResourceKernel.Proofs.CommandLine.Listing
import ResourceKernel.Proofs.CommandLine.Validation
