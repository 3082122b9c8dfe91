import ClientGen.Text.Blank
import ClientGen.Text.Digit
import ClientGen.Text.LowerCase
import ClientGen.Text.Printable
import ClientGen.Table
import ClientGen.Value.Scalar
import ClientGen.Value.Basic
import ClientGen.Decimal.Shortest
import ClientGen.Decimal.Layout
import ClientGen.Decimal.Reader
import ClientGen.Fault
import ClientGen.ReadError
import ClientGen.Value.Display
import ClientGen.Json.Writer
import ClientGen.Json.Reader
import ClientGen.Yaml.Cursor
import ClientGen.Yaml.Token
import ClientGen.Yaml.Plain
import ClientGen.Yaml.Quoted
import ClientGen.Yaml.Block
import ClientGen.Yaml.Name
import ClientGen.Yaml.Lexer
import ClientGen.Yaml.Kind
import ClientGen.Yaml.Graph
import ClientGen.Value.Graph
import ClientGen.Yaml.Scalar
import ClientGen.Yaml.Reader
import ClientGen.Failure
import ClientGen.Decoding
import ClientGen.Value.Fields
import ClientGen.Document.Basic
import ClientGen.Document.Normal
import ClientGen.Api.Parameter
import ClientGen.Api.Schema
import ClientGen.Document.Reference
import ClientGen.Document.Pointer
import ClientGen.Document.Resolution
import ClientGen.Api.Operation
import ClientGen.Api.Client
import ClientGen.Api.Projection
import ClientGen.Text.Replace
import ClientGen.Text.Alphabetical
import ClientGen.Value.Elements
import ClientGen.TypeScript.Identifier
import ClientGen.TypeScript.FreshName
import ClientGen.TypeScript.Quoted
import ClientGen.TypeScript.Comment
import ClientGen.TypeScript.TypeExpr
import ClientGen.TypeScript.SchemaType
import ClientGen.TypeScript.Declaration
import ClientGen.TypeScript.RequestFunction
import ClientGen.Package.Models
import ClientGen.Package.Controller
import ClientGen.Package.Factory
import ClientGen.Package.Fixed
import ClientGen.Package.Basic
import ClientGen.Package.Name
import ClientGen.World.Path
import ClientGen.World.Files
import ClientGen.World.Basic
import ClientGen.Package.Writing
import ClientGen.Settings.Basic
import ClientGen.Settings.Merge
import ClientGen.Settings.Directories
import ClientGen.Settings.Layers
import ClientGen.Source.WebAddress
import ClientGen.Source.Basic
import ClientGen.Source.Client
import ClientGen.Console.Basic
import ClientGen.CommandLine.Options
import ClientGen.CommandLine.Command
import ClientGen.CommandLine.Inspect
import ClientGen.CommandLine.Generate
import ClientGen.CommandLine.Run
import ClientGen.Main
import ClientGen.Charset.Chinese
import ClientGen.Charset.Japanese
import ClientGen.Charset.Korean
import ClientGen.Charset.Page.Dos
import ClientGen.Charset.Page.Iso
import ClientGen.Charset.Page.Mac
import ClientGen.Charset.Page.Mainframe
import ClientGen.Charset.Page.Regional
import ClientGen.Charset.Page.Windows
import ClientGen.Charset.Designated
import ClientGen.Charset.Escaped
import ClientGen.Charset.Unicode
import ClientGen.Charset.Basic
import ClientGen.Charset.Label
import ClientGen.Proofs.Text.Cutting
import ClientGen.Proofs.Value.Display
import ClientGen.Proofs.Outcome
import ClientGen.Proofs.Grouping
import ClientGen.Proofs.Value.Parts
import ClientGen.Proofs.Resolution.Walk
import ClientGen.Proofs.Resolution.Settled
import ClientGen.Proofs.Resolution.Sections
import ClientGen.Proofs.Resolution.Idempotence
import ClientGen.Proofs.Resolution.SchemaReferences
import ClientGen.Proofs.Value.Unfolding
import ClientGen.Proofs.Resolution.Return
import ClientGen.Proofs.Resolution.WebWalk
import ClientGen.Proofs.Normalization.References
import ClientGen.Proofs.Resolution.Moved
import ClientGen.Proofs.Decoding
import ClientGen.Proofs.Resolution.Cycles
import ClientGen.Proofs.Normalization.Pointers
import ClientGen.Proofs.Normalization.Forms
import ClientGen.Proofs.Resolution.Faults
import ClientGen.Proofs.Boundary
import ClientGen.Proofs.TypeScript.Names
import ClientGen.Proofs.Package.Modules
import ClientGen.Proofs.Resolution.Handles
import ClientGen.Proofs.Package.Closed
import ClientGen.Proofs.TypeScript.Identifiers
import ClientGen.Proofs.TypeScript.Arguments
import ClientGen.Proofs.TypeScript.Comments
import ClientGen.Proofs.Package.Comments
import ClientGen.Proofs.World.Links
import ClientGen.Proofs.World.Files
import ClientGen.Proofs.Package.Writing
import ClientGen.Proofs.Package.Layout
import ClientGen.Proofs.Package.Scopes
import ClientGen.Proofs.TypeScript.Faults
import ClientGen.Proofs.Package.Faults
import ClientGen.Proofs.Resolution.Parameters
import ClientGen.Proofs.Package.Exports
import ClientGen.Proofs.Settings.Overlay
import ClientGen.Proofs.Settings.Files
import ClientGen.Proofs.Settings.Precedence
import ClientGen.Proofs.Settings.Faults
import ClientGen.Proofs.Settings.Directories
import ClientGen.Proofs.Json.RoundTrip
import ClientGen.Proofs.Settings.Agreement
import ClientGen.Proofs.CommandLine.Effects
import ClientGen.Proofs.CommandLine.Preview
import ClientGen.Proofs.Text.Replace
import ClientGen.Proofs.Value.Encoding
import ClientGen.Proofs.Handles
import ClientGen.Proofs.Package.Imports
import ClientGen.Proofs.TypeScript.Addresses
import ClientGen.Proofs.TypeScript.Grammar
import ClientGen.Proofs.TypeScript.Declarations
import ClientGen.Proofs.Package.Members
import ClientGen.Proofs.TypeScript.FreshNames
import ClientGen.Proofs.Package.Descriptions
import ClientGen.Proofs.Settings.Merging
import ClientGen.Proofs.Package.Name
