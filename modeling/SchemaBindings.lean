import SchemaBindings.Api.Basic
import SchemaBindings.Api.Collect
import SchemaBindings.Artifact.Client
import SchemaBindings.Artifact.Columns
import SchemaBindings.Artifact.Endpoints
import SchemaBindings.Artifact.Tables
import SchemaBindings.CommandLine.Arguments
import SchemaBindings.CommandLine.Session
import SchemaBindings.Config.Basic
import SchemaBindings.Config.Error
import SchemaBindings.Config.Load
import SchemaBindings.Config.Validate
import SchemaBindings.Emit.Context
import SchemaBindings.Emit.Diagnostic
import SchemaBindings.Emit.Phase
import SchemaBindings.Emit.Phased
import SchemaBindings.Imports.Assignment
import SchemaBindings.Imports.Basic
import SchemaBindings.Imports.Ledger
import SchemaBindings.Items.File
import SchemaBindings.Items.Item
import SchemaBindings.Items.Use
import SchemaBindings.Json.Decode
import SchemaBindings.Json.Outline
import SchemaBindings.Json.Print
import SchemaBindings.Json.Reading
import SchemaBindings.Json.Scan
import SchemaBindings.Json.Value
import SchemaBindings.Layout.Builder
import SchemaBindings.Main
import SchemaBindings.Number.Binary64
import SchemaBindings.Number.Shortest
import SchemaBindings.Project.FileAccess
import SchemaBindings.Project.FileTree
import SchemaBindings.Project.Path
import SchemaBindings.Project.Report
import SchemaBindings.Project.Run
import SchemaBindings.Resolve.Decode
import SchemaBindings.Resolve.Decoded
import SchemaBindings.Resolve.Error
import SchemaBindings.Resolve.Expand
import SchemaBindings.Resolve.Mark
import SchemaBindings.Resolve.Table
import SchemaBindings.Sample.Protoapp
import SchemaBindings.Schema.Basic
import SchemaBindings.Schema.Decl
import SchemaBindings.Schema.Document
import SchemaBindings.Schema.Name
import SchemaBindings.Schema.Reader
import SchemaBindings.Schema.TypeExpr
import SchemaBindings.Schema.Writer
import SchemaBindings.Script.File
import SchemaBindings.Script.Import
import SchemaBindings.Script.Member
import SchemaBindings.Shape
import SchemaBindings.Source.Position
import SchemaBindings.Target.Mapper
import SchemaBindings.Target.Naming
import SchemaBindings.Text.Alphanumeric
import SchemaBindings.Text.Blank
import SchemaBindings.Text.CaseMap
import SchemaBindings.Text.CodePoint
import SchemaBindings.Text.Cursor
import SchemaBindings.Text.LetterCase
import SchemaBindings.Text.Order
import SchemaBindings.Text.Quoted
import SchemaBindings.Text.Search
import SchemaBindings.Text.Words
import SchemaBindings.Toml.Build
import SchemaBindings.Toml.Node
import SchemaBindings.Toml.Quote
import SchemaBindings.Toml.Reading
import SchemaBindings.Toml.Scalar
import SchemaBindings.Toml.Scan
import SchemaBindings.Proofs.Decoding.HeadStep
import SchemaBindings.Proofs.Decoding.Depth
import SchemaBindings.Proofs.Decoding.HeadExpansion
import SchemaBindings.Proofs.Decoding.Kinding
import SchemaBindings.Proofs.Imports.Ledger
import SchemaBindings.Proofs.Imports.Registration
import SchemaBindings.Proofs.Imports.Settling
import SchemaBindings.Proofs.Imports.Rendering
import SchemaBindings.Proofs.Imports.Coverage
import SchemaBindings.Proofs.Resolve.SchemaFaults
import SchemaBindings.Proofs.Artifact.TableTypes
import SchemaBindings.Proofs.Artifact.RequestTypes
import SchemaBindings.Proofs.Artifact.RegisterFirst
import SchemaBindings.Proofs.Imports.FreeName
import SchemaBindings.Proofs.Imports.NamedInTurn
import SchemaBindings.Proofs.Imports.Stages
import SchemaBindings.Proofs.Imports.Stability
import SchemaBindings.Proofs.Artifact.RecognizedEntries
import SchemaBindings.Proofs.Decoding.Locality
import SchemaBindings.Proofs.Decoding.Derivation
import SchemaBindings.Proofs.Decoding.Canonical
import SchemaBindings.Proofs.Resolve.Nullability
import SchemaBindings.Proofs.Decoding.NewtypePolicy
import SchemaBindings.Proofs.Schema.ModuleOrder
import SchemaBindings.Proofs.Json.Yielding
import SchemaBindings.Proofs.Schema.DeclKeys
import SchemaBindings.Proofs.Schema.Listing
import SchemaBindings.Proofs.Config.Loading
import SchemaBindings.Proofs.Config.SchemaFiles
import SchemaBindings.Proofs.Project.LoadOrder
import SchemaBindings.Proofs.Emit.Phases
import SchemaBindings.Proofs.Project.Walking
import SchemaBindings.Proofs.Project.Keeping
import SchemaBindings.Proofs.Project.Saving
import SchemaBindings.Proofs.Project.Modes
import SchemaBindings.Proofs.Artifact.ApiText
import SchemaBindings.Proofs.Artifact.ClientEndpoints
import SchemaBindings.Proofs.Artifact.ClientSecurity
import SchemaBindings.Proofs.Artifact.TableColumns
import SchemaBindings.Proofs.Decoding.References
import SchemaBindings.Proofs.Artifact.ImportBlocks
import SchemaBindings.Proofs.Artifact.DeclaredReferences
import SchemaBindings.Proofs.Artifact.BoundNames
import SchemaBindings.Proofs.Json.Holding
import SchemaBindings.Proofs.Json.Scalars
import SchemaBindings.Proofs.Json.Spelling
import SchemaBindings.Proofs.Schema.RoundTrip
import SchemaBindings.Proofs.Text.Brackets
import SchemaBindings.Proofs.Decoding.Idempotence
import SchemaBindings.Proofs.Decoding.ExpansionLimit
import SchemaBindings.Proofs.Imports.DecodedNames
import SchemaBindings.Proofs.Target.Legible
import SchemaBindings.Proofs.Target.Languages
import SchemaBindings.Proofs.Imports.Unambiguous
import SchemaBindings.Proofs.Layout.Lines
import SchemaBindings.Proofs.Layout.Sections
import SchemaBindings.Proofs.Layout.Comments
import SchemaBindings.Proofs.Text.LowerCase
import SchemaBindings.Proofs.Text.Words
import SchemaBindings.Proofs.Text.Casing
import SchemaBindings.Proofs.Artifact.AccessorNames
import SchemaBindings.Proofs.Artifact.ClientMembers
import SchemaBindings.Proofs.Decoding.Substitution
import SchemaBindings.Proofs.Artifact.DocComments
import SchemaBindings.Proofs.Text.Searching
import SchemaBindings.Proofs.Config.FaultPlaces
import SchemaBindings.Proofs.Source.Positions
import SchemaBindings.Proofs.Json.Extent
import SchemaBindings.Proofs.Json.Placing
import SchemaBindings.Proofs.Schema.DocumentFaults
