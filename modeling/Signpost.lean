import Signpost.Affordance
import Signpost.Argument.Basic
import Signpost.Argument.Formatters
import Signpost.Argument.Kind
import Signpost.Binding.Call
import Signpost.Binding.Path
import Signpost.Binding.Query
import Signpost.Catalog
import Signpost.Character.AlphanumericTable
import Signpost.Character.Case
import Signpost.Character.CaseTable
import Signpost.Character.Class
import Signpost.Character.PrintableTable
import Signpost.Character.RangeTable
import Signpost.Config.Basic
import Signpost.Config.Document
import Signpost.Config.EnvFile
import Signpost.Config.Environment
import Signpost.Config.Error
import Signpost.Config.Linking
import Signpost.Config.Settings
import Signpost.Config.Store
import Signpost.Error
import Signpost.Handler.Basic
import Signpost.Http.MediaType
import Signpost.Http.Verb
import Signpost.Json.Number
import Signpost.Json.Reader
import Signpost.Json.Value
import Signpost.Link.Basic
import Signpost.Link.Draft
import Signpost.Link.Published
import Signpost.Link.Relation
import Signpost.Linker
import Signpost.Log.Filter
import Signpost.Log.Options
import Signpost.Mapping.Basic
import Signpost.Mapping.Fragments
import Signpost.Mapping.Placeholder
import Signpost.Mapping.Source
import Signpost.Memo
import Signpost.Number.Binary
import Signpost.Number.Layout
import Signpost.Number.Shortest
import Signpost.Percent
import Signpost.Recording
import Signpost.Table
import Signpost.Template.Basic
import Signpost.Template.Variable
import Signpost.Text.Basic
import Signpost.Text.Braces
import Signpost.Text.Case
import Signpost.Text.Quoted
import Signpost.Toml.Reader
import Signpost.Toml.Scalar
import Signpost.Toml.Text
import Signpost.Toml.Tree
import Signpost.Uri.Base
import Signpost.Uri.Basic
import Signpost.Proofs.Binding.Call
import Signpost.Proofs.Binding.Deferral
import Signpost.Proofs.Binding.Path
import Signpost.Proofs.Binding.Precedence
import Signpost.Proofs.Binding.Query
import Signpost.Proofs.Binding.Slots
import Signpost.Proofs.Binding.Template
import Signpost.Proofs.Config.Environment
import Signpost.Proofs.Config.Freezing
import Signpost.Proofs.Link.Continuation
import Signpost.Proofs.Link.Draft
import Signpost.Proofs.Link.Printed
import Signpost.Proofs.Link.Variables
import Signpost.Proofs.Linker.Authority
import Signpost.Proofs.Linker.Deferral
import Signpost.Proofs.Linker.Fragment
import Signpost.Proofs.Linker.Mappings
import Signpost.Proofs.Linker.Offers
import Signpost.Proofs.Linker.Phases
import Signpost.Proofs.Linker.Placeholder
import Signpost.Proofs.Linker.Precedence
import Signpost.Proofs.Linker.Query
import Signpost.Proofs.Linker.Residue
import Signpost.Proofs.Linker.Run
import Signpost.Proofs.Mapping.Chunks
import Signpost.Proofs.Mapping.Clean
import Signpost.Proofs.Mapping.Constraint
import Signpost.Proofs.Mapping.Expansion
import Signpost.Proofs.Mapping.Flat
import Signpost.Proofs.Mapping.Fragments
import Signpost.Proofs.Mapping.NormalForm
import Signpost.Proofs.Mapping.Placeholder
import Signpost.Proofs.Mapping.Plain
import Signpost.Proofs.Mapping.Rereading
import Signpost.Proofs.Mapping.Seams
import Signpost.Proofs.Mapping.Storing
import Signpost.Proofs.Mapping.StoringInTurn
import Signpost.Proofs.Mapping.Stripping
import Signpost.Proofs.Mapping.Tokens
import Signpost.Proofs.Mapping.Unresolved
import Signpost.Proofs.Outcome
import Signpost.Proofs.Percent
import Signpost.Proofs.Recording
import Signpost.Proofs.Recording.Sharing
import Signpost.Proofs.Table
import Signpost.Proofs.Template.Expansion
import Signpost.Proofs.Template.Expression
import Signpost.Proofs.Template.Fragment
import Signpost.Proofs.Template.Grammar
import Signpost.Proofs.Template.Language
import Signpost.Proofs.Template.Marks
import Signpost.Proofs.Template.Missing
import Signpost.Proofs.Template.Rendering
import Signpost.Proofs.Text.Replacing
import Signpost.Proofs.Uri.Authority
import Signpost.Proofs.Uri.Base
import Signpost.Proofs.Mapping.Replacement
import Signpost.Proofs.Mapping.Composition
import Signpost.Proofs.Link.Segments
import Signpost.Proofs.Link.Cutting
import Signpost.Proofs.Link.Agreement
import Signpost.Proofs.Linker.Advertised
import Signpost.Proofs.Catalog
import Signpost.Proofs.Mapping.StoringTokens
import Signpost.Proofs.Mapping.Tracing
import Signpost.Proofs.Linker.PathArguments
import Signpost.Proofs.Config.Store
import Signpost.Proofs.Config.Settings
import Signpost.Proofs.Config.Loading
import Signpost.Proofs.Http.MediaType
import Signpost.Proofs.Argument
import Signpost.Proofs.Recording.Reuse
import Signpost.Proofs.Inheritance
