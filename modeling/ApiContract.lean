import ApiContract.Checked
import ApiContract.Command.Basic
import ApiContract.Command.Options
import ApiContract.Command.Run
import ApiContract.Document.Build
import ApiContract.Document.Info
import ApiContract.Document.Schema
import ApiContract.Document.Text
import ApiContract.Entries
import ApiContract.Failure
import ApiContract.Json.Reader
import ApiContract.Json.Writer
import ApiContract.Lint
import ApiContract.Log
import ApiContract.Main
import ApiContract.Number.Binary64
import ApiContract.Number.Reading
import ApiContract.Number.Shortest
import ApiContract.Proofs.Attempt
import ApiContract.Proofs.Checked
import ApiContract.Proofs.Command.Generate
import ApiContract.Proofs.Document.Assembly
import ApiContract.Proofs.Document.Carried
import ApiContract.Proofs.Document.Codes
import ApiContract.Proofs.Document.Compilation
import ApiContract.Proofs.Document.Contents
import ApiContract.Proofs.Document.Derivation
import ApiContract.Proofs.Document.Displayable
import ApiContract.Proofs.Document.Failure
import ApiContract.Proofs.Document.Keys
import ApiContract.Proofs.Document.Linked
import ApiContract.Proofs.Document.Listing
import ApiContract.Proofs.Document.Operation
import ApiContract.Proofs.Document.Position
import ApiContract.Proofs.Document.Reference
import ApiContract.Proofs.Document.Rendering
import ApiContract.Proofs.Document.Required
import ApiContract.Proofs.Document.Visible
import ApiContract.Proofs.Entries
import ApiContract.Proofs.Lint.Duplicate
import ApiContract.Proofs.Lint.Findings
import ApiContract.Proofs.Lint.Location
import ApiContract.Proofs.Lint.Places
import ApiContract.Proofs.Lint.Report
import ApiContract.Proofs.Lint.ResponseKeys
import ApiContract.Proofs.Lint.Search
import ApiContract.Proofs.Registry.Additions
import ApiContract.Proofs.Registry.Built
import ApiContract.Proofs.Registry.Declaration
import ApiContract.Proofs.Registry.Growth
import ApiContract.Proofs.Registry.Place
import ApiContract.Proofs.Registry.Stopped
import ApiContract.Proofs.Registry.Typed
import ApiContract.Proofs.Registry.Ways
import ApiContract.Proofs.Schema.Completed
import ApiContract.Proofs.Schema.Declared
import ApiContract.Proofs.Schema.NodeTree
import ApiContract.Proofs.Schema.Outline
import ApiContract.Proofs.Schema.Stored
import ApiContract.Proofs.Schema.Tree
import ApiContract.Proofs.Status
import ApiContract.Proofs.Storage.Derived
import ApiContract.Proofs.Storage.Extension
import ApiContract.Proofs.Storage.TypeNames
import ApiContract.Proofs.Text.CharClass
import ApiContract.Proofs.Validator.Agreement
import ApiContract.Proofs.Validator.Demanded
import ApiContract.Proofs.Validator.Endpoint
import ApiContract.Proofs.Validator.Enforcement
import ApiContract.Proofs.Validator.ErrorPaths
import ApiContract.Proofs.Validator.ErrorTree
import ApiContract.Proofs.Validator.Numbers
import ApiContract.Proofs.Validator.Relaxation
import ApiContract.Proofs.Validator.Report
import ApiContract.Proofs.Validator.Response
import ApiContract.Proofs.Validator.Rule
import ApiContract.Proofs.Validator.Stability
import ApiContract.Proofs.Validator.Taken
import ApiContract.Proofs.Validator.Violation
import ApiContract.Proofs.Value.HandedOut
import ApiContract.Proofs.Value.KeysShown
import ApiContract.Proofs.Value.Normalized
import ApiContract.Proofs.Value.Parts
import ApiContract.Proofs.Value.TextKeys
import ApiContract.Proofs.Workspace.Loading
import ApiContract.Proofs.Workspace.Target
import ApiContract.Registry.Basic
import ApiContract.Registry.Builder
import ApiContract.Registry.Call
import ApiContract.Registry.Edit
import ApiContract.Registry.Held
import ApiContract.Registry.Options
import ApiContract.Registry.Place
import ApiContract.Schema.Node
import ApiContract.Schema.Options
import ApiContract.Schema.Spec
import ApiContract.Schema.Type
import ApiContract.Status
import ApiContract.Storage.Column
import ApiContract.Storage.Derive
import ApiContract.Storage.SqlType
import ApiContract.Text.Blank
import ApiContract.Text.CaseTable
import ApiContract.Text.ClosestMatch
import ApiContract.Text.Digit
import ApiContract.Text.LetterCase
import ApiContract.Text.Printable
import ApiContract.Text.Quoted
import ApiContract.Text.Start
import ApiContract.Text.Units
import ApiContract.Validator.Basic
import ApiContract.Validator.Coercion
import ApiContract.Validator.ErrorTree
import ApiContract.Validator.Fields
import ApiContract.Value.Basic
import ApiContract.Value.Display
import ApiContract.Value.TextKeys
import ApiContract.Workspace.Basic
import ApiContract.Workspace.Path
import ApiContract.Workspace.Target
import ApiContract.Yaml.Resolution
import ApiContract.Yaml.Scalar
import ApiContract.Yaml.Writer
import ApiContract.Proofs.Registry.Verbs
