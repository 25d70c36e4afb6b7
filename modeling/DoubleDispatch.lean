import DoubleDispatch.Text.Identifier
import DoubleDispatch.Text.Blank
import DoubleDispatch.Catalog.Operations
import DoubleDispatch.Catalog.Terminals
import DoubleDispatch.Decimal.Shortest
import DoubleDispatch.Json.Writer
import DoubleDispatch.Json.Reader
import DoubleDispatch.Schema.Listing
import DoubleDispatch.Schema.Settings
import DoubleDispatch.Template.Fragment
import DoubleDispatch.Emit.Generator
import DoubleDispatch.Catalog.Reference
import DoubleDispatch.Toml.Reader
import DoubleDispatch.Storage.World
import DoubleDispatch.Storage.Replace
import DoubleDispatch.Input.File
import DoubleDispatch.Run.Execute
import DoubleDispatch.CommandLine.Reader
import DoubleDispatch.Main
import DoubleDispatch.Proofs.Outcome
import DoubleDispatch.Proofs.Catalog.Operations
import DoubleDispatch.Proofs.Catalog.History
import DoubleDispatch.Proofs.Catalog.Terminal
import DoubleDispatch.Proofs.Text.Lines
import DoubleDispatch.Proofs.Text.Blocks
import DoubleDispatch.Proofs.Text.Scan
import DoubleDispatch.Proofs.Text.Classes
import DoubleDispatch.Proofs.Text.Signatures
import DoubleDispatch.Proofs.Json.Scalars
import DoubleDispatch.Proofs.Json.RoundTrip
import DoubleDispatch.Proofs.Template.Filling
import DoubleDispatch.Proofs.Template.Lines
import DoubleDispatch.Proofs.Template.Page
import DoubleDispatch.Proofs.Template.Outline
import DoubleDispatch.Proofs.Emit.Written
import DoubleDispatch.Proofs.Emit.Runners
import DoubleDispatch.Proofs.Emit.Dispatch
import DoubleDispatch.Proofs.Emit.Holders
import DoubleDispatch.Proofs.Emit.Enumeration
import DoubleDispatch.Proofs.Emit.Generator
import DoubleDispatch.Proofs.Emit.Ordinals
import DoubleDispatch.Proofs.Emit.EnumerationTexts
import DoubleDispatch.Proofs.Emit.Manifest
import DoubleDispatch.Proofs.Emit.ReadBack
import DoubleDispatch.Proofs.Emit.RunnerTexts
import DoubleDispatch.Proofs.Emit.DispatchTexts
import DoubleDispatch.Proofs.Emit.DefaultTexts
import DoubleDispatch.Proofs.Emit.Entries
import DoubleDispatch.Proofs.Emit.Overriding
import DoubleDispatch.Proofs.Catalog.Clashes
import DoubleDispatch.Proofs.Emit.Scope
import DoubleDispatch.Proofs.Text.Statements
import DoubleDispatch.Proofs.Text.Execution
import DoubleDispatch.Proofs.Emit.SwitchTexts
import DoubleDispatch.Proofs.Text.Calls
import DoubleDispatch.Proofs.Emit.EntryLists
import DoubleDispatch.Proofs.Emit.Routing
import DoubleDispatch.Proofs.Emit.ConstructionTexts
import DoubleDispatch.Proofs.Emit.HolderTexts
import DoubleDispatch.Proofs.Emit.Ownership
import DoubleDispatch.Proofs.Emit.OperandCounts
import DoubleDispatch.Proofs.Emit.Numbering
import DoubleDispatch.Proofs.Emit.RunnerFiles
import DoubleDispatch.Proofs.Emit.Growth
import DoubleDispatch.Proofs.Template.Substitution
import DoubleDispatch.Proofs.Storage.Runs
import DoubleDispatch.Proofs.Storage.Pathnames
import DoubleDispatch.Proofs.Storage.Places
import DoubleDispatch.Proofs.Storage.Changes
import DoubleDispatch.Proofs.Storage.Effects
import DoubleDispatch.Proofs.Storage.Replace
import DoubleDispatch.Proofs.Run.Execute
import DoubleDispatch.Proofs.Catalog.Rows
import DoubleDispatch.Proofs.Emit.Skeletons
import DoubleDispatch.Proofs.Emit.PayloadTokens
import DoubleDispatch.Proofs.Storage.Ancestors
import DoubleDispatch.Proofs.Storage.Views
import DoubleDispatch.Proofs.Input.Settings
import DoubleDispatch.Proofs.Run.Inputs
import DoubleDispatch.Proofs.Emit.Supply
import DoubleDispatch.Proofs.Catalog.Listing
import DoubleDispatch.Proofs.Text.Members
import DoubleDispatch.Proofs.Emit.ConversionTexts
import DoubleDispatch.Proofs.Emit.HolderFunctions
import DoubleDispatch.Proofs.Emit.Conversions
import DoubleDispatch.Proofs.Emit.Hiding
import DoubleDispatch.Proofs.Emit.Lookups
import DoubleDispatch.Proofs.Document
import DoubleDispatch.Proofs.Schema.Decode
import DoubleDispatch.Proofs.Schema.Listing
