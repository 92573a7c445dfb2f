import ModuleSynthesis.Text.Blank
import ModuleSynthesis.Text.Delimited
import ModuleSynthesis.Text.Character
import ModuleSynthesis.Text.Quoted
import ModuleSynthesis.Decimal.Binary64
import ModuleSynthesis.Decimal.Shortest
import ModuleSynthesis.Name
import ModuleSynthesis.Glob.Token
import ModuleSynthesis.Glob.Meaning
import ModuleSynthesis.Glob.Acceptance
import ModuleSynthesis.Glob.Table
import ModuleSynthesis.Glob
import ModuleSynthesis.Template.Piece
import ModuleSynthesis.Template.Symbol
import ModuleSynthesis.Digest
import ModuleSynthesis.Source
import ModuleSynthesis.Provenance
import ModuleSynthesis.Failure
import ModuleSynthesis.Generator
import ModuleSynthesis.Loader.Rule
import ModuleSynthesis.Loader.Basic
import ModuleSynthesis.Loader.Builder
import ModuleSynthesis.World
import ModuleSynthesis.Dispatch
import ModuleSynthesis.Session
import ModuleSynthesis.Toml.Value
import ModuleSynthesis.Toml.Quotation
import ModuleSynthesis.Toml.Scalar
import ModuleSynthesis.Toml.Tree
import ModuleSynthesis.Toml.Document
import ModuleSynthesis.Manifest.Basic
import ModuleSynthesis.Manifest.Compile
import ModuleSynthesis.Manifest.Document
import ModuleSynthesis.Json
import ModuleSynthesis.Command.Arguments
import ModuleSynthesis.Command.Folder
import ModuleSynthesis.Log.Level
import ModuleSynthesis.Log.Record
import ModuleSynthesis.Log.Pattern
import ModuleSynthesis.Log.Directive
import ModuleSynthesis.Log.Filter
import ModuleSynthesis.Command.Report
import ModuleSynthesis.Command.Journal
import ModuleSynthesis.Command.GlobTest
import ModuleSynthesis.Command.Inspection
import ModuleSynthesis.Command.Resolution
import ModuleSynthesis.Command.Lineage
import ModuleSynthesis.Command.Run
import ModuleSynthesis.Main
import ModuleSynthesis.Proofs.Text.Delimited
import ModuleSynthesis.Proofs.Glob.Search
import ModuleSynthesis.Proofs.Glob.Acceptance
import ModuleSynthesis.Proofs.Glob.Fit
import ModuleSynthesis.Proofs.Glob.Spelling
import ModuleSynthesis.Proofs.Glob.Longest
import ModuleSynthesis.Proofs.Glob.Captures
import ModuleSynthesis.Proofs.Glob.Expression
import ModuleSynthesis.Proofs.Glob.Preference
import ModuleSynthesis.Proofs.Text.Blank
import ModuleSynthesis.Proofs.Name
import ModuleSynthesis.Proofs.Provenance
import ModuleSynthesis.Proofs.World
import ModuleSynthesis.Proofs.Dispatch
import ModuleSynthesis.Proofs.History
import ModuleSynthesis.Proofs.Manifest.Compiled
import ModuleSynthesis.Proofs.Manifest.Answer
import ModuleSynthesis.Proofs.Coherence
import ModuleSynthesis.Proofs.Loader
import ModuleSynthesis.Proofs.Check
import ModuleSynthesis.Proofs.Loader.Build
import ModuleSynthesis.Proofs.Manifest.AllowList
import ModuleSynthesis.Proofs.Sharing
import ModuleSynthesis.Proofs.Template.Lexeme
import ModuleSynthesis.Proofs.Template.Grammar
import ModuleSynthesis.Proofs.Template.Fault
import ModuleSynthesis.Proofs.Template.NormalForm
import ModuleSynthesis.Proofs.Name.Spelling
import ModuleSynthesis.Proofs.Manifest.Declared
import ModuleSynthesis.Proofs.Manifest.Failure
import ModuleSynthesis.Proofs.Manifest.Filling
import ModuleSynthesis.Proofs.Name.Path
import ModuleSynthesis.Proofs.Loaded
import ModuleSynthesis.Proofs.Provenance.Log
import ModuleSynthesis.Proofs.Manifest.Fault
import ModuleSynthesis.Proofs.Trace
import ModuleSynthesis.Proofs.Visit
import ModuleSynthesis.Proofs.Text.Order
import ModuleSynthesis.Proofs.Provenance.Listing
import ModuleSynthesis.Proofs.Manifest.Account
import ModuleSynthesis.Proofs.Json
import ModuleSynthesis.Proofs.Json.Reading
import ModuleSynthesis.Proofs.Command.Agreement
import ModuleSynthesis.Proofs.Command.Modes
import ModuleSynthesis.Proofs.Manifest.Decision
import ModuleSynthesis.Proofs.Manifest.Trimming
import ModuleSynthesis.Proofs.Manifest.Policy
import ModuleSynthesis.Proofs.Glob.Grammar
import ModuleSynthesis.Proofs.Glob.Repetition
import ModuleSynthesis.Proofs.Glob.Widening
import ModuleSynthesis.Proofs.Source
