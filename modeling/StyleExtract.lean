import StyleExtract.Api
import StyleExtract.Bundle.Basic
import StyleExtract.Bundle.VirtualImport
import StyleExtract.ClassName
import StyleExtract.Classification
import StyleExtract.Construct
import StyleExtract.Decimal.Layout
import StyleExtract.Decimal.Shortest
import StyleExtract.Digest.Base36
import StyleExtract.Digest.Xxh3
import StyleExtract.Emission
import StyleExtract.Extraction
import StyleExtract.Generated.Code
import StyleExtract.Generated.Generator
import StyleExtract.Generated.Plan
import StyleExtract.Name
import StyleExtract.Notice
import StyleExtract.Options.Basic
import StyleExtract.Options.Json
import StyleExtract.Options.Reading
import StyleExtract.OrderedMap
import StyleExtract.Prologue
import StyleExtract.Proofs.Extraction
import StyleExtract.Proofs.Placement
import StyleExtract.Proofs.Prologue
import StyleExtract.Proofs.Registry.Id
import StyleExtract.Proofs.Registry.Refinement
import StyleExtract.Proofs.Registry.Update
import StyleExtract.Proofs.Resolver.Agreement
import StyleExtract.Proofs.Resolver.Program
import StyleExtract.Proofs.Resolver.Run
import StyleExtract.Proofs.Script.Evaluation
import StyleExtract.Proofs.Script.Value
import StyleExtract.Proofs.SourceMap.Exactness
import StyleExtract.Proofs.SourceMap.Segments
import StyleExtract.Proofs.Splice
import StyleExtract.Proofs.Text.Cut
import StyleExtract.Proofs.Text.Offsets
import StyleExtract.Proofs.Transform.Exits
import StyleExtract.Proofs.Transform.Styles
import StyleExtract.Proofs.VariantClasses
import StyleExtract.Registry.Basic
import StyleExtract.Registry.Id
import StyleExtract.Registry.Report
import StyleExtract.Script.Dialect
import StyleExtract.Script.Grammar.Arrows
import StyleExtract.Script.Grammar.Bindings
import StyleExtract.Script.Grammar.Classes
import StyleExtract.Script.Grammar.Expressions
import StyleExtract.Script.Grammar.Functions
import StyleExtract.Script.Grammar.Literals
import StyleExtract.Script.Grammar.Markup
import StyleExtract.Script.Grammar.Modules
import StyleExtract.Script.Grammar.Reader
import StyleExtract.Script.Grammar.Rules
import StyleExtract.Script.Grammar.Statements
import StyleExtract.Script.Grammar.Types
import StyleExtract.Script.Parse
import StyleExtract.Script.Scan.Gap
import StyleExtract.Script.Scan.Literal
import StyleExtract.Script.Scan.Number
import StyleExtract.Script.Scan.Token
import StyleExtract.Script.Tree
import StyleExtract.Session
import StyleExtract.SourceMap.Basic
import StyleExtract.SourceMap.Position
import StyleExtract.Splice
import StyleExtract.StyleInjector
import StyleExtract.StyleRule
import StyleExtract.Text.Base64
import StyleExtract.Text.Blank
import StyleExtract.Text.Cut
import StyleExtract.Text.Identifier
import StyleExtract.Text.Measure
import StyleExtract.Text.Quoted
import StyleExtract.Text.Visible
import StyleExtract.Transform
import StyleExtract.Variant
import StyleExtract.Proofs.Registry.ReadBack
import StyleExtract.Proofs.Registry.Schedules
import StyleExtract.Proofs.Generated.Words
import StyleExtract.Proofs.Transform.Order
import StyleExtract.Proofs.Transform.Threshold
import StyleExtract.Proofs.Generated.Hygiene
import StyleExtract.Proofs.Compounds
import StyleExtract.Proofs.Bundle.Recognition
import StyleExtract.Proofs.Bundle.ImportLine
import StyleExtract.Proofs.Bundle.Residue
import StyleExtract.Proofs.Script.Component
import StyleExtract.Proofs.Generated.Cascade
import StyleExtract.Proofs.ClassName
import StyleExtract.Proofs.Selectors
import StyleExtract.Proofs.Imports
import StyleExtract.Proofs.ContentKey
import StyleExtract.Proofs.Script.Literal
import StyleExtract.Proofs.Script.Sources
import StyleExtract.Proofs.Transform.Mention
import StyleExtract.Proofs.Independence
import StyleExtract.Proofs.Transform.SameFile
import StyleExtract.Proofs.VariantDefinition
import StyleExtract.Proofs.Script.Quoting
import StyleExtract.Proofs.Script.Tokens
import StyleExtract.Proofs.Script.StatementsReadBack
import StyleExtract.Proofs.Generated.ReadBack
import StyleExtract.Proofs.Generated.Parameters
import StyleExtract.Proofs.Generated.Runs
import StyleExtract.Proofs.Generated.HelperImports
import StyleExtract.Proofs.Script.Binders
import StyleExtract.Proofs.Registry.Aggregate
import StyleExtract.Proofs.Bundle.Assets
import StyleExtract.Proofs.Bundle.Finish
import StyleExtract.Proofs.Digest
import StyleExtract.Proofs.Registry.FixedId
import StyleExtract.Proofs.SourceMap.Writer
