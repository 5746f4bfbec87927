import ScriptScope.Cli.Args
import ScriptScope.Cli.Help
import ScriptScope.Cli.Layout
import ScriptScope.Cli.Markup
import ScriptScope.Cli.Run
import ScriptScope.Cli.Table
import ScriptScope.Completion.Rank
import ScriptScope.Completion.Service
import ScriptScope.Config.DotEnv
import ScriptScope.Config.Issue
import ScriptScope.Config.Launch
import ScriptScope.Config.Provider
import ScriptScope.Config.Settings
import ScriptScope.Context
import ScriptScope.Data.FirstBy
import ScriptScope.Data.Json
import ScriptScope.Disk.Disk
import ScriptScope.Disk.Path
import ScriptScope.Error
import ScriptScope.Host.Catalog
import ScriptScope.Host.Member
import ScriptScope.Host.Types
import ScriptScope.Inference.Build
import ScriptScope.Inference.Infer
import ScriptScope.Inference.Lineage
import ScriptScope.Inference.Listing
import ScriptScope.Inference.Members
import ScriptScope.Inference.Unify
import ScriptScope.Inference.Walk
import ScriptScope.Main
import ScriptScope.Module.Index
import ScriptScope.Module.Names
import ScriptScope.Scope.Descriptor
import ScriptScope.Scope.Lookup
import ScriptScope.Scope.Render
import ScriptScope.Scope.Store
import ScriptScope.Scope.Tree
import ScriptScope.Syntax.Expr
import ScriptScope.Syntax.Grammar.Expression
import ScriptScope.Syntax.Grammar.Reader
import ScriptScope.Syntax.Grammar.Statement
import ScriptScope.Syntax.Kind
import ScriptScope.Syntax.Node
import ScriptScope.Syntax.Pattern
import ScriptScope.Syntax.Script
import ScriptScope.Syntax.Stmt
import ScriptScope.Syntax.Token.Number
import ScriptScope.Syntax.Token.Quote
import ScriptScope.Syntax.Token.Scan
import ScriptScope.Text.Blank
import ScriptScope.Text.Case
import ScriptScope.Text.CellWidth
import ScriptScope.Text.Identifier
import ScriptScope.Text.Integer
import ScriptScope.Text.Parts
import ScriptScope.Text.Printable
import ScriptScope.Text.Quoted
import ScriptScope.Text.Ranges
import ScriptScope.Text.Utf8
import ScriptScope.Proofs.StoreLaws
import ScriptScope.Proofs.Listings
import ScriptScope.Proofs.Superclasses
import ScriptScope.Proofs.Sound
import ScriptScope.Proofs.BoundNames
import ScriptScope.Proofs.Writes
import ScriptScope.Proofs.Readable
import ScriptScope.Proofs.Endings
import ScriptScope.Proofs.Unification
import ScriptScope.Proofs.Unfolding
import ScriptScope.Proofs.Visits
import ScriptScope.Proofs.Entering
import ScriptScope.Proofs.Outline
import ScriptScope.Proofs.Capture
import ScriptScope.Proofs.Growth
import ScriptScope.Proofs.Queries
import ScriptScope.Proofs.Attributes
import ScriptScope.Proofs.Methods
import ScriptScope.Proofs.ModuleMemory
import ScriptScope.Proofs.NameCompletion
import ScriptScope.Proofs.Lookups
import ScriptScope.Proofs.NamedClasses
import ScriptScope.Proofs.Inferred
import ScriptScope.Proofs.Upholds
import ScriptScope.Proofs.WellFormed
import ScriptScope.Proofs.Probe
import ScriptScope.Proofs.ProbedWalk
import ScriptScope.Proofs.LastBody
import ScriptScope.Proofs.CaptureOfName
import ScriptScope.Proofs.ClassAttributes
import ScriptScope.Proofs.AttributeSearch
import ScriptScope.Proofs.EndedBodies
import ScriptScope.Proofs.UnreadNames
import ScriptScope.Proofs.Destructuring
import ScriptScope.Proofs.FittingVariables
import ScriptScope.Proofs.QualifiedNames
import ScriptScope.Proofs.Reflection
import ScriptScope.Proofs.ModuleNames
import ScriptScope.Proofs.DiskLaws
import ScriptScope.Proofs.ModuleFreshness
import ScriptScope.Proofs.Ranking
import ScriptScope.Proofs.LiteralArithmetic
import ScriptScope.Proofs.LatestBinding
import ScriptScope.Proofs.MemberOrigins
import ScriptScope.Proofs.CaptureMarker
import ScriptScope.Proofs.FirstError
