import PostRules.Text.Distance
import PostRules.Rule.Operator
import PostRules.Rule.Kind
import PostRules.Files.Path
import PostRules.Yaml.Mark
import PostRules.Yaml.Token
import PostRules.Yaml.Token.Scalar
import PostRules.Yaml.Token.Scan
import PostRules.Yaml.Event
import PostRules.Yaml.Event.Parse
import PostRules.Decimal.Shortest
import PostRules.Decimal.Text
import PostRules.Decimal.Read
import PostRules.Unicode.Ranges
import PostRules.Unicode.WhiteSpace
import PostRules.Unicode.GraphemeExtend
import PostRules.Unicode.Unprintable
import PostRules.Text.Quote
import PostRules.Text.Trim
import PostRules.Yaml.Value
import PostRules.Yaml.Document
import PostRules.Yaml.Scalar
import PostRules.Yaml.Decode
import PostRules.Files.Failure
import PostRules.Rule.Error
import PostRules.Rule.Spec
import PostRules.Time.Instant
import PostRules.Time.Read
import PostRules.Post.Basic
import PostRules.Json.Read
import PostRules.Post.Read
import PostRules.Regex.Basic
import PostRules.Decimal.Integer
import PostRules.Yaml.Debug
import PostRules.Text.Search
import PostRules.Rule.Leaf
import PostRules.Rule.Predicate
import PostRules.Rule.Compile
import PostRules.Config.Basic
import PostRules.Config.Read
import PostRules.Files.Tree
import PostRules.Rule.Resolve
import PostRules.Config.Load
import PostRules.Regex.Tables.Basic
import PostRules.Regex.Tables.Category
import PostRules.Regex.Tables.Script
import PostRules.Regex.Tables.ScriptExtension
import PostRules.Regex.Tables.Binary
import PostRules.Regex.Tables.Fold
import PostRules.Regex.CharSet
import PostRules.Regex.Ast
import PostRules.Regex.Property
import PostRules.Regex.Parse
import PostRules.Regex.Hir
import PostRules.Regex.Translate
import PostRules.Regex.Report
import PostRules.Regex.Program
import PostRules.Regex.Size
import PostRules.Proofs.Meaning
import PostRules.Proofs.Resolution
import PostRules.Proofs.Inlining
import PostRules.Proofs.Guard
import PostRules.Proofs.Termination
import PostRules.Proofs.Outcomes
import PostRules.Proofs.Modes
import PostRules.Proofs.Cache
import PostRules.Proofs.Shape
import PostRules.Proofs.InstantText
import PostRules.Proofs.InstantRead
import PostRules.Proofs.Canonical
import PostRules.Proofs.FirstFault
import PostRules.Proofs.CompoundText
import PostRules.Proofs.Compound
import PostRules.Proofs.InstantReadBack
import PostRules.Proofs.CompoundReadBack
import PostRules.Proofs.EditDistance
import PostRules.Proofs.Suggestion
import PostRules.Proofs.LexicalPath
import PostRules.Proofs.CallTrace
import PostRules.Proofs.GroupFold
import PostRules.Proofs.ResolveState
