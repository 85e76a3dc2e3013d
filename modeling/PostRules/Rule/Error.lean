import PostRules.Files.Failure
import PostRules.Yaml.Decode

/-!
# Why a rule does not compile

Each cause of failure is a constructor; `CompileError.message` holds every wording.
-/

namespace PostRules

open Yaml

/-- Why a rule, or a rule source it names, could not be compiled. -/
inductive CompileError where
  /-- A compound leaf value names no comparison. -/
  | unsupportedOperator (kind operator : String)
  /-- A leaf value has the wrong shape. -/
  | malformedLeafValue (kind value reason : String)
  /-- A leaf value's literal does not read as its type. -/
  | invalidLiteral (kind literal reason : String)
  /-- A pattern is not a valid regular expression. -/
  | invalidRegex (pattern reason : String)
  /-- A leaf names no known kind. -/
  | unknownLeafType (kind : String) (suggestion : Option String)
  /-- A group's `and` or `or` is not a list. -/
  | malformedGroup (key : String)
  /-- References are nested deeper than allowed. -/
  | recursionLimitExceeded (source : String) (maxDepth : Nat)
  /-- A source refers back to itself; the chain of names leads there. -/
  | circularReference (chain : List String)
  /-- A source holds neither `Rule` nor `Rules`. -/
  | missingRule (source : String)
  /-- A source could not be read. -/
  | io (source : String) (failure : Files.ReadFailure)
  /-- A source is not a valid document. -/
  | parse (source : String) (error : DecodeError)
  deriving Inhabited

namespace CompileError

/-- The text of an error. -/
def message : CompileError → String
  | .unsupportedOperator kind op =>
    "unsupported operator '" ++ op ++ "' in '" ++ kind ++
      "' leaf (expected one of eq, ge, gt, le, lt, ne, =, >=, >, <=, <, !=)"
  | .malformedLeafValue kind value reason =>
    "malformed value " ++ Text.quote value ++ " for '" ++ kind ++ "' leaf: " ++ reason
  | .invalidLiteral kind literal reason =>
    "invalid literal '" ++ literal ++ "' for '" ++ kind ++ "' leaf: " ++ reason
  | .invalidRegex pattern reason => "invalid regex pattern '" ++ pattern ++ "': " ++ reason
  | .unknownLeafType kind suggestion =>
    "unknown leaf type '" ++ kind ++ "'" ++ match suggestion with
      | some s => " (did you mean '" ++ s ++ "'?)"
      | none => ""
  | .malformedGroup key => "'" ++ key ++ "' must be a list of rules"
  | .recursionLimitExceeded source depth =>
    "rule reference '" ++ source ++ "' exceeds maximum nesting depth (" ++ toString depth ++ ")"
  | .circularReference chain => "circular rule reference: " ++ " -> ".intercalate chain
  | .missingRule source => "rule source '" ++ source ++ "' has neither 'Rule' nor 'Rules'"
  | .io source failure => "failed to read rule source '" ++ source ++ "': " ++ failure.message
  | .parse source e => "failed to parse rule source '" ++ source ++ "': " ++ e.message

end CompileError

end PostRules
