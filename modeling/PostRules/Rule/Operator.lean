/-!
# Comparisons

A count or time leaf compares a post's value with a threshold. The comparison is written as a
word (`eq`, `ge`, `gt`, `le`, `lt`, `ne`) or its symbol (`=`, `>=`, `>`, `<=`, `<`, `!=`); with
no comparison written, a leaf asks for at least the threshold.
-/

namespace PostRules

/-- How a post's value is compared with a leaf's threshold. -/
inductive Comparison where
  | eq
  | ge
  | gt
  | le
  | lt
  | ne
  deriving DecidableEq, Repr, Inhabited

namespace Comparison

/-- The comparison a leaf uses when none is written. -/
def default : Comparison := .ge

/-- The word that names a comparison in canonical text. -/
def word : Comparison → String
  | .eq => "eq"
  | .ge => "ge"
  | .gt => "gt"
  | .le => "le"
  | .lt => "lt"
  | .ne => "ne"

/-- Every spelling that is read as a comparison: the six words, then the six symbols. -/
def spellings : List String :=
  ["eq", "ge", "gt", "le", "lt", "ne", "=", ">=", ">", "<=", "<", "!="]

/-- Reads a comparison from its word or symbol, exactly as written. -/
def ofToken? : String → Option Comparison
  | "eq" | "=" => some .eq
  | "ge" | ">=" => some .ge
  | "gt" | ">" => some .gt
  | "le" | "<=" => some .le
  | "lt" | "<" => some .lt
  | "ne" | "!=" => some .ne
  | _ => none

/-- Reads a comparison, or says which text is not one. -/
def parse (s : String) : Except String Comparison :=
  match ofToken? s with
  | some c => .ok c
  | none => .error ("unsupported operator: '" ++ s ++ "'")

/-- Whether two values whose order is `o` (left against right) stand in this comparison. -/
def holds (c : Comparison) (o : Ordering) : Bool :=
  match c with
  | .eq => o == .eq
  | .ge => o != .lt
  | .gt => o == .gt
  | .le => o != .gt
  | .lt => o == .lt
  | .ne => o != .eq

/-- Whether `a` stands in this comparison to `b`, for values with a total order. -/
def test {α : Type} [Ord α] (c : Comparison) (a b : α) : Bool :=
  c.holds (compare a b)

end Comparison

end PostRules
