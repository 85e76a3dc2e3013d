import PostRules.Unicode.Ranges

/-!
# Unicode property tables

A property table lists the code points having a property as closed ranges, with the names the
property is written as. The ranges are stored as text to keep the tables compact: each range is
a token `G` or `G.L` in hexadecimal, where `G` is the distance from the end of the range before
(or from zero) to the range's first code point and `L` is the range's length minus one; tokens
are separated by blanks.

## Contents

* `PropertyTable`: a named table.
* `decodeRanges`: the ranges of a table's text, in increasing order.
-/

namespace PostRules.Regex.Tables

/-- A property of code points: its canonical name, its names in normalized form, and its ranges
in the compact text form. -/
structure PropertyTable where
  name : String
  aliases : List String
  ranges : String
  deriving Inhabited

/-- Reads one token `G` or `G.L` after a range ending just before `next`; gives the range. -/
def decodeToken (next : Nat) (token : String) : Nat × Nat :=
  match token.splitOn "." with
  | [gap, len] => (next + Unicode.hexNat gap, next + Unicode.hexNat gap + Unicode.hexNat len)
  | _ => (next + Unicode.hexNat token, next + Unicode.hexNat token)

/-- The ranges of a table's text, in increasing order. -/
def decodeRanges (text : String) : List (Nat × Nat) :=
  let tokens := (text.splitOn " ").filter (· != "")
  (tokens.foldl (fun (acc : List (Nat × Nat) × Nat) t =>
    let r := decodeToken acc.2 t
    (r :: acc.1, r.2 + 1)) ([], 0)).1.reverse

end PostRules.Regex.Tables
