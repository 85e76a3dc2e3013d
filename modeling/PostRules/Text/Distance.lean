/-!
# Edit distance

The Levenshtein distance between two words: the fewest single-character insertions,
deletions and substitutions that turn one into the other. It is computed row by row over the
table whose entry `(i, j)` is the distance between the first `i` characters of the first word
and the first `j` characters of the second.
-/

namespace PostRules.Text

/-- The next row of the distance table after reading one more character `c` of the first word.

`prev` is the previous row, and `left` the entry already computed to the left of the one being
produced. Equal characters copy the diagonal entry; otherwise one edit is added to the cheapest of
the three neighbours. -/
def nextRow (c : Char) : List Char → List Nat → Nat → List Nat
  | d :: ds, diag :: above :: rest, left =>
    let here := if c == d then diag else 1 + min (min diag above) left
    left :: nextRow c ds (above :: rest) here
  | _, _, left => [left]

/-- The Levenshtein distance between two words, counted in characters. -/
def editDistance (a b : List Char) : Nat :=
  let first := List.range (b.length + 1)
  let last := (a.zipIdx 1).foldl (fun row (c, i) => nextRow c b row i) first
  last.getLast?.getD 0

end PostRules.Text
