import PostRules.Regex.Tables.Fold

/-!
# Sets of code points

A character class is a set of code points, kept as closed ranges that are sorted, disjoint and
not adjacent. Every operation puts its result back into that form, so two sets are equal exactly
when their range lists are.

The surrogate code points `0xD800`–`0xDFFF` are not characters; a range may span them (the
complement of a set does), which changes nothing since no character lies there.

## Contents

* `CharSet.ofRanges`, `CharSet.union`, `CharSet.negate`, `CharSet.intersect`,
  `CharSet.difference`, `CharSet.symmDiff`: the set algebra of bracketed classes.
* `CharSet.contains`: membership.
* `CharSet.caseFold`: closure under simple case folding.
* `CharSet.asciiFold`: closure under ASCII case folding.
-/

namespace PostRules.Regex

/-- The greatest code point. -/
def maxCodePoint : Nat := 0x10FFFF

/-- A set of code points as sorted, disjoint, non-adjacent closed ranges. -/
structure CharSet where
  ranges : List (Nat × Nat)
  deriving Inhabited, BEq, Repr

namespace CharSet

/-- Merges a sorted list of ranges into the current range `cur`. -/
def mergeSorted (cur : Nat × Nat) : List (Nat × Nat) → List (Nat × Nat)
  | [] => [cur]
  | r :: rs =>
    if r.1 ≤ cur.2 + 1 then mergeSorted (cur.1, max cur.2 r.2) rs
    else cur :: mergeSorted r rs

/-- The set of the code points in any of the ranges; ranges given backwards are turned round. -/
def ofRanges (rs : List (Nat × Nat)) : CharSet :=
  let proper := rs.map fun r => if r.1 ≤ r.2 then r else (r.2, r.1)
  match proper.mergeSort (fun a b => a.1 ≤ b.1) with
  | [] => ⟨[]⟩
  | r :: rest => ⟨mergeSorted r rest⟩

/-- The empty set. -/
def empty : CharSet := ⟨[]⟩

/-- Every code point. -/
def full : CharSet := ⟨[(0, maxCodePoint)]⟩

/-- The set of one code point. -/
def single (c : Nat) : CharSet := ⟨[(c, c)]⟩

/-- Whether a code point is in the set. -/
def contains (s : CharSet) (c : Nat) : Bool :=
  s.ranges.any fun r => r.1 ≤ c && c ≤ r.2

/-- Whether the set is empty. -/
def isEmpty (s : CharSet) : Bool := s.ranges.isEmpty

/-- Whether every code point of the set is ASCII. -/
def isAscii (s : CharSet) : Bool := s.ranges.all fun r => r.2 ≤ 0x7F

/-- The union of two sets. -/
def union (a b : CharSet) : CharSet := ofRanges (a.ranges ++ b.ranges)

/-- The gaps between sorted ranges starting at `next`, up to `top`. -/
def gaps (next top : Nat) : List (Nat × Nat) → List (Nat × Nat)
  | [] => if next ≤ top then [(next, top)] else []
  | r :: rs =>
    let rest := gaps (r.2 + 1) top rs
    if next < r.1 then (next, r.1 - 1) :: rest else rest

/-- The complement of a set among all code points. -/
def negate (s : CharSet) : CharSet := ⟨gaps 0 maxCodePoint s.ranges⟩

/-- The complement of a set among the code points up to `top`. -/
def negateUpTo (top : Nat) (s : CharSet) : CharSet := ⟨gaps 0 top s.ranges⟩

/-- The intersection of two sets. -/
def intersect (a b : CharSet) : CharSet := (union a.negate b.negate).negate

/-- The code points of `a` not in `b`. -/
def difference (a b : CharSet) : CharSet := intersect a b.negate

/-- The code points in exactly one of the sets. -/
def symmDiff (a b : CharSet) : CharSet := union (difference a b) (difference b a)

/-- The union of a list of sets. -/
def unionAll (sets : List CharSet) : CharSet := ofRanges (sets.flatMap (·.ranges))

/-! ### Case folding -/

/-- The simple case folding classes: each list holds the code points folding together. -/
def foldClasses : List (List Nat) :=
  ((Tables.foldClassesText.splitOn ";").map fun cls =>
    (cls.splitOn ",").map Unicode.hexNat)

/-- The code points that simple case folding makes equal to `c`, `c` itself included. -/
def foldClassOf (c : Nat) : List Nat :=
  match foldClasses.find? (·.contains c) with
  | some cls => cls
  | none => [c]

/-- Whether `c` has a case folding partner. -/
def folds (c : Nat) : Bool := foldClasses.any (·.contains c)

/-- The set with every code point's case folding partners added. -/
def caseFold (s : CharSet) : CharSet :=
  let added := foldClasses.filter (fun cls => cls.any s.contains)
  union s (ofRanges (added.flatMap fun cls => cls.map fun c => (c, c)))

/-- The set with the other case of every ASCII letter in it added. -/
def asciiFold (s : CharSet) : CharSet :=
  let upper := intersect s ⟨[(0x41, 0x5A)]⟩
  let lower := intersect s ⟨[(0x61, 0x7A)]⟩
  unionAll [s, ⟨upper.ranges.map fun r => (r.1 + 32, r.2 + 32)⟩,
    ⟨lower.ranges.map fun r => (r.1 - 32, r.2 - 32)⟩]

end CharSet

end PostRules.Regex
