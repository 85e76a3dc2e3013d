/-!
# Tables of code point ranges

A character property is stored as an array of inclusive ranges of code points, in increasing
order and pairwise apart. Membership is decided by halving the array.

Tables are written compactly as text: ranges in hexadecimal (`2000-200A`, or `20` for a range
of one), separated by blanks and line breaks; classes of characters as their members joined by
commas.
-/

namespace PostRules.Unicode

/-- The value of a hexadecimal numeral; characters that are not digits count as zero. -/
def hexNat (s : String) : Nat :=
  s.toList.foldl (fun acc c =>
    let d := if '0' ≤ c && c ≤ '9' then c.toNat - '0'.toNat
      else if 'A' ≤ c && c ≤ 'F' then c.toNat - 'A'.toNat + 10
      else if 'a' ≤ c && c ≤ 'f' then c.toNat - 'a'.toNat + 10
      else 0
    acc * 16 + d) 0

/-- The words of a table's text, split at blanks and line breaks. -/
def tableWords (s : String) : List String :=
  ((s.split (fun c => c == ' ' || c == '\n')).toList.map (·.toString)).filter (· != "")

/-- The ranges written in a table's text. -/
def decodeRanges (s : String) : Array (Nat × Nat) :=
  ((tableWords s).map fun w =>
    match w.splitOn "-" with
    | [a, b] => (hexNat a, hexNat b)
    | _ => (hexNat w, hexNat w)).toArray

/-- The classes written in a table's text. -/
def decodeClasses (s : String) : Array (Array Nat) :=
  ((tableWords s).map fun w => ((w.splitOn ",").map hexNat).toArray).toArray

/-- Each member of the classes with the index of its class, sorted by member. -/
def classIndex (classes : Array (Array Nat)) : Array (Nat × Nat) :=
  let pairs := (classes.toList.zipIdx.map fun (cls, i) => cls.toList.map fun c => (c, i)).flatten
  (pairs.mergeSort (fun a b => a.1 ≤ b.1)).toArray

/-- Whether `c` lies in one of the ranges `rs[lo]`, ..., `rs[hi - 1]`, searched by halving. -/
def inRangesBetween (rs : Array (Nat × Nat)) (c : Nat) (lo hi : Nat) : Bool :=
  if lo < hi then
    let mid := (lo + hi) / 2
    match rs[mid]? with
    | some (a, b) =>
      if c < a then inRangesBetween rs c lo mid
      else if b < c then inRangesBetween rs c (mid + 1) hi
      else true
    | none => false
  else false
termination_by hi - lo

/-- Whether code point `c` lies in one of the ranges. -/
def inRanges (rs : Array (Nat × Nat)) (c : Nat) : Bool :=
  inRangesBetween rs c 0 rs.size

/-- The second component paired with `c` in an array of pairs sorted by their first component. -/
def lookupBetween (ps : Array (Nat × Nat)) (c : Nat) (lo hi : Nat) : Option Nat :=
  if lo < hi then
    let mid := (lo + hi) / 2
    match ps[mid]? with
    | some (a, v) =>
      if c < a then lookupBetween ps c lo mid
      else if a < c then lookupBetween ps c (mid + 1) hi
      else some v
    | none => none
  else none
termination_by hi - lo

/-- The value paired with `c` in an array of pairs sorted by key. -/
def lookup (ps : Array (Nat × Nat)) (c : Nat) : Option Nat :=
  lookupBetween ps c 0 ps.size

end PostRules.Unicode
