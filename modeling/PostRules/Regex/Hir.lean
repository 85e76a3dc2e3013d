import PostRules.Regex.CharSet

/-!
# The meaning of a pattern

A pattern means a tree of simpler pieces: characters in sequence, classes of characters,
assertions about the surroundings of a position, repetitions, groups that capture, sequences and
alternatives. Flags, named and unnamed groups, escapes and bracketed classes are all gone.

The constructors below simplify as they build, as a compiler of such trees does, so that the
size of the automaton built from a tree is the same as that compiler's:

* a sequence drops empty pieces, joins neighbouring characters into one literal and flattens
  nested sequences;
* an alternation flattens nested alternations, becomes a class when every branch is one
  character or a class, and has a common leading part taken out;
* a class of one character is that character, an empty class never matches;
* a repetition of a piece that matches only the empty string repeats at most once, `{0}` is
  empty and `{1}` is the piece itself.

## Contents

* `Look`: the assertions.
* `Hir`, `Hir.concat`, `Hir.alternation`, `Hir.cls`, `Hir.repetition`.
* `Hir.minLen`, `Hir.maxLen`: the shortest and longest match, in bytes.
* `Hir.anchoredStart`, `Hir.anchoredEnd`: every match starts at the start (ends at the end) of
  the text.
-/

namespace PostRules.Regex

/-- The assertions about a position. -/
inductive Look where
  /-- The start of the text. -/
  | textStart
  /-- The end of the text. -/
  | textEnd
  /-- The start of a line, lines ending at `\n`. -/
  | startLF
  /-- The end of a line, lines ending at `\n`. -/
  | endLF
  /-- The start of a line, lines ending at `\r`, `\n` or `\r\n`. -/
  | startCRLF
  /-- The end of a line, lines ending at `\r`, `\n` or `\r\n`. -/
  | endCRLF
  | wordAscii
  | wordAsciiNegate
  | wordUnicode
  | wordUnicodeNegate
  | wordStartAscii
  | wordEndAscii
  | wordStartUnicode
  | wordEndUnicode
  | wordStartHalfAscii
  | wordEndHalfAscii
  | wordStartHalfUnicode
  | wordEndHalfUnicode
  deriving DecidableEq, Repr, Inhabited

/-- The meaning of a pattern. -/
inductive Hir where
  /-- Matches the empty string. -/
  | empty
  /-- Matches these characters in order (at least one). -/
  | literal (cs : List Char)
  /-- Matches one character of the set; never matches when the set is empty. -/
  | cls (set : CharSet)
  /-- Matches the empty string where the assertion holds. -/
  | look (l : Look)
  /-- Matches `min` to `max` (no limit for none) repetitions of `sub`. -/
  | repetition (min : Nat) (max : Option Nat) (greedy : Bool) (sub : Hir)
  /-- Matches `sub`, which group `index` captures. -/
  | capture (index : Nat) (sub : Hir)
  /-- Matches the pieces in order (at least two). -/
  | concat (subs : List Hir)
  /-- Matches any of the branches (at least two). -/
  | alternation (subs : List Hir)
  deriving Inhabited, Repr

mutual

/-- Structural equality of trees. -/
def Hir.beq : Hir → Hir → Bool
  | .empty, .empty => true
  | .literal a, .literal b => a == b
  | .cls a, .cls b => a == b
  | .look a, .look b => a == b
  | .repetition m1 x1 g1 s1, .repetition m2 x2 g2 s2 =>
    m1 == m2 && x1 == x2 && g1 == g2 && Hir.beq s1 s2
  | .capture i1 s1, .capture i2 s2 => i1 == i2 && Hir.beq s1 s2
  | .concat as, .concat bs => Hir.beqList as bs
  | .alternation as, .alternation bs => Hir.beqList as bs
  | _, _ => false

/-- Equality of lists of trees. -/
def Hir.beqList : List Hir → List Hir → Bool
  | [], [] => true
  | a :: as, b :: bs => Hir.beq a b && Hir.beqList as bs
  | _, _ => false

end

instance : BEq Hir := ⟨Hir.beq⟩

/-- The number of bytes of a code point in UTF-8. -/
def utf8Len (n : Nat) : Nat :=
  if n < 0x80 then 1 else if n < 0x800 then 2 else if n < 0x10000 then 3 else 4

/-! ### Lengths and anchors -/

/-- The sum of optional lengths; nothing if any is nothing. -/
def sumLens : List (Option Nat) → Option Nat
  | [] => some 0
  | x :: xs => do
    let a ← x
    let b ← sumLens xs
    pure (a + b)

/-- The least of optional lengths, where nothing (never matching) wins. -/
def leastLen : List (Option Nat) → Option Nat
  | [] => none
  | [x] => x
  | x :: xs => do
    let a ← x
    let b ← leastLen xs
    pure (Nat.min a b)

/-- The greatest of optional lengths, where nothing (no limit) wins. -/
def greatestLen : List (Option Nat) → Option Nat
  | [] => none
  | [x] => x
  | x :: xs => do
    let a ← x
    let b ← greatestLen xs
    pure (Nat.max a b)

mutual

/-- The length in bytes of the shortest match; nothing if there is no match. -/
def Hir.minLen : Hir → Option Nat
  | .empty => some 0
  | .literal cs => some (cs.foldl (fun n c => n + utf8Len c.toNat) 0)
  | .cls s =>
    match s.ranges with
    | [] => none
    | r :: _ => some (utf8Len r.1)
  | .look _ => some 0
  | .repetition m _ _ sub => (Hir.minLen sub).map (· * m)
  | .capture _ sub => Hir.minLen sub
  | .concat subs => sumLens (Hir.minLens subs)
  | .alternation subs => leastLen (Hir.minLens subs)

/-- The shortest matches of a list of trees. -/
def Hir.minLens : List Hir → List (Option Nat)
  | [] => []
  | h :: hs => Hir.minLen h :: Hir.minLens hs

end

mutual

/-- The length in bytes of the longest match; nothing if there is no limit or no match. -/
def Hir.maxLen : Hir → Option Nat
  | .empty => some 0
  | .literal cs => some (cs.foldl (fun n c => n + utf8Len c.toNat) 0)
  | .cls s =>
    match s.ranges.getLast? with
    | none => none
    | some r => some (utf8Len r.2)
  | .look _ => some 0
  | .repetition _ x _ sub => do
    let m ← x
    let n ← Hir.maxLen sub
    pure (n * m)
  | .capture _ sub => Hir.maxLen sub
  | .concat subs => sumLens (Hir.maxLens subs)
  | .alternation subs => greatestLen (Hir.maxLens subs)

/-- The longest matches of a list of trees. -/
def Hir.maxLens : List Hir → List (Option Nat)
  | [] => []
  | h :: hs => Hir.maxLen h :: Hir.maxLens hs

end

mutual

/-- Whether every match must start where `l` holds, by an assertion met before anything is
consumed. -/
def Hir.leadsWith (l : Look) : Hir → Bool
  | .look k => k == l
  | .repetition m _ _ sub => m > 0 && Hir.leadsWith l sub
  | .capture _ sub => Hir.leadsWith l sub
  | .concat subs => Hir.leadsWithSeq l subs
  | .alternation subs => Hir.leadsWithAll l subs
  | _ => false

/-- Whether a sequence leads with `l`: some piece does, with only empty matches before it. -/
def Hir.leadsWithSeq (l : Look) : List Hir → Bool
  | [] => false
  | h :: hs => Hir.leadsWith l h || (Hir.maxLen h == some 0 && Hir.leadsWithSeq l hs)

/-- Whether every branch leads with `l`. -/
def Hir.leadsWithAll (l : Look) : List Hir → Bool
  | [] => true
  | h :: hs => Hir.leadsWith l h && Hir.leadsWithAll l hs

end

mutual

/-- Whether every match must end where `l` holds, by an assertion met after everything is
consumed. -/
def Hir.trailsWith (l : Look) : Hir → Bool
  | .look k => k == l
  | .repetition m _ _ sub => m > 0 && Hir.trailsWith l sub
  | .capture _ sub => Hir.trailsWith l sub
  | .concat subs => Hir.trailsWithSeq l subs
  | .alternation subs => Hir.trailsWithAll l subs
  | _ => false

/-- Whether a sequence trails with `l`: some piece does, with only empty matches after it. -/
def Hir.trailsWithSeq (l : Look) : List Hir → Bool
  | [] => false
  | h :: hs =>
    Hir.trailsWithSeq l hs || ((Hir.maxLens hs).all (· == some 0) && Hir.trailsWith l h)

/-- Whether every branch trails with `l`. -/
def Hir.trailsWithAll (l : Look) : List Hir → Bool
  | [] => true
  | h :: hs => Hir.trailsWith l h && Hir.trailsWithAll l hs

end

/-- Whether every match starts at the start of the text. -/
def Hir.anchoredStart (h : Hir) : Bool := h.leadsWith .textStart

/-- Whether every match ends at the end of the text. -/
def Hir.anchoredEnd (h : Hir) : Bool := h.trailsWith .textEnd

/-! ### Simplifying constructors -/

/-- A literal; the empty literal is the empty tree. -/
def Hir.lit (cs : List Char) : Hir :=
  if cs.isEmpty then .empty else .literal cs

/-- A class; one character is a literal. -/
def Hir.ofSet (s : CharSet) : Hir :=
  match s.ranges with
  | [(a, b)] => if a == b then .literal [Char.ofNat a] else .cls s
  | _ => .cls s

/-- The pieces of a sequence, flattened one level, with neighbouring characters joined and
empty pieces dropped. -/
def joinPieces (pending : List Char) : List Hir → List Hir
  | [] => if pending.isEmpty then [] else [.literal pending]
  | h :: hs =>
    match h with
    | .literal cs => joinPieces (pending ++ cs) hs
    | .empty => joinPieces pending hs
    | other =>
      let flushed := if pending.isEmpty then [] else [Hir.literal pending]
      flushed ++ other :: joinPieces [] hs

/-- The pieces of the sequences among `subs` spread out. -/
def spreadConcats : List Hir → List Hir
  | [] => []
  | .concat inner :: hs => inner ++ spreadConcats hs
  | h :: hs => h :: spreadConcats hs

/-- A sequence of pieces. -/
def Hir.concatOf (subs : List Hir) : Hir :=
  match joinPieces [] (spreadConcats subs) with
  | [] => .empty
  | [h] => h
  | hs => .concat hs

/-- The one character a literal of one character stands for. -/
def singleChar? : Hir → Option Char
  | .literal [c] => some c
  | _ => none

/-- The set a class or a literal of one character stands for. -/
def classSet? : Hir → Option CharSet
  | .cls s => some s
  | _ => none

/-- The length of the longest common start of two lists of trees. -/
def commonLength : List Hir → List Hir → Nat
  | a :: as, b :: bs => if a == b then commonLength as bs + 1 else 0
  | _, _ => 0

/-- The pieces of a sequence. -/
def concatPieces? : Hir → Option (List Hir)
  | .concat subs => some subs
  | _ => none

/-- The pieces of the branches of an alternation when every branch is a sequence. -/
def branchPieces : List Hir → Option (List (List Hir))
  | [] => some []
  | h :: hs => do
    let p ← concatPieces? h
    let ps ← branchPieces hs
    pure (p :: ps)

/-- The common leading pieces of sequences. -/
def commonLead : List (List Hir) → Nat
  | [] => 0
  | p :: ps => ps.foldl (fun n q => Nat.min n (commonLength p q)) p.length

/-- The alternation of branches already flattened, before a common start is taken out. -/
def Hir.branches (subs : List Hir) : Hir :=
  match subs with
  | [] => .cls CharSet.empty
  | [h] => h
  | _ =>
    match subs.mapM singleChar? with
    | some cs => Hir.ofSet (CharSet.ofRanges (cs.map fun c => (c.toNat, c.toNat)))
    | none =>
      match subs.mapM classSet? with
      | some sets => Hir.ofSet (CharSet.unionAll sets)
      | none => .alternation subs

/-- The branches of the alternations among `subs` spread out. -/
def spreadAlternations : List Hir → List Hir
  | [] => []
  | .alternation inner :: hs => inner ++ spreadAlternations hs
  | h :: hs => h :: spreadAlternations hs

/-- An alternation of branches, taking out a common start at most `fuel` times. -/
def Hir.alternationUpTo : Nat → List Hir → Hir
  | 0, subs => Hir.branches (spreadAlternations subs)
  | fuel + 1, subs =>
    match Hir.branches (spreadAlternations subs) with
    | .alternation bs =>
      match branchPieces bs with
      | some (first :: rest) =>
        let n := commonLead (first :: rest)
        if n == 0 then .alternation bs
        else
          let rests := (first :: rest).map fun p => Hir.concatOf (p.drop n)
          Hir.concatOf (first.take n ++ [Hir.alternationUpTo fuel rests])
      | _ => .alternation bs
    | h => h

/-- The number of pieces of a sequence, one for anything else. -/
def pieceCount : Hir → Nat
  | .concat subs => subs.length
  | _ => 1

/-- An alternation of branches. -/
def Hir.alternationOf (subs : List Hir) : Hir :=
  Hir.alternationUpTo (subs.foldl (fun n h => n + pieceCount h) 1) subs

/-- A repetition of a piece. -/
def Hir.repeatOf (min : Nat) (max : Option Nat) (greedy : Bool) (sub : Hir) : Hir :=
  let (min, max) :=
    if sub.maxLen == some 0 then (Nat.min min 1, some (match max with | some m => Nat.min m 1 | none => 1))
    else (min, max)
  if min == 0 && max == some 0 then .empty
  else if min == 1 && max == some 1 then sub
  else .repetition min max greedy sub

end PostRules.Regex
