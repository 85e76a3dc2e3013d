import PostRules.Regex.Ast
import PostRules.Regex.Hir
import PostRules.Regex.Property

/-!
# From syntax to meaning

The tree a pattern is read into is translated to its meaning under the flags in force:

* `i`: characters and classes match regardless of case, by simple case folding (only ASCII
  letters when Unicode is off);
* `m`: `^` and `$` match at line ends too;
* `s`: `.` matches `\n` too;
* `R`: lines end at `\r` as well as `\n`, for `^`, `$` and `.`;
* `U`: repetitions prefer fewer;
* `u` (on by default): classes and word boundaries are Unicode's; off, they are ASCII's, and
  anything that could match a byte that is not ASCII is an error, since texts are UTF-8.

`(?flags)` changes the flags up to the end of the enclosing group, across its alternatives;
`(?flags:...)` only inside the group.

A class is folded by case before it is negated: `(?i)[^a]` matches neither `a` nor `A`.

## Contents

* `Flags`.
* `translate`: the meaning of a tree, or the first error.
-/

namespace PostRules.Regex

/-- The flags in force; a flag not yet set is off, except `u`, which is on. -/
structure Flags where
  caseInsensitive : Option Bool := none
  multiLine : Option Bool := none
  dotMatchesNewLine : Option Bool := none
  swapGreed : Option Bool := none
  unicode : Option Bool := none
  crlf : Option Bool := none
  ignoreWhitespace : Option Bool := none
  deriving Inhabited

namespace Flags

/-- Whether case is ignored. -/
def ci (f : Flags) : Bool := f.caseInsensitive.getD false

/-- Whether Unicode is on. -/
def uni (f : Flags) : Bool := f.unicode.getD true

/-- The flags a flag group sets. -/
def ofItems (items : List FlagsItem) : Flags :=
  (items.foldl (fun (acc : Flags × Bool) item =>
    let (f, enable) := acc
    match item with
    | .negation => (f, false)
    | .flag .caseInsensitive => ({ f with caseInsensitive := some enable }, enable)
    | .flag .multiLine => ({ f with multiLine := some enable }, enable)
    | .flag .dotMatchesNewLine => ({ f with dotMatchesNewLine := some enable }, enable)
    | .flag .swapGreed => ({ f with swapGreed := some enable }, enable)
    | .flag .unicode => ({ f with unicode := some enable }, enable)
    | .flag .crlf => ({ f with crlf := some enable }, enable)
    | .flag .ignoreWhitespace => ({ f with ignoreWhitespace := some enable }, enable))
    ({}, true)).1

/-- The flags `new` sets, with the others as in `old`. -/
def merge (new old : Flags) : Flags :=
  { caseInsensitive := new.caseInsensitive <|> old.caseInsensitive
    multiLine := new.multiLine <|> old.multiLine
    dotMatchesNewLine := new.dotMatchesNewLine <|> old.dotMatchesNewLine
    swapGreed := new.swapGreed <|> old.swapGreed
    unicode := new.unicode <|> old.unicode
    crlf := new.crlf <|> old.crlf
    ignoreWhitespace := new.ignoreWhitespace <|> old.ignoreWhitespace }

end Flags

/-- Fails with an error at a span. -/
def refuse (span : Span) (kind : ErrorKind) : Except SyntaxError α :=
  .error { kind, span }

/-! ### Classes -/

/-- Folds a Unicode class by case if case is ignored, then negates it if asked. -/
def foldAndNegate (flags : Flags) (negated : Bool) (s : CharSet) : CharSet :=
  let s := if flags.ci then s.caseFold else s
  if negated then s.negate else s

/-- Folds an ASCII class by case if case is ignored, then negates it among the bytes if asked;
a class that could then match a byte beyond ASCII is an error. -/
def foldAndNegateBytes (flags : Flags) (span : Span) (negated : Bool) (s : CharSet) :
    Except SyntaxError CharSet :=
  let s := if flags.ci then s.asciiFold else s
  let s := if negated then s.negateUpTo 0xFF else s
  if s.isAscii then .ok s else refuse span .invalidUtf8

/-- The class a `\p` names, folded and negated. -/
def unicodeClassSet (flags : Flags) (span : Span) (kind : UnicodeKind) (negated : Bool) :
    Except SyntaxError CharSet := do
  if !flags.uni then refuse span .unicodeNotAllowed
  let query := match kind with
    | .oneLetter c => ClassQuery.oneLetter c
    | .named name => .binary name
    | .namedValue _ name value => .byValue name value
  let negated := match kind with
    | .namedValue true _ _ => !negated
    | _ => negated
  match query.resolve with
  | .ok s => pure (foldAndNegate flags negated s)
  | .error .propertyNotFound => refuse span .unicodePropertyNotFound
  | .error .propertyValueNotFound => refuse span .unicodePropertyValueNotFound

/-- The set of `\d`, `\s` or `\w`. -/
def perlSet (flags : Flags) (span : Span) (kind : PerlKind) (negated : Bool) :
    Except SyntaxError CharSet :=
  if flags.uni then
    let s := match kind with
      | .digit => perlDigit
      | .space => perlSpace
      | .word => perlWord
    .ok (if negated then s.negate else s)
  else
    let s := match kind with
      | .digit => asciiClass .digit
      | .space => asciiClass .space
      | .word => asciiClass .word
    let s := if negated then s.negateUpTo 0xFF else s
    if s.isAscii then .ok s else refuse span .invalidUtf8

/-- The byte a character of a class stands for where Unicode is off. -/
def classByte (lit : Literal) : Except SyntaxError Nat :=
  if lit.c.toNat ≤ 0x7F then .ok lit.c.toNat
  else if lit.hexByte then refuse lit.span .invalidUtf8
  else refuse lit.span .unicodeNotAllowed

mutual

/-- The set of an item of a bracketed class. -/
def itemSet (flags : Flags) : ClassSetItem → Except SyntaxError CharSet
  | .empty _ => .ok CharSet.empty
  | .literal lit =>
    if flags.uni then .ok (CharSet.single lit.c.toNat)
    else do
      let b ← classByte lit
      pure (CharSet.single b)
  | .range _ lo hi =>
    if flags.uni then .ok (CharSet.ofRanges [(lo.c.toNat, hi.c.toNat)])
    else do
      let a ← classByte lo
      let b ← classByte hi
      pure (CharSet.ofRanges [(a, b)])
  | .ascii span kind negated =>
    if flags.uni then .ok (foldAndNegate flags negated (asciiClass kind))
    else foldAndNegateBytes flags span negated (asciiClass kind)
  | .unicode span kind negated => unicodeClassSet flags span kind negated
  | .perl span kind negated => perlSet flags span kind negated
  | .bracketed span negated set => do
    let s ← classSetSet flags set
    if flags.uni then pure (foldAndNegate flags negated s)
    else foldAndNegateBytes flags span negated s
  | .union _ items => itemsSet flags items

/-- The union of the sets of items. -/
def itemsSet (flags : Flags) : List ClassSetItem → Except SyntaxError CharSet
  | [] => .ok CharSet.empty
  | i :: rest => do
    let a ← itemSet flags i
    let b ← itemsSet flags rest
    pure (CharSet.union a b)

/-- The set of a class set: an item, or two sets joined by an operator. -/
def classSetSet (flags : Flags) : ClassSet → Except SyntaxError CharSet
  | .item i => itemSet flags i
  | .binaryOp _ op lhs rhs => do
    let a ← classSetSet flags lhs
    let b ← classSetSet flags rhs
    let fold := fun (s : CharSet) =>
      if !flags.ci then s else if flags.uni then s.caseFold else s.asciiFold
    let (a, b) := (fold a, fold b)
    pure (match op with
      | .intersection => a.intersect b
      | .difference => a.difference b
      | .symmetricDifference => a.symmDiff b)

end

/-! ### Pieces -/

/-- The meaning of a character: itself, or the class of its case partners. -/
def literalHir (flags : Flags) (lit : Literal) : Except SyntaxError Hir := do
  if !flags.uni && lit.hexByte && lit.c.toNat > 0x7F then refuse lit.span .invalidUtf8
  let c := lit.c
  if !flags.ci then return .literal [c]
  if flags.uni then
    if !CharSet.folds c.toNat then return .literal [c]
    pure (Hir.ofSet (CharSet.single c.toNat).caseFold)
  else
    if !(c.isAlpha && c.toNat ≤ 0x7F) then return .literal [c]
    pure (Hir.ofSet (CharSet.single c.toNat).asciiFold)

/-- The meaning of `.`. -/
def dotHir (flags : Flags) (span : Span) : Except SyntaxError Hir :=
  if !flags.uni then refuse span .invalidUtf8
  else if flags.dotMatchesNewLine.getD false then .ok (.cls CharSet.full)
  else if flags.crlf.getD false then
    .ok (.cls (CharSet.ofRanges [(0, 9), (11, 12), (14, maxCodePoint)]))
  else .ok (.cls (CharSet.ofRanges [(0, 9), (11, maxCodePoint)]))

/-- The meaning of an assertion. -/
def assertionHir (flags : Flags) (span : Span) (kind : AssertionKind) :
    Except SyntaxError Hir :=
  let uni := flags.uni
  let multi := flags.multiLine.getD false
  let crlf := flags.crlf.getD false
  match kind with
  | .startLine =>
    .ok (.look (if multi then (if crlf then .startCRLF else .startLF) else .textStart))
  | .endLine => .ok (.look (if multi then (if crlf then .endCRLF else .endLF) else .textEnd))
  | .startText => .ok (.look .textStart)
  | .endText => .ok (.look .textEnd)
  | .wordBoundary => .ok (.look (if uni then .wordUnicode else .wordAscii))
  | .notWordBoundary =>
    if uni then .ok (.look .wordUnicodeNegate) else refuse span .invalidUtf8
  | .wordBoundaryStart | .wordBoundaryStartAngle =>
    .ok (.look (if uni then .wordStartUnicode else .wordStartAscii))
  | .wordBoundaryEnd | .wordBoundaryEndAngle =>
    .ok (.look (if uni then .wordEndUnicode else .wordEndAscii))
  | .wordBoundaryStartHalf => .ok (.look (if uni then .wordStartHalfUnicode else .wordStartHalfAscii))
  | .wordBoundaryEndHalf => .ok (.look (if uni then .wordEndHalfUnicode else .wordEndHalfAscii))

/-- The bounds of a repetition. -/
def RepetitionKind.bounds : RepetitionKind → Nat × Option Nat
  | .zeroOrOne => (0, some 1)
  | .zeroOrMore => (0, none)
  | .oneOrMore => (1, none)
  | .exactly n => (n, some n)
  | .atLeast n => (n, none)
  | .bounded m n => (m, some n)

mutual

/-- The meaning of a tree under the flags in force, with the flags in force after it. -/
def translateAst (flags : Flags) : Ast → Except SyntaxError (Hir × Flags)
  | .empty _ => .ok (.empty, flags)
  | .flags _ items => .ok (.empty, Flags.merge (Flags.ofItems items) flags)
  | .literal lit => do pure (← literalHir flags lit, flags)
  | .dot span => do pure (← dotHir flags span, flags)
  | .assertion span kind => do pure (← assertionHir flags span kind, flags)
  | .unicodeClass span kind negated => do
    pure (Hir.ofSet (← unicodeClassSet flags span kind negated), flags)
  | .perlClass span kind negated => do
    pure (Hir.ofSet (← perlSet flags span kind negated), flags)
  | .bracketed span negated set => do
    let s ← classSetSet flags set
    let s ← if flags.uni then pure (foldAndNegate flags negated s)
      else foldAndNegateBytes flags span negated s
    pure (Hir.ofSet s, flags)
  | .repetition _ kind greedy sub => do
    let (h, after) ← translateAst flags sub
    let (lo, hi) := kind.bounds
    let greedy := if after.swapGreed.getD false then !greedy else greedy
    pure (Hir.repeatOf lo hi greedy h, after)
  | .group _ kind sub => do
    let inner := match kind with
      | .nonCapturing items => Flags.merge (Flags.ofItems items) flags
      | _ => flags
    let (h, _) ← translateAst inner sub
    match kind with
    | .captureIndex i => pure (.capture i h, flags)
    | .captureName _ i => pure (.capture i h, flags)
    | .nonCapturing _ => pure (h, flags)
  | .alternation _ subs => do
    let (hs, after) ← translateList flags subs
    pure (Hir.alternationOf hs, after)
  | .concat _ subs => do
    let (hs, after) ← translateList flags subs
    pure (Hir.concatOf hs, after)

/-- The meanings of a list of trees, the flags passing from each to the next. -/
def translateList (flags : Flags) : List Ast → Except SyntaxError (List Hir × Flags)
  | [] => .ok ([], flags)
  | a :: rest => do
    let (h, after) ← translateAst flags a
    let (hs, final) ← translateList after rest
    pure (h :: hs, final)

end

/-- The meaning of a tree, or the first error. -/
def translate (ast : Ast) : Except SyntaxError Hir := do
  let (h, _) ← translateAst {} ast
  pure h

end PostRules.Regex
