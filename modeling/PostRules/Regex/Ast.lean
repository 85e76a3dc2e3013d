/-!
# The abstract syntax of patterns

A pattern is read into a tree that keeps where each piece was written: a position is a character
offset with its line and column (both from 1), and a span runs from a position to the position
just after the piece. Spans are what errors point at.

Errors name what went wrong with a pattern; the text of each is what a user sees. Some errors
point at a second place as well: the first of two duplicated names or flags.

## Contents

* `Position`, `Span`.
* `ErrorKind`, `ErrorKind.message`, `SyntaxError`.
* `Literal`, `AssertionKind`, `PerlKind`, `AsciiKind`, `UnicodeKind`, `Flag`, `FlagsItem`.
* `ClassSetItem`, `ClassSet`: the contents of a bracketed class.
* `Ast`: a whole pattern.
-/

namespace PostRules.Regex

/-- A place in a pattern: the number of characters before it, its line and its column. -/
structure Position where
  offset : Nat
  line : Nat
  column : Nat
  deriving Inhabited, BEq, Repr

/-- The start of a pattern. -/
def Position.initial : Position := ⟨0, 1, 1⟩

/-- A stretch of a pattern, from `start` up to `stop`. -/
structure Span where
  start : Position
  stop : Position
  deriving Inhabited, BEq, Repr

/-- The empty span at a position. -/
def Span.splat (p : Position) : Span := ⟨p, p⟩

/-- Whether a span starts and stops on one line. -/
def Span.isOneLine (s : Span) : Bool := s.start.line == s.stop.line

/-- Whether `a` sorts before `b`: by start, then by stop. -/
def Span.before (a b : Span) : Bool :=
  a.start.offset < b.start.offset ||
    (a.start.offset == b.start.offset && a.stop.offset < b.stop.offset)

/-! ### Errors -/

/-- What is wrong with a pattern. -/
inductive ErrorKind where
  | captureLimitExceeded
  | classEscapeInvalid
  | classRangeInvalid
  | classRangeLiteral
  | classUnclosed
  | decimalEmpty
  | decimalInvalid
  | escapeHexEmpty
  | escapeHexInvalid
  | escapeHexInvalidDigit
  | escapeUnexpectedEof
  | escapeUnrecognized
  | flagDanglingNegation
  | flagDuplicate (first : Span)
  | flagRepeatedNegation (first : Span)
  | flagUnexpectedEof
  | flagUnrecognized
  | groupNameDuplicate (first : Span)
  | groupNameEmpty
  | groupNameInvalid
  | groupNameUnexpectedEof
  | groupUnclosed
  | groupUnopened
  | nestLimitExceeded (limit : Nat)
  | repetitionCountInvalid
  | repetitionCountDecimalEmpty
  | repetitionCountUnclosed
  | repetitionMissing
  | specialWordBoundaryUnclosed
  | specialWordBoundaryUnrecognized
  | specialWordOrRepetitionUnexpectedEof
  | unicodeClassInvalid
  | unsupportedBackreference
  | unsupportedLookAround
  | unicodeNotAllowed
  | invalidUtf8
  | invalidLineTerminator
  | unicodePropertyNotFound
  | unicodePropertyValueNotFound
  | unicodePerlClassNotFound
  | unicodeCaseUnavailable
  deriving Inhabited, Repr

/-- The text of an error. -/
def ErrorKind.message : ErrorKind → String
  | .captureLimitExceeded => "exceeded the maximum number of capturing groups (4294967295)"
  | .classEscapeInvalid => "invalid escape sequence found in character class"
  | .classRangeInvalid => "invalid character class range, the start must be <= the end"
  | .classRangeLiteral => "invalid range boundary, must be a literal"
  | .classUnclosed => "unclosed character class"
  | .decimalEmpty => "decimal literal empty"
  | .decimalInvalid => "decimal literal invalid"
  | .escapeHexEmpty => "hexadecimal literal empty"
  | .escapeHexInvalid => "hexadecimal literal is not a Unicode scalar value"
  | .escapeHexInvalidDigit => "invalid hexadecimal digit"
  | .escapeUnexpectedEof => "incomplete escape sequence, reached end of pattern prematurely"
  | .escapeUnrecognized => "unrecognized escape sequence"
  | .flagDanglingNegation => "dangling flag negation operator"
  | .flagDuplicate _ => "duplicate flag"
  | .flagRepeatedNegation _ => "flag negation operator repeated"
  | .flagUnexpectedEof => "expected flag but got end of regex"
  | .flagUnrecognized => "unrecognized flag"
  | .groupNameDuplicate _ => "duplicate capture group name"
  | .groupNameEmpty => "empty capture group name"
  | .groupNameInvalid => "invalid capture group character"
  | .groupNameUnexpectedEof => "unclosed capture group name"
  | .groupUnclosed => "unclosed group"
  | .groupUnopened => "unopened group"
  | .nestLimitExceeded limit =>
    "exceed the maximum number of nested parentheses/brackets (" ++ toString limit ++ ")"
  | .repetitionCountInvalid => "invalid repetition count range, the start must be <= the end"
  | .repetitionCountDecimalEmpty => "repetition quantifier expects a valid decimal"
  | .repetitionCountUnclosed => "unclosed counted repetition"
  | .repetitionMissing => "repetition operator missing expression"
  | .specialWordBoundaryUnclosed =>
    "special word boundary assertion is either unclosed or contains an invalid character"
  | .specialWordBoundaryUnrecognized =>
    "unrecognized special word boundary assertion, valid choices are: start, end, start-half or end-half"
  | .specialWordOrRepetitionUnexpectedEof =>
    "found either the beginning of a special word boundary or a bounded repetition on a \\b with an opening brace, but no closing brace"
  | .unicodeClassInvalid => "invalid Unicode character class"
  | .unsupportedBackreference => "backreferences are not supported"
  | .unsupportedLookAround =>
    "look-around, including look-ahead and look-behind, is not supported"
  | .unicodeNotAllowed => "Unicode not allowed here"
  | .invalidUtf8 => "pattern can match invalid UTF-8"
  | .invalidLineTerminator => "invalid line terminator, must be ASCII"
  | .unicodePropertyNotFound => "Unicode property not found"
  | .unicodePropertyValueNotFound => "Unicode property value not found"
  | .unicodePerlClassNotFound =>
    "Unicode-aware Perl class not found (make sure the unicode-perl feature is enabled)"
  | .unicodeCaseUnavailable =>
    "Unicode-aware case insensitivity matching is not available (make sure the unicode-case feature is enabled)"

/-- The second place an error points at, if any. -/
def ErrorKind.auxiliary : ErrorKind → Option Span
  | .flagDuplicate s => some s
  | .flagRepeatedNegation s => some s
  | .groupNameDuplicate s => some s
  | _ => none

/-- An error in a pattern, with the place it points at. -/
structure SyntaxError where
  kind : ErrorKind
  span : Span
  deriving Inhabited

/-! ### Pieces of a pattern -/

/-- A character written in a pattern. `hexByte` tells whether it was written `\xNN`, which names a
byte where Unicode is off. -/
structure Literal where
  span : Span
  c : Char
  hexByte : Bool := false
  deriving Inhabited

/-- The assertions a pattern may write. -/
inductive AssertionKind where
  | startLine
  | endLine
  | startText
  | endText
  | wordBoundary
  | notWordBoundary
  | wordBoundaryStart
  | wordBoundaryEnd
  | wordBoundaryStartAngle
  | wordBoundaryEndAngle
  | wordBoundaryStartHalf
  | wordBoundaryEndHalf
  deriving Inhabited, DecidableEq, Repr

/-- The classes `\d`, `\s` and `\w`. -/
inductive PerlKind where
  | digit
  | space
  | word
  deriving Inhabited, DecidableEq, Repr

/-- The classes written `[:name:]` inside brackets. -/
inductive AsciiKind where
  | alnum
  | alpha
  | ascii
  | blank
  | cntrl
  | digit
  | graph
  | lower
  | print
  | punct
  | space
  | upper
  | word
  | xdigit
  deriving Inhabited, DecidableEq, Repr

/-- The class named by `[:name:]`. -/
def AsciiKind.ofName? : String → Option AsciiKind
  | "alnum" => some .alnum
  | "alpha" => some .alpha
  | "ascii" => some .ascii
  | "blank" => some .blank
  | "cntrl" => some .cntrl
  | "digit" => some .digit
  | "graph" => some .graph
  | "lower" => some .lower
  | "print" => some .print
  | "punct" => some .punct
  | "space" => some .space
  | "upper" => some .upper
  | "word" => some .word
  | "xdigit" => some .xdigit
  | _ => none

/-- How a Unicode class is named: `\pL`, `\p{Name}`, or `\p{name=value}` (`name!=value` when
`notEqual`). -/
inductive UnicodeKind where
  | oneLetter (c : Char)
  | named (name : String)
  | namedValue (notEqual : Bool) (name value : String)
  deriving Inhabited

/-- The flags a group may set. -/
inductive Flag where
  | caseInsensitive
  | multiLine
  | dotMatchesNewLine
  | swapGreed
  | unicode
  | crlf
  | ignoreWhitespace
  deriving Inhabited, DecidableEq, Repr

/-- An item of a flag group: a flag, or the `-` that clears the flags after it. -/
inductive FlagsItem where
  | negation
  | flag (f : Flag)
  deriving Inhabited, DecidableEq

/-- The operators between bracketed sets: `&&`, `--` and `~~`. -/
inductive ClassSetOp where
  | intersection
  | difference
  | symmetricDifference
  deriving Inhabited, DecidableEq

mutual

/-- An item of a bracketed class. -/
inductive ClassSetItem where
  | empty (span : Span)
  | literal (lit : Literal)
  | range (span : Span) (lo hi : Literal)
  | ascii (span : Span) (kind : AsciiKind) (negated : Bool)
  | unicode (span : Span) (kind : UnicodeKind) (negated : Bool)
  | perl (span : Span) (kind : PerlKind) (negated : Bool)
  | bracketed (span : Span) (negated : Bool) (set : ClassSet)
  | union (span : Span) (items : List ClassSetItem)

/-- The contents of a bracketed class: an item, or an operator between two sets. -/
inductive ClassSet where
  | item (i : ClassSetItem)
  | binaryOp (span : Span) (op : ClassSetOp) (lhs rhs : ClassSet)

end

instance : Inhabited ClassSetItem := ⟨.empty default⟩
instance : Inhabited ClassSet := ⟨.item default⟩

/-- Where an item of a class was written. -/
def ClassSetItem.span : ClassSetItem → Span
  | .empty s => s
  | .literal lit => lit.span
  | .range s _ _ => s
  | .ascii s _ _ => s
  | .unicode s _ _ => s
  | .perl s _ _ => s
  | .bracketed s _ _ => s
  | .union s _ => s

/-- Where a class set was written. -/
def ClassSet.span : ClassSet → Span
  | .item i => i.span
  | .binaryOp s _ _ _ => s

/-- How often a repeated piece may occur. -/
inductive RepetitionKind where
  | zeroOrOne
  | zeroOrMore
  | oneOrMore
  | exactly (n : Nat)
  | atLeast (n : Nat)
  | bounded (m n : Nat)
  deriving Inhabited

/-- The kinds of group. -/
inductive GroupKind where
  | captureIndex (index : Nat)
  | captureName (name : String) (index : Nat)
  | nonCapturing (flags : List FlagsItem)
  deriving Inhabited

/-- A pattern. -/
inductive Ast where
  | empty (span : Span)
  | flags (span : Span) (items : List FlagsItem)
  | literal (lit : Literal)
  | dot (span : Span)
  | assertion (span : Span) (kind : AssertionKind)
  | unicodeClass (span : Span) (kind : UnicodeKind) (negated : Bool)
  | perlClass (span : Span) (kind : PerlKind) (negated : Bool)
  | bracketed (span : Span) (negated : Bool) (set : ClassSet)
  | repetition (span : Span) (kind : RepetitionKind) (greedy : Bool) (sub : Ast)
  | group (span : Span) (kind : GroupKind) (sub : Ast)
  | alternation (span : Span) (subs : List Ast)
  | concat (span : Span) (subs : List Ast)

instance : Inhabited Ast := ⟨.empty default⟩

/-- Where a piece of a pattern was written. -/
def Ast.span : Ast → Span
  | .empty s => s
  | .flags s _ => s
  | .literal lit => lit.span
  | .dot s => s
  | .assertion s _ => s
  | .unicodeClass s _ _ => s
  | .perlClass s _ _ => s
  | .bracketed s _ _ => s
  | .repetition s _ _ _ => s
  | .group s _ _ => s
  | .alternation s _ => s
  | .concat s _ => s

end PostRules.Regex
