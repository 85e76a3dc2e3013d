import PostRules.Regex.CharSet
import PostRules.Regex.Ast
import PostRules.Regex.Tables.Category
import PostRules.Regex.Tables.Script
import PostRules.Regex.Tables.ScriptExtension
import PostRules.Regex.Tables.Binary

/-!
# Unicode classes by name

`\p{...}` names a class of code points: a binary property (`Alphabetic`, `Emoji`), a general
category (`Lu`, `Letter`), or a script (`Greek`, `Han`), in that order of preference; or, written
`name=value`, a category, script or script extension by property. Names are compared loosely:
case, blanks, `_`, `-` and a leading `is` do not matter.

A name that is a binary property's, a category's or a script's is found; `cf`, `sc` and `lc`
stand for the categories `Format`, `Currency_Symbol` and `Cased_Letter` rather than the
properties they also abbreviate. `Any`, `Assigned` and `ASCII` are categories too.

## Contents

* `normalizeName`: the loose form of a name.
* `ClassQuery`, `ClassQuery.resolve`: the class a `\p` names, or why there is none.
* `perlDigit`, `perlSpace`, `perlWord`: the sets of `\d`, `\s` and `\w`.
* `asciiClass`: the sets of `[:name:]`.
* `isWhiteSpace`, `isAlphabetic`, `isAlphanumeric`, `isWordChar`: tests on characters.
-/

namespace PostRules.Regex

open Tables

/-- Whether a character is `i` or `I`, `s` or `S`: the two of a leading `is`. -/
def isLetterI (c : Char) : Bool := c == 'i' || c == 'I'

/-- Whether a character is `s` or `S`. -/
def isLetterS (c : Char) : Bool := c == 's' || c == 'S'

/-- The loose form of a name: a leading `is` dropped, blanks, `_` and `-` dropped, letters in lower
case, characters beyond ASCII dropped. `isc` stays `isc`, since it names a category. -/
def normalizeName (x : String) : String :=
  let cs := x.toList
  let startsWithIs := match cs with
    | a :: b :: _ => isLetterI a && isLetterS b
    | _ => false
  let body := if startsWithIs then cs.drop 2 else cs
  let kept := body.filter fun c => c != ' ' && c != '_' && c != '-' && c.toNat ≤ 0x7F
  let lowered := String.ofList (kept.map Char.toLower)
  if startsWithIs && lowered == "c" then "isc" else lowered

/-- The table one of whose names is `norm`. -/
def findTable (tables : List PropertyTable) (norm : String) : Option PropertyTable :=
  tables.find? (·.aliases.contains norm)

/-- The code points of a table. -/
def Tables.PropertyTable.set (t : PropertyTable) : CharSet := ⟨decodeRanges t.ranges⟩

/-- The set of a table named exactly `name`, empty if there is none. -/
def tableSet (tables : List PropertyTable) (name : String) : CharSet :=
  match tables.find? (·.name == name) with
  | some t => t.set
  | none => CharSet.empty

/-! ### The classes of `\d`, `\s` and `\w` -/

/-- The decimal digits. -/
def perlDigit : CharSet := tableSet categories "Decimal_Number"

/-- The white space characters. -/
def perlSpace : CharSet := tableSet binaryProperties "White_Space"

/-- The word characters: alphabetic, marks, decimal digits, connector punctuation and the
joiners. -/
def perlWord : CharSet :=
  CharSet.unionAll [tableSet binaryProperties "Alphabetic", tableSet categories "Mark",
    tableSet categories "Decimal_Number", tableSet categories "Connector_Punctuation",
    tableSet binaryProperties "Join_Control"]

/-- The alphabetic characters. -/
def alphabeticSet : CharSet := tableSet binaryProperties "Alphabetic"

/-- The alphabetic and numeric characters. -/
def alphanumericSet : CharSet := CharSet.union alphabeticSet (tableSet categories "Number")

/-- Whether a character is white space. -/
def isWhiteSpace (c : Char) : Bool := perlSpace.contains c.toNat

/-- Whether a character is alphabetic. -/
def isAlphabetic (c : Char) : Bool := alphabeticSet.contains c.toNat

/-- Whether a character is alphabetic or numeric. -/
def isAlphanumeric (c : Char) : Bool := alphanumericSet.contains c.toNat

/-- Whether a character is a word character. -/
def isWordChar (c : Char) : Bool := perlWord.contains c.toNat

/-- Whether a character is an ASCII word character. -/
def isAsciiWordChar (c : Char) : Bool :=
  c.isAlphanum || c == '_'

/-! ### The classes of `[:name:]` -/

/-- The ranges of an ASCII class. -/
def asciiRanges : AsciiKind → List (Nat × Nat)
  | .alnum => [(0x30, 0x39), (0x41, 0x5A), (0x61, 0x7A)]
  | .alpha => [(0x41, 0x5A), (0x61, 0x7A)]
  | .ascii => [(0x00, 0x7F)]
  | .blank => [(0x09, 0x09), (0x20, 0x20)]
  | .cntrl => [(0x00, 0x1F), (0x7F, 0x7F)]
  | .digit => [(0x30, 0x39)]
  | .graph => [(0x21, 0x7E)]
  | .lower => [(0x61, 0x7A)]
  | .print => [(0x20, 0x7E)]
  | .punct => [(0x21, 0x2F), (0x3A, 0x40), (0x5B, 0x60), (0x7B, 0x7E)]
  | .space => [(0x09, 0x0D), (0x20, 0x20)]
  | .upper => [(0x41, 0x5A)]
  | .word => [(0x30, 0x39), (0x41, 0x5A), (0x5F, 0x5F), (0x61, 0x7A)]
  | .xdigit => [(0x30, 0x39), (0x41, 0x46), (0x61, 0x66)]

/-- The set of an ASCII class. -/
def asciiClass (k : AsciiKind) : CharSet := CharSet.ofRanges (asciiRanges k)

/-! ### Resolving names -/

/-- What a `\p` asks for. -/
inductive ClassQuery where
  /-- `\pL`: one letter. -/
  | oneLetter (c : Char)
  /-- `\p{Name}`. -/
  | binary (name : String)
  /-- `\p{name=value}`. -/
  | byValue (name value : String)

/-- Why a `\p` names no class. -/
inductive PropertyError where
  | propertyNotFound
  | propertyValueNotFound
  deriving DecidableEq, Repr

/-- The category named `norm` (in loose form), with the three extra categories. -/
def categorySet? (norm : String) : Option CharSet :=
  if norm == "any" then some CharSet.full
  else if norm == "assigned" then some (tableSet categories "Unassigned").negate
  else if norm == "ascii" then some (CharSet.ofRanges [(0, 0x7F)])
  else (findTable categories norm).map Tables.PropertyTable.set

/-- The class a name stands for on its own. -/
def binaryClass (name : String) : Except PropertyError CharSet :=
  let norm := normalizeName name
  let asProperty :=
    if norm == "cf" || norm == "sc" || norm == "lc" then none
    else findTable binaryProperties norm
  match asProperty with
  | some t => .ok t.set
  | none =>
    match categorySet? norm with
    | some s => .ok s
    | none =>
      match findTable scripts norm with
      | some t => .ok t.set
      | none => .error .propertyNotFound

/-- The class a property and value stand for. -/
def valueClass (name value : String) : Except PropertyError CharSet :=
  let prop := normalizeName name
  let v := normalizeName value
  if prop == "gc" || prop == "generalcategory" then
    match categorySet? v with
    | some s => .ok s
    | none => .error .propertyValueNotFound
  else if prop == "sc" || prop == "script" then
    match findTable scripts v with
    | some t => .ok t.set
    | none => .error .propertyValueNotFound
  else if prop == "scx" || prop == "scriptextensions" then
    match findTable scriptExtensions v with
    | some t => .ok t.set
    | none => .error .propertyValueNotFound
  else .error .propertyNotFound

/-- The class a `\p` names, or why there is none. -/
def ClassQuery.resolve : ClassQuery → Except PropertyError CharSet
  | .oneLetter c => binaryClass (String.singleton c)
  | .binary name => binaryClass name
  | .byValue name value => valueClass name value

end PostRules.Regex
