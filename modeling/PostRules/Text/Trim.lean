import PostRules.Unicode.WhiteSpace

/-!
# Trimming white space

A text is trimmed by removing the characters with the Unicode property White_Space from both
of its ends.
-/

namespace PostRules.Text

/-- Whether a character is white space in the sense of Unicode. -/
def isWhite (c : Char) : Bool :=
  Unicode.inRanges Unicode.whiteSpaceRanges c.toNat

/-- A text without white space at either end. -/
def trim (s : String) : String :=
  String.ofList ((s.toList.dropWhile isWhite).reverse.dropWhile isWhite).reverse

end PostRules.Text
