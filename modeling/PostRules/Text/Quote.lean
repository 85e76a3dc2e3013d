import PostRules.Unicode.GraphemeExtend
import PostRules.Unicode.Unprintable

/-!
# Quoted text in messages

Messages show a text in double quotes, with escapes for what would not show or would mislead:
`\t`, `\r`, `\n`, `\0`, `\\` and `\"` for those characters, and `\u{hex}` (lower-case hex
digits, no leading zeros) for grapheme extenders and for characters shown as escapes.
Everything else stands for itself.
-/

namespace PostRules.Text

/-- The lower-case hexadecimal digits of a number, without leading zeros. -/
def hexLower (n : Nat) : String :=
  String.ofList (Nat.toDigits 16 n)

/-- The text standing for one character inside a quoted text. -/
def escapeChar (c : Char) : String :=
  match c with
  | '\x00' => "\\0"
  | '\t' => "\\t"
  | '\r' => "\\r"
  | '\n' => "\\n"
  | '\\' => "\\\\"
  | '"' => "\\\""
  | _ =>
    if Unicode.inRanges Unicode.graphemeExtendRanges c.toNat ||
        Unicode.inRanges Unicode.unprintableRanges c.toNat then
      "\\u\x7b" ++ hexLower c.toNat ++ "\x7d"
    else String.singleton c

/-- A text in double quotes, escaped for a message. -/
def quote (s : String) : String :=
  "\"" ++ String.join (s.toList.map escapeChar) ++ "\""

end PostRules.Text
