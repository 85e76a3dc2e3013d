import PostRules.Unicode.Ranges

/-!
# White space

The characters with the Unicode property White_Space (Unicode 15.0). Trimming text and the class
`\s` of patterns use this set.
-/

namespace PostRules.Unicode

/-- Inclusive code point ranges of White_Space, in increasing order. -/
def whiteSpaceRanges : Array (Nat × Nat) :=
  #[(0x9, 0xD), (0x20, 0x20), (0x85, 0x85), (0xA0, 0xA0), (0x1680, 0x1680), (0x2000, 0x200A),
    (0x2028, 0x2029), (0x202F, 0x202F), (0x205F, 0x205F), (0x3000, 0x3000)]

end PostRules.Unicode
