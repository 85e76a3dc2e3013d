/-!
# Finding text in text

A text contains another when the other's characters occur in it consecutively; every text
contains the empty one.
-/

namespace PostRules.Text

/-- Whether `needle` occurs in `hay` as consecutive characters. -/
def containsText (hay needle : String) : Bool :=
  let n := needle.toList
  let rec go : List Char → Bool
    | [] => n.isEmpty
    | c :: cs => n.isPrefixOf (c :: cs) || go cs
  go hay.toList

end PostRules.Text
