import PostRules.Yaml.Value

/-!
# The debugging form of YAML values

Each kind of value is written as its name with its contents: `Null`, `Bool(true)`,
`Number(1.5)`, `String("text")` with the string quoted, `Sequence [..]`, `Mapping {k: v, ..}`,
and `TaggedValue { tag: !name, value: .. }`. A mapping's key that is a boolean, a number or a
string is written plainly, as `true`, `1` or `"k"`; other keys take their full form.
-/

namespace PostRules.Yaml

namespace Value

mutual

/-- The debugging form of a value. -/
def debug : Value → String
  | .null => "Null"
  | .bool b => "Bool(" ++ toString b ++ ")"
  | .number n => "Number(" ++ n.text ++ ")"
  | .string s => "String(" ++ Text.quote s ++ ")"
  | .sequence items => "Sequence [" ++ debugItems items ++ "]"
  | .mapping es => "Mapping \x7b" ++ debugEntries es ++ "\x7d"
  | .tagged t v => "TaggedValue \x7b tag: " ++ tagText t ++ ", value: " ++ debug v ++ " \x7d"

/-- The debugging forms of values, separated by commas. -/
def debugItems : List Value → String
  | [] => ""
  | [v] => debug v
  | v :: vs => debug v ++ ", " ++ debugItems vs

/-- The debugging forms of a mapping's entries, separated by commas. A key that is a boolean,
a number or a string is written plainly. -/
def debugEntries : List (Value × Value) → String
  | [] => ""
  | (k, v) :: es =>
    let key := match k with
      | .bool b => toString b
      | .number n => n.text
      | .string s => Text.quote s
      | k => debug k
    key ++ ": " ++ debug v ++ (if es.isEmpty then "" else ", " ++ debugEntries es)

end

end Value

end PostRules.Yaml
