import PostRules.Config.Basic
import PostRules.Yaml.Decode

/-!
# Reading the configuration document

The document is a mapping. `WaitOnRateLimit` and `Permissive` are booleans, `MaxResults` holds
the page size `Tweets` (an unsigned 32-bit integer, 10 when missing) and `Proxy` holds `Host`
and `Port`. Every other key is kept aside as written; when the mapping has been read, the five
credentials are taken from what was kept, each a string or null, and then `Rule` and `Rules`,
each any value without two equal keys in one mapping. A field given twice is an error.

A port may be written as a number, as a string of digits with blanks around it, or left empty;
it must fit in 16 bits.

A rule source is a document with `Rule` and `Rules` alone; other keys are ignored.
-/

namespace PostRules

open Yaml

/-- The error for a field given twice. -/
def duplicateField (name : String) : DecodeError :=
  .check ("duplicate field `" ++ name ++ "`")

/-- Reads the page size: an unsigned integer below `2^32`. -/
def readPageSize (path : String) : DecodeM Nat :=
  readNatural path "u32" fun n =>
    if n < Nat.pow 2 32 then .ok n
    else .error (invalidValue ("integer `" ++ toString n ++ "`") "u32")

/-- Reads the `MaxResults` mapping: its page size, 10 when missing. -/
def readMaxResults (depth : Nat) (path : String) : DecodeM Nat :=
  readStruct "MaxResults" depth path (none : Option Nat)
    (fun key valuePath _ s =>
      if key == "Tweets" then
        if s.isSome then throw (duplicateField key) else some <$> readPageSize valuePath
      else do skipNode; pure s)
    (fun s => pure (s.getD 10))

/-- A port written as text: digits with an optional `+`, below `2^16`. -/
def readPortText (s : String) : Option Nat :=
  let ds := match s.toList with
    | '+' :: rest => rest
    | cs => cs
  if ds.isEmpty || !ds.all Char.isDigit then none
  else
    let n := ds.foldl (fun acc c => acc * 10 + (c.toNat - '0'.toNat)) 0
    if n < Nat.pow 2 16 then some n else none

/-- The port a value gives: null or blank text for none, else a number or text below `2^16`. -/
def portOf : Value → Except String (Option Nat)
  | .null => .ok none
  | .number n =>
    match n.toNat? with
    | some p => if p < Nat.pow 2 16 then .ok (some p) else .error ("invalid proxy port: " ++ n.text)
    | none => .error ("invalid proxy port: " ++ n.text)
  | .string s =>
    if (Text.trim s).isEmpty then .ok none
    else match readPortText (Text.trim s) with
      | some p => .ok (some p)
      | none => .error ("invalid proxy port: '" ++ s ++ "'")
  | _ => .error "proxy port must be a number"

/-- Reads the `Proxy` mapping. -/
def readProxy (depth : Nat) (path : String) : DecodeM Proxy :=
  readStruct "ProxyConfig" depth path ((none, none) : Option (Option String) × Option (Option Nat))
    (fun key valuePath d s =>
      let (host, port) := s
      if key == "Host" then
        if host.isSome then throw (duplicateField key)
        else do
          let h ← readOptionalText valuePath
          pure (some h, port)
      else if key == "Port" then
        if port.isSome then throw (duplicateField key)
        else do
          let v ← readAny .checked d valuePath
          match portOf v with
          | .ok p => pure (host, some p)
          | .error t => throw (.check t)
      else do skipNode; pure s)
    (fun s => pure { host := s.1.join, port := s.2.join })

/-- How a value kept aside is named where it does not fit. -/
def keptDescribed : Value → String
  | .null => "unit value"
  | .bool b => (Scalar.bool b).described
  | .number (.nonNeg n) => (Scalar.nonNeg n).described
  | .number (.neg i) => (Scalar.neg i).described
  | .number (.float x) => (Scalar.float x).described
  | .string s => (Scalar.str s).described
  | .sequence _ => "sequence"
  | .mapping _ => "map"
  | .tagged _ _ => "enum"

/-- A credential from a value kept aside: text, or nothing for null. -/
def credentialOf : Value → Except DecodeError (Option String)
  | .null => .ok none
  | .string s => .ok (some s)
  | v => .error (.check (invalidType (keptDescribed v) "a string"))

/-- Stores a credential by its variable's name. -/
def Credentials.store (c : Credentials) (name : String) (v : Option String) : Credentials :=
  if name == "BEARER_TOKEN" then { c with bearerToken := v }
  else if name == "CONSUMER_KEY" then { c with consumerKey := v }
  else if name == "CONSUMER_SECRET" then { c with consumerSecret := v }
  else if name == "ACCESS_TOKEN" then { c with accessToken := v }
  else { c with accessTokenSecret := v }

/-- Takes the credentials from the entries kept aside, in order. -/
def credentialsOf (kept : List (String × Value)) : Except DecodeError Credentials := do
  let step := fun (acc : Credentials × List String) (e : String × Value) => do
    let (c, seen) := acc
    if !credentialVariables.contains e.1 then pure acc
    else if seen.contains e.1 then throw (duplicateField e.1)
    else
      let v ← credentialOf e.2
      pure (c.store e.1 v, e.1 :: seen)
  let (c, _) ← kept.foldlM step ({}, [])
  pure c

mutual

/-- The first key found equal to an earlier key of its mapping, looking into keys, then the key
itself, then values, entry by entry. -/
def firstDuplicate : Value → Option Value
  | .sequence items => firstDuplicateIn items
  | .mapping es => firstDuplicateEntries [] es
  | .tagged _ v => firstDuplicate v
  | _ => none

/-- The first duplicate key within a list of values. -/
def firstDuplicateIn : List Value → Option Value
  | [] => none
  | v :: vs =>
    match firstDuplicate v with
    | some k => some k
    | none => firstDuplicateIn vs

/-- The first duplicate key within a mapping's entries; `seen` holds the keys before them. -/
def firstDuplicateEntries (seen : List Value) : List (Value × Value) → Option Value
  | [] => none
  | (k, v) :: rest =>
    match firstDuplicate k with
    | some d => some d
    | none =>
      if seen.any (Value.beq · k) then some k
      else match firstDuplicate v with
        | some d => some d
        | none => firstDuplicateEntries (k :: seen) rest

end

/-- Takes `Rule` and `Rules` from the entries kept aside. -/
def sectionOf (kept : List (String × Value)) : Except DecodeError RuleSection := do
  let step := fun (acc : RuleSection × List String) (e : String × Value) => do
    let (s, seen) := acc
    if e.1 != "Rule" && e.1 != "Rules" then pure acc
    else if seen.contains e.1 then throw (duplicateField e.1)
    else
      match firstDuplicate e.2 with
      | some k => throw (.check (duplicateKey k))
      | none =>
        let s := if e.1 == "Rule" then { s with rule := e.2 } else { s with rules := e.2 }
        pure (s, e.1 :: seen)
  let (s, _) ← kept.foldlM step ({}, [])
  pure s

/-- The fields of the document read so far, and the entries kept aside. -/
structure ConfigDraft where
  waitOnRateLimit : Option Bool := none
  maxResults : Option Nat := none
  proxy : Option Proxy := none
  permissive : Option Bool := none
  kept : Array (String × Value) := #[]

/-- Lifts a check into a reader. -/
def liftCheck (x : Except DecodeError α) : DecodeM α :=
  match x with
  | .ok a => pure a
  | .error e => throw e

/-- Reads the configuration document's mapping. -/
def readAppConfig : DecodeM AppConfig :=
  readStruct "AppConfig" 128 "." ({} : ConfigDraft)
    (fun key valuePath d s =>
      if key == "WaitOnRateLimit" then
        if s.waitOnRateLimit.isSome then throw (duplicateField key)
        else do pure { s with waitOnRateLimit := some (← readBool valuePath) }
      else if key == "MaxResults" then
        if s.maxResults.isSome then throw (duplicateField key)
        else do pure { s with maxResults := some (← readMaxResults d valuePath) }
      else if key == "Proxy" then
        if s.proxy.isSome then throw (duplicateField key)
        else do pure { s with proxy := some (← readProxy d valuePath) }
      else if key == "Permissive" then
        if s.permissive.isSome then throw (duplicateField key)
        else do pure { s with permissive := some (← readBool valuePath) }
      else do
        let v ← readAny .deferred d valuePath
        pure { s with kept := s.kept.push (key, v) })
    (fun s => do
      let credentials ← liftCheck (credentialsOf s.kept.toList)
      let rules ← liftCheck (sectionOf s.kept.toList)
      pure { credentials, rules
             waitOnRateLimit := s.waitOnRateLimit.getD false
             maxResults := s.maxResults.getD 10
             proxy := s.proxy.getD {}
             permissive := s.permissive.getD false })

/-- Reads the configuration document. -/
def AppConfig.ofYaml (text : String) : Except DecodeError AppConfig :=
  decodeDocument text readAppConfig

/-- Reads a rule source's mapping. -/
def readRuleSection : DecodeM RuleSection :=
  readStruct "RuleSection" 128 "." ((none, none) : Option Value × Option Value)
    (fun key valuePath d s =>
      if key == "Rule" then
        if s.1.isSome then throw (duplicateField key)
        else do pure (some (← readAny .checked d valuePath), s.2)
      else if key == "Rules" then
        if s.2.isSome then throw (duplicateField key)
        else do pure (s.1, some (← readAny .checked d valuePath))
      else do skipNode; pure s)
    (fun s => pure { rule := s.1.getD .null, rules := s.2.getD .null })

/-- Reads a rule source. -/
def RuleSection.ofYaml (text : String) : Except DecodeError RuleSection :=
  decodeDocument text readRuleSection

end PostRules
