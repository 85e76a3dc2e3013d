import PostRules.Yaml.Value
import PostRules.Text.Trim

/-!
# The configuration document

The document holds the credentials for the platform, how the timeline is fetched, an optional
SOCKS5 proxy, whether unknown leaf kinds are tolerated, and the rule: either `Rule`, a single
rule, or `Rules`, a rule that may name other rule sources.

## Contents

* `Credentials.isConfigured`: the four user-context keys are all present and not empty.
* `Proxy.socks5Url`: the proxy address, when both a host that is not blank and a port are set.
* `RuleSection.entry`: `Rules` when it holds anything, else `Rule` when it is not null.
* `AppConfig.applyEnv`, `AppConfig.validate`.
-/

namespace PostRules

open Yaml

/-- The credentials for the platform. -/
structure Credentials where
  bearerToken : Option String := none
  consumerKey : Option String := none
  consumerSecret : Option String := none
  accessToken : Option String := none
  accessTokenSecret : Option String := none
  deriving Inhabited, Repr

/-- Whether a credential is present and not empty. -/
def credentialSet : Option String → Bool
  | some s => !s.isEmpty
  | none => false

/-- Whether the four keys of the user context are all set. -/
def Credentials.isConfigured (c : Credentials) : Bool :=
  credentialSet c.consumerKey && credentialSet c.consumerSecret &&
    credentialSet c.accessToken && credentialSet c.accessTokenSecret

/-- The names of the environment variables that override the credentials, in the order of the
credentials' fields. -/
def credentialVariables : List String :=
  ["BEARER_TOKEN", "CONSUMER_KEY", "CONSUMER_SECRET", "ACCESS_TOKEN", "ACCESS_TOKEN_SECRET"]

/-- The proxy to reach the platform through. -/
structure Proxy where
  host : Option String := none
  port : Option Nat := none
  deriving Inhabited, Repr

/-- The address of the SOCKS5 proxy, when a host that is not blank and a port are both set. -/
def Proxy.socks5Url (p : Proxy) : Option String := do
  let host ← p.host
  if (Text.trim host).isEmpty then none
  let port ← p.port
  pure ("socks5://" ++ Text.trim host ++ ":" ++ toString port)

/-- The two ways a document may give its rule. -/
structure RuleSection where
  rule : Value := .null
  rules : Value := .null
  deriving Inhabited

/-- Which of the two ways a document uses. -/
inductive RuleEntry where
  /-- A single rule; references are not followed. -/
  | rule (v : Value)
  /-- A rule whose references name other rule sources. -/
  | rules (v : Value)
  deriving Inhabited

/-- Whether a value holds nothing: null, or an empty string, list or mapping. -/
def Yaml.Value.isBlank : Value → Bool
  | .null => true
  | .string s => s.isEmpty
  | .sequence items => items.isEmpty
  | .mapping es => es.isEmpty
  | _ => false

/-- The rule a section gives: `Rules` wins when it holds anything. -/
def RuleSection.entry (s : RuleSection) : Option RuleEntry :=
  if !s.rules.isBlank then some (.rules s.rules)
  else if !s.rule.untag.isNull then some (.rule s.rule)
  else none

/-- The range the page size must lie in. -/
def pageSizes : Nat × Nat := (5, 100)

/-- The configuration document. -/
structure AppConfig where
  credentials : Credentials := {}
  waitOnRateLimit : Bool := false
  maxResults : Nat := 10
  proxy : Proxy := {}
  rules : RuleSection := {}
  permissive : Bool := false
  /-- The directory the document was read from; rule sources are found relative to it. -/
  baseDir : String := ""
  deriving Inhabited

namespace AppConfig

/-- The credentials with those given in the environment put over them; empty values are
ignored. -/
def applyEnv (c : AppConfig) (env : List (String × String)) : AppConfig :=
  let given := fun (name : String) (old : Option String) =>
    match env.lookup name with
    | some v => if v.isEmpty then old else some v
    | none => old
  let cr := c.credentials
  { c with credentials :=
    { bearerToken := given "BEARER_TOKEN" cr.bearerToken
      consumerKey := given "CONSUMER_KEY" cr.consumerKey
      consumerSecret := given "CONSUMER_SECRET" cr.consumerSecret
      accessToken := given "ACCESS_TOKEN" cr.accessToken
      accessTokenSecret := given "ACCESS_TOKEN_SECRET" cr.accessTokenSecret } }

/-- Checks the document: the page size must lie within its range. -/
def validate (c : AppConfig) : Except String Unit :=
  if pageSizes.1 ≤ c.maxResults && c.maxResults ≤ pageSizes.2 then .ok ()
  else .error ("MaxResults.Tweets must be within " ++ toString pageSizes.1 ++ "..=" ++
    toString pageSizes.2 ++ ", got " ++ toString c.maxResults)

end AppConfig

end PostRules
