import PostRules.Rule.Kind
import PostRules.Rule.Operator
import PostRules.Post.Basic
import PostRules.Regex.Basic
import PostRules.Text.Search

/-!
# Leaves of a rule

A leaf tests one facet of a post. A missing facet never matches, except where a leaf asks for
absence: the equality leaves with no value match posts where the field is missing.

* `attachment`: any media or poll, or a given media key.
* `authorId`, `conversationId`, `lang`, `source`, `geo`: the field (or the place id) equals the
  value, both possibly absent.
* `createdAt`: the post's time compares with a given instant.
* `emoji`, `keyword`: the text contains the value.
* `hashtag`, `mention`, `url`: any, or one equal to the value; a mention matches by user name or
  id, a link by its short, expanded or shown form.
* `count`: a metric compares with a threshold; metrics beyond `2^63 - 1` count as that.
* `regex`: the pattern matches somewhere in the text.
* `sensitive`: the post is marked possibly sensitive.

A leaf is written `Label[param]`, with empty brackets for an absent parameter.
-/

namespace PostRules

/-- The counts of a post that a leaf may compare. -/
inductive Metric where
  | likes
  | replies
  | reposts
  | quotes
  deriving DecidableEq, Repr, Inhabited

namespace Metric

/-- The kind of leaf that compares a metric. -/
def kind : Metric → LeafKind
  | .likes => .likeCount
  | .replies => .replyCount
  | .reposts => .retweetCount
  | .quotes => .quoteCount

/-- The metric of a post, if it carries metrics. -/
def read (m : Metric) (p : Post) : Option Nat :=
  p.metrics.map fun ms => match m with
    | .likes => ms.likes
    | .replies => ms.replies
    | .reposts => ms.reposts
    | .quotes => ms.quotes

end Metric

/-- The largest count a leaf compares; larger counts are taken as this. -/
def countCeiling : Nat := Nat.pow 2 63 - 1

/-- A test of one facet of a post. -/
inductive Leaf where
  | attachment (key : Option String)
  | authorId (id : Option String)
  | conversationId (id : Option String)
  | createdAt (at_ : Time.Instant) (op : Comparison)
  | emoji (needle : String)
  | geo (place : Option String)
  | hashtag (tag : Option String)
  | keyword (needle : String)
  | lang (lang : Option String)
  | count (metric : Metric) (threshold : Int) (op : Comparison)
  | mention (who : Option String)
  | regex (pattern : Regex)
  | sensitive
  | source (source : Option String)
  | url (url : Option String)
  deriving Inhabited

namespace Leaf

/-- The kind of a leaf. -/
def kind : Leaf → LeafKind
  | .attachment _ => .attachment
  | .authorId _ => .authorId
  | .conversationId _ => .conversationId
  | .createdAt _ _ => .createdAt
  | .emoji _ => .emoji
  | .geo _ => .geo
  | .hashtag _ => .hashTag
  | .keyword _ => .keyword
  | .lang _ => .lang
  | .count m _ _ => m.kind
  | .mention _ => .mention
  | .regex _ => .regex
  | .sensitive => .sensitive
  | .source _ => .source
  | .url _ => .url

/-- Whether a post passes a leaf. -/
def evaluate : Leaf → Post → Bool
  | .attachment none, p =>
    match p.attachments with
    | some a => !a.mediaKeys.isEmpty || !a.pollIds.isEmpty
    | none => false
  | .attachment (some key), p => p.mediaKeys.contains key
  | .authorId id, p => p.authorId == id
  | .conversationId id, p => p.conversationId == id
  | .createdAt at_ op, p =>
    match p.createdAt with
    | some t => op.test t at_
    | none => false
  | .emoji needle, p => Text.containsText p.text needle
  | .keyword needle, p => Text.containsText p.text needle
  | .geo place, p => p.placeId == place
  | .hashtag none, p => !p.hashtags.isEmpty
  | .hashtag (some tag), p => p.hashtags.any (·.tag == tag)
  | .lang code, p => p.lang == code
  | .count m threshold op, p =>
    match m.read p with
    | some n => op.test ((min n countCeiling : Nat) : Int) threshold
    | none => false
  | .mention none, p => !p.mentions.isEmpty
  | .mention (some who), p => p.mentions.any fun m => m.username == who || m.id == some who
  | .regex r, p => r.isMatch p.text
  | .sensitive, p => p.possiblySensitive
  | .source s, p => p.source == s
  | .url none, p => !p.urls.isEmpty
  | .url (some u), p =>
    p.urls.any fun l => l.url == u || l.expandedUrl == some u || l.displayUrl == some u

/-- The parameter of a leaf as written between its brackets. -/
def param : Leaf → String
  | .attachment v | .authorId v | .conversationId v | .geo v | .hashtag v | .lang v
  | .mention v | .source v | .url v => v.getD ""
  | .emoji v | .keyword v => v
  | .createdAt at_ op => at_.rfc3339 false ++ "," ++ op.word
  | .count _ threshold op => toString threshold ++ "," ++ op.word
  | .regex r => r.source
  | .sensitive => ""

/-- The canonical text of a leaf: `Label[param]`. -/
def text (l : Leaf) : String :=
  l.kind.label ++ "[" ++ l.param ++ "]"

end Leaf

end PostRules
