import PostRules.Text.Distance

/-!
# Leaf kinds

A leaf of a rule tests one thing about a post. Its kind is written in lower case
(`like_count`) and printed in canonical text under a label (`LikeCount`). A kind that is not
known may be close to one that is: the suggestion is the first kind, in the fixed order below,
at the least edit distance from the lower-cased text, provided at most half of the longer word
has to change.
-/

namespace PostRules

/-- What a leaf of a rule tests. -/
inductive LeafKind where
  | attachment
  | authorId
  | conversationId
  | createdAt
  | emoji
  | geo
  | hashTag
  | keyword
  | lang
  | likeCount
  | mention
  | quoteCount
  | regex
  | replyCount
  | retweetCount
  | sensitive
  | source
  | url
  deriving DecidableEq, Repr, Inhabited

namespace LeafKind

/-- Every kind, in the order in which suggestions are searched. -/
def all : List LeafKind :=
  [.attachment, .authorId, .conversationId, .createdAt, .emoji, .geo, .hashTag, .keyword, .lang,
    .likeCount, .mention, .quoteCount, .regex, .replyCount, .retweetCount, .sensitive, .source,
    .url]

/-- The name of a kind as a rule writes it. -/
def name : LeafKind → String
  | .attachment => "attachment"
  | .authorId => "author_id"
  | .conversationId => "conversation_id"
  | .createdAt => "created_at"
  | .emoji => "emoji"
  | .geo => "geo"
  | .hashTag => "hashtag"
  | .keyword => "keyword"
  | .lang => "lang"
  | .likeCount => "like_count"
  | .mention => "mention"
  | .quoteCount => "quote_count"
  | .regex => "regex"
  | .replyCount => "reply_count"
  | .retweetCount => "retweet_count"
  | .sensitive => "sensitive"
  | .source => "source"
  | .url => "url"

/-- The label of a kind in canonical text. -/
def label : LeafKind → String
  | .attachment => "Attachment"
  | .authorId => "AuthorID"
  | .conversationId => "ConversationID"
  | .createdAt => "CreatedAt"
  | .emoji => "Emoji"
  | .geo => "Geo"
  | .hashTag => "HashTag"
  | .keyword => "Keyword"
  | .lang => "Lang"
  | .likeCount => "LikeCount"
  | .mention => "Mention"
  | .quoteCount => "QuoteCount"
  | .regex => "Regex"
  | .replyCount => "ReplyCount"
  | .retweetCount => "RetweetCount"
  | .sensitive => "Sensitive"
  | .source => "Source"
  | .url => "Url"

/-- The kind with exactly this name, case included. -/
def ofName? (s : String) : Option LeafKind :=
  all.find? (·.name == s)

/-- Reads a kind by its exact name, or says which text is not one. -/
def parse (s : String) : Except String LeafKind :=
  match ofName? s with
  | some k => .ok k
  | none => .error ("unknown leaf type: '" ++ s ++ "'")

/-- The first kind of least distance in a list of kinds scored by `score`. -/
def firstNearest (score : LeafKind → Nat) : List LeafKind → Option (LeafKind × Nat)
  | [] => none
  | k :: ks =>
    match firstNearest score ks with
    | some (k', d') => if d' < score k then some (k', d') else some (k, score k)
    | none => some (k, score k)

/-- The kind that an unknown name most likely means, if it is near enough to one. -/
def closest (input : String) : Option LeafKind :=
  let lowered := input.toList.map Char.toLower
  let score := fun (k : LeafKind) => Text.editDistance lowered k.name.toList
  match firstNearest score all with
  | some (k, d) => if d * 2 ≤ max lowered.length k.name.utf8ByteSize then some k else none
  | none => none

end LeafKind

end PostRules
