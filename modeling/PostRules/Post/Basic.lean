import PostRules.Time.Instant

/-!
# Posts

A post of a timeline: its id and text, and whatever else the platform sent with it. Every part
but the id and the text may be missing; a missing list reads as empty and a missing flag as
false.

## Contents

* `Post` and the records it holds.
* The views rules look at: `hashtags`, `mentions`, `urls`, `mediaKeys`, `placeId`.
-/

namespace PostRules

/-- A hashtag of a post's text, without its `#`. -/
structure Hashtag where
  tag : String
  deriving Inhabited, Repr

/-- A user mentioned in a post's text. -/
structure Mention where
  username : String
  id : Option String := none
  deriving Inhabited, Repr

/-- A link in a post's text: the short form, and the target and shown form when known. -/
structure Link where
  url : String
  expandedUrl : Option String := none
  displayUrl : Option String := none
  deriving Inhabited, Repr

/-- What was found in a post's text. -/
structure Entities where
  hashtags : List Hashtag := []
  mentions : List Mention := []
  urls : List Link := []
  deriving Inhabited, Repr

/-- What is attached to a post. -/
structure Attachments where
  mediaKeys : List String := []
  pollIds : List String := []
  deriving Inhabited, Repr

/-- Where a post was sent from. -/
structure Geo where
  placeId : Option String := none
  deriving Inhabited, Repr

/-- How often a post was liked, answered, reposted and quoted when it was fetched. -/
structure Metrics where
  likes : Nat := 0
  replies : Nat := 0
  reposts : Nat := 0
  quotes : Nat := 0
  deriving Inhabited, Repr

/-- A post of a timeline. -/
structure Post where
  id : String
  text : String
  authorId : Option String := none
  conversationId : Option String := none
  createdAt : Option Time.Instant := none
  lang : Option String := none
  geo : Option Geo := none
  source : Option String := none
  possiblySensitive : Bool := false
  entities : Option Entities := none
  attachments : Option Attachments := none
  metrics : Option Metrics := none
  deriving Inhabited, Repr

namespace Post

/-- The post's hashtags, none when it carries no entities. -/
def hashtags (p : Post) : List Hashtag :=
  (p.entities.map (·.hashtags)).getD []

/-- The post's mentions, none when it carries no entities. -/
def mentions (p : Post) : List Mention :=
  (p.entities.map (·.mentions)).getD []

/-- The post's links, none when it carries no entities. -/
def urls (p : Post) : List Link :=
  (p.entities.map (·.urls)).getD []

/-- The keys of the post's attached media, none when nothing is attached. -/
def mediaKeys (p : Post) : List String :=
  (p.attachments.map (·.mediaKeys)).getD []

/-- The id of the place the post was sent from. -/
def placeId (p : Post) : Option String :=
  p.geo.bind (·.placeId)

end Post

end PostRules
