import PostRules.Post.Basic
import PostRules.Json.Read
import PostRules.Time.Read

/-!
# Reading posts from JSON

A batch of posts is a JSON array of post objects. Fields are read by name, unknown ones are
skipped, and a field given twice is an error. `id` and `text` must be present, as must a
hashtag's `tag`, a mention's `username` and a link's `url`; every other field may be missing or,
where it is optional, `null`. The time a post was created is read leniently: `t` or a space may
stand for `T`, `z` for `Z`, and an offset may omit its colon.
-/

namespace PostRules

open Json

/-- A required text field. -/
def textField (name : String) (store : σ → String → σ) : FieldReader σ :=
  { name, required := true, read := fun s => do pure (store s (← readString)) }

/-- An optional text field, where `null` is nothing. -/
def optionalTextField (name : String) (store : σ → Option String → σ) : FieldReader σ :=
  { name, required := false, read := fun s => do pure (store s (← readOptional readString)) }

/-- A field holding a list of texts. -/
def textListField (name : String) (store : σ → List String → σ) : FieldReader σ :=
  { name, required := false, read := fun s => do pure (store s (← readList readString)) }

/-- A field holding a count. -/
def countField (name : String) (store : σ → Nat → σ) : FieldReader σ :=
  { name, required := false, read := fun s => do pure (store s (← readUnsigned)) }

/-- Reads a hashtag. -/
def readHashtag : ReadM Hashtag :=
  readRecord "struct HashtagEntity" [textField "tag" fun (_ : Hashtag) t => { tag := t }]
    { tag := "" }

/-- Reads a mention. -/
def readMention : ReadM Mention :=
  readRecord "struct MentionEntity"
    [textField "username" fun (m : Mention) t => { m with username := t },
     optionalTextField "id" fun (m : Mention) t => { m with id := t }]
    { username := "" }

/-- Reads a link. -/
def readLink : ReadM Link :=
  readRecord "struct UrlEntity"
    [textField "url" fun (l : Link) t => { l with url := t },
     optionalTextField "expanded_url" fun (l : Link) t => { l with expandedUrl := t },
     optionalTextField "display_url" fun (l : Link) t => { l with displayUrl := t }]
    { url := "" }

/-- Reads the entities of a post. -/
def readEntities : ReadM Entities :=
  readRecord "struct Entities"
    [{ name := "hashtags", required := false,
       read := fun e => do pure { e with hashtags := ← readList readHashtag } },
     { name := "mentions", required := false,
       read := fun e => do pure { e with mentions := ← readList readMention } },
     { name := "urls", required := false,
       read := fun e => do pure { e with urls := ← readList readLink } }]
    {}

/-- Reads the attachments of a post. -/
def readAttachments : ReadM Attachments :=
  readRecord "struct Attachments"
    [textListField "media_keys" fun (a : Attachments) ks => { a with mediaKeys := ks },
     textListField "poll_ids" fun (a : Attachments) ks => { a with pollIds := ks }]
    {}

/-- Reads where a post was sent from. -/
def readGeo : ReadM Geo :=
  readRecord "struct GeoTag" [optionalTextField "place_id" fun (_ : Geo) p => { placeId := p }] {}

/-- Reads the counts of a post. -/
def readMetrics : ReadM Metrics :=
  readRecord "struct PublicMetrics"
    [countField "like_count" fun (m : Metrics) n => { m with likes := n },
     countField "reply_count" fun (m : Metrics) n => { m with replies := n },
     countField "retweet_count" fun (m : Metrics) n => { m with reposts := n },
     countField "quote_count" fun (m : Metrics) n => { m with quotes := n }]
    {}

/-- Reads the time a post was created. -/
def readCreatedAt : ReadM Time.Instant :=
  readStringAs "an RFC 3339 formatted date and time string" fun s =>
    match Time.readLenient s with
    | .ok t => .ok t
    | .error e => .error e.message

/-- A field holding a nested record, where `null` is nothing. -/
def recordField (name : String) (x : ReadM α) (store : Post → Option α → Post) :
    FieldReader Post :=
  { name, required := false, read := fun p => do pure (store p (← readOptional x)) }

/-- The fields of a post. -/
def postFields : List (FieldReader Post) :=
  [textField "id" fun p t => { p with id := t },
   textField "text" fun p t => { p with text := t },
   optionalTextField "author_id" fun p t => { p with authorId := t },
   optionalTextField "conversation_id" fun p t => { p with conversationId := t },
   recordField "created_at" readCreatedAt fun p t => { p with createdAt := t },
   optionalTextField "lang" fun p t => { p with lang := t },
   recordField "geo" readGeo fun p g => { p with geo := g },
   optionalTextField "source" fun p t => { p with source := t },
   { name := "possibly_sensitive", required := false,
     read := fun p => do pure { p with possiblySensitive := ← readBool } },
   recordField "entities" readEntities fun p e => { p with entities := e },
   recordField "attachments" readAttachments fun p a => { p with attachments := a },
   recordField "public_metrics" readMetrics fun p m => { p with metrics := m }]

/-- Reads a post. -/
def readPost : ReadM Post :=
  readRecord "struct Post" postFields { id := "", text := "" }

/-- Reads a batch of posts from JSON text. -/
def Post.parseBatch (text : String) : Except JsonError (List Post) :=
  readAll text (readList readPost)

end PostRules
