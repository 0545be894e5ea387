import TupleStore.MapId
import TupleStore.Codec.Time

/-!
# Sample entity types

Structures to be stored, one for each shape of key and field, with their records.
-/

namespace TupleStore.Sample

open Codec

structure User where
  id : UInt64
  name : String
  email : Option String
  deriving DecidableEq, Repr

def userRecord : Record User where
  fields := .cons "id" uint64 (.cons "name" text (.cons "email" (option text) .nil))
  toRow user := (user.id, user.name, user.email, ())
  ofRow | (id, name, email, ()) => ⟨id, name, email⟩

/-- A book has a field which is not stored. -/
structure Book where
  id : Option UInt64
  title : String
  publishYear : UInt32
  inPrint : Bool
  cached : Bool := false
  deriving DecidableEq, Repr

def bookRecord : Record Book where
  fields := .cons "id" (option uint64) (.cons "title" text
    (.cons "publishYear" uint32 (.cons "inPrint" bool .nil)))
  toRow book := (book.id, book.title, book.publishYear, book.inPrint, ())
  ofRow | (id, title, publishYear, inPrint, ()) => { id, title, publishYear, inPrint }

structure Translation where
  articleId : UInt64
  locale : String
  text : String
  revision : UInt32
  deriving DecidableEq, Repr

def translationRecord : Record Translation where
  fields := .cons "articleId" uint64 (.cons "lang" text
    (.cons "text" text (.cons "revision" uint32 .nil)))
  toRow entity := (entity.articleId, entity.locale, entity.text, entity.revision, ())
  ofRow | (articleId, locale, text, revision, ()) => ⟨articleId, locale, text, revision⟩

structure CommentKey where
  post : UInt64
  seq : UInt32
  deriving DecidableEq, Repr

def commentKeyRecord : Record CommentKey where
  fields := .cons "post" uint64 (.cons "seq" uint32 .nil)
  toRow key := (key.post, key.seq, ())
  ofRow | (post, seq, ()) => ⟨post, seq⟩

/-- The fields of a comment's key stand among its own. -/
structure Comment where
  key : CommentKey
  body : String
  deriving DecidableEq, Repr

def commentFlattened : Flattened CommentKey (String × Unit) where
  own := .cons "body" text .nil
  writePart := commentKeyRecord.write
  readPart := commentKeyRecord.readNamed

/-- A rating's key is a set of named values among its own fields. -/
structure Rating where
  key : MapId
  stars : UInt8
  deriving DecidableEq, Repr

def ratingFlattened : Flattened MapId (UInt8 × Unit) where
  own := .cons "stars" uint8 .nil
  writePart := MapId.write
  readPart := MapId.readKeyed

structure Address where
  city : String
  zip : Option String
  deriving DecidableEq, Repr

def addressRecord : Record Address where
  fields := .cons "city" text (.cons "zip" (option text) .nil)
  toRow address := (address.city, address.zip, ())
  ofRow | (city, zip, ()) => ⟨city, zip⟩

/-- A post without a rating can be read where the rating is left out. -/
structure Post where
  id : UInt64
  tags : List String
  status : String
  address : Address
  rating : Option Double
  deriving DecidableEq, Repr

def postRecord : Record Post where
  fields := .cons "id" uint64 (.cons "tags" (list text) (.cons "status" text
    (.cons "address" addressRecord.codec (.cons "rating" ((option double).withDefault none) .nil))))
  toRow post := (post.id, post.tags, post.status, post.address, post.rating, ())
  ofRow | (id, tags, status, address, rating, ()) => ⟨id, tags, status, address, rating⟩

structure Schedule where
  name : String
  created : Instant
  day : Date
  starts : TimeOfDay
  length : Duration
  deriving DecidableEq, Repr

def scheduleRecord : Record Schedule where
  fields := .cons "name" text (.cons "created" epochMillis (.cons "day" dateMillis
    (.cons "starts" timeNanos (.cons "length" durationText .nil))))
  toRow entity := (entity.name, entity.created, entity.day, entity.starts, entity.length, ())
  ofRow | (name, created, day, starts, length, ()) => ⟨name, created, day, starts, length⟩

structure Counter where
  name : String
  value : Int64
  deriving DecidableEq, Repr

def counterRecord : Record Counter where
  fields := .cons "name" text (.cons "value" int64 .nil)
  toRow counter := (counter.name, counter.value, ())
  ofRow | (name, value, ()) => ⟨name, value⟩

structure Note where
  id : UInt64
  text : String
  created : Option Bool
  modified : Option Bool
  deriving DecidableEq, Repr

def noteRecord : Record Note where
  fields := .cons "id" uint64 (.cons "text" text
    (.cons "created" (option bool) (.cons "modified" (option bool) .nil)))
  toRow note := (note.id, note.text, note.created, note.modified, ())
  ofRow | (id, text, created, modified, ()) => ⟨id, text, created, modified⟩

structure Gauge where
  atPoint : Double
  lastRev : Option Single
  deriving DecidableEq, Repr

def gaugeRecord : Record Gauge where
  fields := .cons "AT_POINT" double (.cons "LAST_REV" (option single) .nil)
  toRow gauge := (gauge.atPoint, gauge.lastRev, ())
  ofRow | (atPoint, lastRev, ()) => ⟨atPoint, lastRev⟩

/-- The id of a bag is itself an array. -/
structure Bag where
  id : List UInt64
  label : Option String
  deriving DecidableEq, Repr

def bagRecord : Record Bag where
  fields := .cons "id" (list uint64) (.cons "label" (option text) .nil)
  toRow bag := (bag.id, bag.label, ())
  ofRow | (id, label, ()) => ⟨id, label⟩

structure Loose where
  a : Value
  b : Value
  c : Value
  deriving DecidableEq, Repr

def looseRecord : Record Loose where
  fields := .cons "a" value (.cons "b" value (.cons "c" value .nil))
  toRow loose := (loose.a, loose.b, loose.c, ())
  ofRow | (a, b, c, ()) => ⟨a, b, c⟩

structure Any where
  id : Value
  data : Value
  deriving DecidableEq, Repr

def anyRecord : Record Any where
  fields := .cons "id" value (.cons "data" value .nil)
  toRow entity := (entity.id, entity.data, ())
  ofRow | (id, data, ()) => ⟨id, data⟩

structure Orphan where
  name : String
  deriving DecidableEq, Repr

def orphanRecord : Record Orphan where
  fields := .cons "name" text .nil
  toRow orphan := (orphan.name, ())
  ofRow | (name, ()) => ⟨name⟩

end TupleStore.Sample
