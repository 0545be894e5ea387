import TupleStore.Entity.Basic
import TupleStore.Sample.Types

/-!
# Sample entities

The sample types as entities, and `Kind`, which names each of them.
-/

namespace TupleStore.Sample

open Codec

abbrev entityOf {α Id : Type} (space : String) (idFields : List String) (record : Record α)
    (idCodec : Codec Id) (id : α → Id) (version? : α → Option Value := fun _ => none) :
    Entity α where
  Id := Id
  space := space
  idFields := idFields
  fields := record.fields.names
  codec := record.codec
  idCodec := idCodec
  id := id
  version? := version?

instance : Entity User := entityOf "users" ["id"] userRecord uint64 User.id

instance : Entity Book := entityOf "book" ["id"] bookRecord (option uint64) Book.id

instance : Entity Translation :=
  entityOf "translations" ["articleId", "lang"] translationRecord (pair uint64 text)
    (fun entity => (entity.articleId, entity.locale))
    (fun entity => some (uint32.write entity.revision))

instance : Entity Comment where
  Id := CommentKey
  space := "comment"
  idFields := ["post", "seq"]
  fields := ["post", "seq", "body"]
  codec :=
    let codec := commentFlattened.codec
    { write := fun comment => codec.write (comment.key, comment.body, ())
      read := fun stored => (fun (key, body, ()) => ⟨key, body⟩) <$> codec.read stored }
  idCodec := commentKeyRecord.codec
  id := Comment.key

instance : Entity Rating where
  Id := MapId
  space := "ratings"
  idFields := ["user", "book"]
  fields := ["user", "book", "stars"]
  codec :=
    let codec := ratingFlattened.codec
    { write := fun rating => codec.write (rating.key, rating.stars, ())
      read := fun stored => (fun (key, stars, ()) => ⟨key, stars⟩) <$> codec.read stored }
  idCodec := MapId.codec
  id := Rating.key

instance : Entity Post := entityOf "posts" ["id"] postRecord uint64 Post.id

instance : Entity Schedule := entityOf "schedule" ["name"] scheduleRecord text Schedule.name

instance : Entity Counter := entityOf "counter" ["name"] counterRecord text Counter.name

instance : Entity Note := entityOf "notes" ["id"] noteRecord uint64 Note.id

instance : Entity Gauge :=
  entityOf "gauge" ["AT_POINT"] gaugeRecord double Gauge.atPoint
    (fun gauge => some ((option single).write gauge.lastRev))

instance : Entity Bag := entityOf "bag" ["id"] bagRecord (list uint64) Bag.id

instance : Entity Loose := entityOf "loose" ["a", "b", "c"] looseRecord value Loose.a

instance : Entity Any := entityOf "any" ["id"] anyRecord value Any.id

instance : Entity Orphan := entityOf "orphans" [] orphanRecord text Orphan.name

/-! ## Kinds -/

inductive Kind where
  | user
  | book
  | translation
  | comment
  | rating
  | post
  | schedule
  | counter
  | note
  | gauge
  | bag
  | loose
  | any
  | orphan
  deriving DecidableEq, Repr

namespace Kind

def all : List Kind :=
  [.user, .book, .translation, .comment, .rating, .post, .schedule, .counter, .note, .gauge,
    .bag, .loose, .any, .orphan]

def name : Kind → String
  | .user => "User"
  | .book => "Book"
  | .translation => "Translation"
  | .comment => "Comment"
  | .rating => "Rating"
  | .post => "Post"
  | .schedule => "Schedule"
  | .counter => "Counter"
  | .note => "Note"
  | .gauge => "Gauge"
  | .bag => "Bag"
  | .loose => "Loose"
  | .any => "Any"
  | .orphan => "Orphan"

def ofName? (name : String) : Option Kind := all.find? fun kind => kind.name == name

abbrev Carrier : Kind → Type
  | .user => User
  | .book => Book
  | .translation => Translation
  | .comment => Comment
  | .rating => Rating
  | .post => Post
  | .schedule => Schedule
  | .counter => Counter
  | .note => Note
  | .gauge => Gauge
  | .bag => Bag
  | .loose => Loose
  | .any => Any
  | .orphan => Orphan

instance entity : (kind : Kind) → Entity kind.Carrier
  | .user => inferInstanceAs (Entity User)
  | .book => inferInstanceAs (Entity Book)
  | .translation => inferInstanceAs (Entity Translation)
  | .comment => inferInstanceAs (Entity Comment)
  | .rating => inferInstanceAs (Entity Rating)
  | .post => inferInstanceAs (Entity Post)
  | .schedule => inferInstanceAs (Entity Schedule)
  | .counter => inferInstanceAs (Entity Counter)
  | .note => inferInstanceAs (Entity Note)
  | .gauge => inferInstanceAs (Entity Gauge)
  | .bag => inferInstanceAs (Entity Bag)
  | .loose => inferInstanceAs (Entity Loose)
  | .any => inferInstanceAs (Entity Any)
  | .orphan => inferInstanceAs (Entity Orphan)

end Kind

end TupleStore.Sample
