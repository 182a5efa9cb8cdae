import PluginAudit.Preparation

/-!
# Demo posts

Posts that are inserted for the time of a run, so that there are pages to
visit.
-/

namespace PluginAudit

open PluginAudit.Text

namespace DemoPosts

def name : String := "demo_posts_creation"

/-- Delete posts in order and give the first failure. -/
def deleteAll : List Nat → Act Unit
  | [] => pure ()
  | id :: rest => fun world =>
      let (outcome, world) := (Act.tryHost fun host => host.deletePost id).runIn world
      -- the others are tried even if this one cannot be deleted
      let (others, world) := (deleteAll rest).runIn world
      match outcome with
      | .ok () => (others, world)
      | .error e => (.error e, world)

/-- Insert posts in order behind those inserted already. -/
def insertAll (inserted : List Nat) : List Post → Act (List Nat)
  | [] => pure inserted
  | post :: rest => fun world =>
      match (Act.askHost fun host => host.insertPost post).runIn world with
      | (.ok id, world) => insertAll (inserted ++ [id]) rest world
      | (.error e, world) =>
          -- what was inserted so far is deleted again
          (.error (.preparation name e.message), ((deleteAll inserted).discard.runIn world).2)

def prepare (posts : List Post) : Preparation := do
  let ids ← insertAll [] posts
  return .of name (deleteAll ids)

/-- A post as an argument of a request. -/
def postToJson (post : Post) : Json :=
  .object [("content", .text post.content), ("post_type", .text post.postType),
    ("status", .text post.status), ("title", .text post.title)]

/-- The post that an argument of a request describes. -/
def postOfJson? (value : Json) : Option Post :=
  match Json.record? ["post_type", "title", "content", "status"] value with
  | some [some (.text postType), some (.text title), some (.text content),
      some (.text status)] => some { postType, title, content, status }
  | _ => none

def postsOfJson : Json → Except Error (List Post)
  | .object members =>
      match Assoc.get? "posts" members with
      | none => .ok []
      | some value =>
          match Json.list? postOfJson? value with
          | some posts => .ok posts
          | none => .error (.preparation name "invalid arguments: posts are not readable")
  | _ => .ok []

/-- Build the preparation that a request asks for. -/
def ofArguments (arguments : Json) : Act Preparation :=
  match postsOfJson arguments with
  | .ok posts => pure (prepare posts)
  | .error e => throw e

def request (arguments : Json) : SharedPreparation := ⟨name, arguments, ofArguments⟩

def shared (posts : List Post) : SharedPreparation :=
  request (.object [("posts", .list (posts.map postToJson))])

end DemoPosts

end PluginAudit
