import PluginAudit.Preparation.DemoPosts
import PluginAudit.Proofs.Effect
import PluginAudit.Proofs.SortedList

/-!
# Demo posts on a site

Demo posts that could all be inserted stand behind the posts of the site, under
the numbers that follow.  Where they could all be deleted, the others are left.
-/

namespace PluginAudit

open PluginAudit.Text

/-- What stands behind a site after further insertions. -/
def Runtime.counting (runtime : Runtime) (insertions : Nat) : Runtime :=
  match runtime with
  | .simulated simulation =>
      .simulated { simulation with insertions := simulation.insertions + insertions }
  | .installed root => .installed root

theorem Runtime.counting_zero (runtime : Runtime) : runtime.counting 0 = runtime := by
  cases runtime <;> rfl

theorem Runtime.counting_counting (runtime : Runtime) (first second : Nat) :
    (runtime.counting first).counting second = runtime.counting (first + second) := by
  cases runtime <;> simp [counting, Nat.add_assoc]

namespace Host

variable {h : Host} {posts : List Post}

/-- Posts with the numbers they get when they are stored one after the other. -/
def numbered (h : Host) (posts : List Post) : List (Nat × StoredPost) :=
  (posts.zipIdx h.nextPost).map fun (post, id) => (id, ⟨h.tablePrefix, post⟩)

/-- A site with further posts. -/
def storing (h : Host) (posts : List Post) : Host :=
  { h with
    posts := h.posts ++ h.numbered posts
    nextPost := h.nextPost + posts.length
    runtime := h.runtime.counting posts.length }

theorem numbered_cons (h : Host) (post : Post) (rest : List Post) :
    h.numbered (post :: rest) =
      (h.nextPost, ⟨h.tablePrefix, post⟩) :: (h.storing [post]).numbered rest := by
  simp [numbered, storing]

theorem nextPost_le_of_mem_numbered {entry : Nat × StoredPost}
    (member : entry ∈ h.numbered posts) : h.nextPost ≤ entry.1 := by
  obtain ⟨⟨post, id⟩, indexed, rfl⟩ := List.mem_map.mp member
  exact List.le_snd_of_mem_zipIdx indexed

theorem exists_mem_numbered {post : Post} (member : post ∈ posts) :
    ∃ id, (id, ⟨h.tablePrefix, post⟩) ∈ h.numbered posts := by
  rw [← List.zipIdx_map_fst h.nextPost posts] at member
  obtain ⟨⟨_, id⟩, indexed, rfl⟩ := List.mem_map.mp member
  exact ⟨id, List.mem_map.mpr ⟨_, indexed, rfl⟩⟩

theorem storing_nil (h : Host) : h.storing [] = h := by
  simp [storing, numbered, Runtime.counting_zero]

theorem storing_cons (h : Host) (post : Post) (rest : List Post) :
    (h.storing [post]).storing rest = h.storing (post :: rest) := by
  simp [storing, numbered, Runtime.counting_counting, Nat.add_assoc, Nat.add_comm 1]

theorem answersRequests_storing (h : Host) (posts : List Post) :
    (h.storing posts).answersRequests = h.answersRequests := by
  simp only [storing, Runtime.counting, answersRequests]
  cases h.runtime <;> rfl

theorem publicPostTypes_storing (h : Host) (posts : List Post) :
    (h.storing posts).publicPostTypes = h.publicPostTypes := by
  simp only [storing, Runtime.counting, publicPostTypes]
  cases h.runtime <;> rfl

/-- On a site whose posts are all older than the next number, a post that is inserted
is stored behind them. -/
theorem insertPost_eq_ok (older : ∀ entry ∈ h.posts, entry.1 < h.nextPost) {post : Post} {id : Nat}
    (inserted : (h.insertPost post).2 = .ok id) :
    id = h.nextPost ∧ (h.insertPost post).1 = h.storing [post] := by
  have last := Assoc.put_last .number (⟨h.tablePrefix, post⟩ : StoredPost)
    (fun entry member => by simpa [natLess] using older entry member)
  unfold insertPost at inserted ⊢
  cases behind : h.runtime with
  | installed root =>
    simp only [behind, storePost] at inserted
    cases inserted
    simp [storePost, storing, numbered, Runtime.counting, behind, last]
  | simulated simulation =>
    simp only [behind, storePost] at inserted
    split at inserted
    · cases inserted
    · rename_i accepted
      cases inserted
      simp [storePost, storing, numbered, Runtime.counting, behind, last, accepted]

/-- An insertion that is refused is counted and changes nothing else. -/
theorem insertPost_eq_error {post : Post} {e : Error} (refused : (h.insertPost post).2 = .error e) :
    (h.insertPost post).1 = { h with runtime := h.runtime.counting 1 } := by
  unfold insertPost at refused ⊢
  cases behind : h.runtime with
  | installed root =>
    rw [behind] at refused
    cases refused
  | simulated simulation =>
    simp only [behind] at refused
    split at refused
    · rename_i isFailing
      simp [Runtime.counting, isFailing]
    · cases refused

/-- New posts stay older than the next number. -/
theorem older_storing (older : ∀ entry ∈ h.posts, entry.1 < h.nextPost) :
    ∀ entry ∈ (h.storing posts).posts, entry.1 < (h.storing posts).nextPost := by
  intro entry member
  rcases List.mem_append.mp member with before | new
  · exact Nat.lt_add_right _ (older entry before)
  · obtain ⟨⟨post, id⟩, indexed, rfl⟩ := List.mem_map.mp new
    exact List.snd_lt_add_of_mem_zipIdx indexed

end Host

namespace DemoPosts

variable {world after : World} {posts : List Post} {inserted ids : List Nat}

/-! ## Inserting and deleting -/

theorem runIn_insertAll_cons (inserted : List Nat) (post : Post) (rest : List Post) (world : World) :
    (insertAll inserted (post :: rest)).runIn world =
      let (host, answer) := world.host.insertPost post
      match answer with
      | .ok id => (insertAll (inserted ++ [id]) rest).runIn { world with host }
      | .error e =>
          (.error (.preparation name e.message), ((deleteAll inserted).discard.runIn { world with host }).2) := by
  rw [insertAll, Act.runIn_eq]
  simp only [Act.runIn_askHost]
  cases (world.host.insertPost post).2 <;> rfl

theorem runIn_deleteAll_cons (id : Nat) (rest : List Nat) (world : World) :
    (deleteAll (id :: rest)).runIn world =
      match world.host.deletePost id with
      | .ok host => (deleteAll rest).runIn { world with host }
      | .error e => (.error e, ((deleteAll rest).runIn world).2) := by
  rw [deleteAll, Act.runIn_eq]
  simp only [Act.runIn_tryHost]
  cases world.host.deletePost id <;> rfl

/-- Posts that could all be inserted are those that the site got, and their numbers
are given behind those inserted before. -/
theorem runIn_insertAll_ok (older : ∀ entry ∈ world.host.posts, entry.1 < world.host.nextPost)
    (ran : (insertAll inserted posts).runIn world = (.ok ids, after)) :
    ids = inserted ++ (world.host.numbered posts).map Prod.fst ∧
      after = { world with host := world.host.storing posts } := by
  induction posts generalizing inserted world with
  | nil =>
    cases ran
    exact ⟨by simp [Host.numbered], by rw [Host.storing_nil]⟩
  | cons post rest inductionHypothesis =>
    rw [runIn_insertAll_cons] at ran
    dsimp only at ran
    split at ran
    · rename_i id answered
      obtain ⟨rfl, stored⟩ := Host.insertPost_eq_ok older answered
      rw [stored] at ran
      -- the other posts are inserted on the site that the first one has left
      obtain ⟨numbers, rfl⟩ := inductionHypothesis (Host.older_storing older) ran
      refine ⟨?_, by rw [Host.storing_cons]⟩
      simp [numbers, Host.numbered_cons]
    · cases ran

/-- Posts that could all be deleted are gone, and nothing else has changed. -/
theorem runIn_deleteAll_ok (ran : (deleteAll ids).runIn world = (.ok (), after)) :
    after = { world with
      host := { world.host with
        posts := ids.foldl (fun posts id => Assoc.erase id posts) world.host.posts } } := by
  induction ids generalizing world with
  | nil =>
    cases ran
    rfl
  | cons id rest inductionHypothesis =>
    rw [runIn_deleteAll_cons] at ran
    cases deleted : world.host.deletePost id with
    | error e =>
      rw [deleted] at ran
      cases ran
    | ok host =>
      rw [deleted] at ran
      have others := inductionHypothesis ran
      unfold Host.deletePost at deleted
      split at deleted
      · cases deleted
      · split at deleted <;> cases deleted
        exact others

/-- Deleting the posts that were stored under new numbers leaves those before. -/
theorem foldl_erase_append {earlier added : List (Nat × StoredPost)}
    (new : ∀ entry ∈ added, Assoc.get? entry.1 earlier = none) :
    (added.map Prod.fst).foldl (fun posts id => Assoc.erase id posts) (earlier ++ added) = earlier := by
  induction added with
  | nil => simp
  | cons entry rest inductionHypothesis =>
    have others := inductionHypothesis fun other member => new other (List.mem_cons_of_mem entry member)
    -- numbers are deleted in the order of the entries, so the first added one goes first
    simpa [Assoc.erase_append_cons (new entry List.mem_cons_self)] using others

/-- A preparation that was made has inserted its posts, and its cleanup deletes these. -/
theorem runIn_prepare_inv {cleanup : Cleanup}
    (older : ∀ entry ∈ world.host.posts, entry.1 < world.host.nextPost)
    (made : (prepare posts).runIn world = (.ok cleanup, after)) :
    cleanup = .of name (deleteAll ((world.host.numbered posts).map Prod.fst)) ∧
      after = { world with host := world.host.storing posts } := by
  unfold prepare at made
  rw [Act.runIn_bind] at made
  split at made
  · rename_i ids middle stored
    cases made
    obtain ⟨rfl, rfl⟩ := runIn_insertAll_ok older stored
    exact ⟨by rw [List.nil_append], rfl⟩
  · cases made

/-- Where the posts of a preparation were inserted, its cleanup leaves the earlier
posts alone, unless it fails. -/
theorem runIn_prepare_ok {cleanup : Cleanup}
    (older : ∀ entry ∈ world.host.posts, entry.1 < world.host.nextPost)
    (made : (prepare posts).runIn world = (.ok cleanup, after)) :
    after = { world with host := world.host.storing posts } ∧
      ∀ start done, start.host.posts = after.host.posts →
        cleanup.run.runIn start = (.ok (), done) →
          done = { start with host := { start.host with posts := world.host.posts } } := by
  obtain ⟨rfl, rfl⟩ := runIn_prepare_inv older made
  refine ⟨rfl, fun start done same undone => ?_⟩
  rw [runIn_deleteAll_ok undone, same]
  -- the new numbers are behind all others
  have new (entry) (member : entry ∈ world.host.numbered posts) :
      Assoc.get? entry.1 world.host.posts = none := by
    refine Assoc.get?_eq_none.mpr fun other earlier => ?_
    exact ((older other earlier).trans_le (Host.nextPost_le_of_mem_numbered member)).ne
  rw [show (world.host.storing posts).posts = world.host.posts ++ world.host.numbered posts from rfl,
    foldl_erase_append new]

/-! ## Requests -/

theorem postOfJson?_postToJson (post : Post) : postOfJson? (postToJson post) = some post := rfl

/-- The request for posts asks for just these. -/
theorem postsOfJson_shared (posts : List Post) :
    postsOfJson (.object [("posts", .list (posts.map postToJson))]) = .ok posts := by
  have read : (posts.map postToJson).mapM postOfJson? = some posts := by
    induction posts with
    | nil => rfl
    | cons post rest inductionHypothesis =>
      simp [postOfJson?_postToJson, inductionHypothesis]
  simp [postsOfJson, Assoc.get?, Json.list?, read]

/-- Making a request for posts is inserting them. -/
theorem prepare_shared (posts : List Post) : (shared posts).prepare = prepare posts := by
  unfold SharedPreparation.prepare shared request ofArguments
  dsimp only
  rw [postsOfJson_shared]
  rfl

end DemoPosts

end PluginAudit
