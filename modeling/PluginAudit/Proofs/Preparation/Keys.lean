import PluginAudit.Proofs.Preparation.DemoPosts
import PluginAudit.Proofs.Text.Json.Writing
import PluginAudit.Run.Shared

/-!
# What requests are shared by

Requests are told apart by the text of their arguments.  As no two JSON values
have one text once they are sorted, just those requests share a key that ask
for the same: for demo posts, those that ask for the same posts in one order.
-/

namespace PluginAudit

open PluginAudit.Text

/-! ## Posts that a site takes -/

namespace Host

variable {h : Host} {post : Post} {count : Nat}

/-- None of the next insertions is the one that fails. -/
def Takes (h : Host) (count : Nat) : Prop :=
  match h.runtime with
  | .installed _ => True
  | .simulated simulation =>
      ∀ failing, simulation.failingInsertion = some failing →
        failing < simulation.insertions ∨ simulation.insertions + count ≤ failing

theorem takes_zero (h : Host) : h.Takes 0 := by
  unfold Takes
  split
  · trivial
  · exact fun failing _ => Nat.lt_or_ge _ _

theorem takes_succ (h : Host) (post : Post) (count : Nat) :
    h.Takes (count + 1) ↔ h.Takes 1 ∧ (h.storing [post]).Takes count := by
  cases behind : h.runtime with
  | installed root => simp [Takes, storing, Runtime.counting, behind]
  | simulated simulation =>
    simp only [Takes, storing, Runtime.counting, behind, List.length_singleton]
    rw [← forall_and]
    refine forall_congr' fun failing => ?_
    rw [← imp_and]
    refine imp_congr_right fun _ => ?_
    omega

theorem insertPost_isOk_iff : (h.insertPost post).2.isOk ↔ h.Takes 1 := by
  unfold insertPost Takes
  cases h.runtime with
  | installed root => simp [Except.isOk, Except.toBool]
  | simulated simulation =>
    dsimp only
    split
    · rename_i isFailing
      have reached := beq_iff_eq.mp isFailing
      simp [Except.isOk, Except.toBool, reached]
    · rename_i accepted
      simp only [Except.isOk, Except.toBool, true_iff]
      rintro failing isFailing
      have other : failing ≠ simulation.insertions := by
        rintro rfl
        exact accepted (beq_iff_eq.mpr isFailing)
      omega

end Host

namespace DemoPosts

variable {world : World} {posts posts' : List Post} {inserted : List Nat}

/-- Posts can all be inserted exactly if the site takes as many. -/
theorem insertAll_isOk_iff (older : ∀ entry ∈ world.host.posts, entry.1 < world.host.nextPost) :
    ((insertAll inserted posts).runIn world).1.isOk ↔ world.host.Takes posts.length := by
  induction posts generalizing inserted world with
  | nil => exact iff_of_true rfl world.host.takes_zero
  | cons post rest inductionHypothesis =>
    rw [List.length_cons, world.host.takes_succ post]
    unfold insertAll
    rw [Act.runIn_eq, Act.runIn_askHost]
    cases answered : (world.host.insertPost post).2 with
    | ok id =>
      have first : world.host.Takes 1 :=
        Host.insertPost_isOk_iff.mp (by rw [answered]; rfl)
      obtain ⟨-, stored⟩ := Host.insertPost_eq_ok older answered
      simp only [stored, first, true_and]
      exact @inductionHypothesis { world with host := world.host.storing [post] } _
        (Host.older_storing older)
    | error e =>
      have refused : ¬ world.host.Takes 1 := fun first => by
        have succeeded : (world.host.insertPost post).2.isOk := Host.insertPost_isOk_iff.mpr first
        rw [answered] at succeeded
        cases succeeded
      simp [Except.isOk, Except.toBool, refused]

theorem prepare_isOk_iff (older : ∀ entry ∈ world.host.posts, entry.1 < world.host.nextPost) :
    ((prepare posts).runIn world).1.isOk ↔ world.host.Takes posts.length := by
  rw [← @insertAll_isOk_iff world posts [] older]
  unfold prepare
  rw [Act.runIn_bind]
  split <;> rename_i inserted _ ran <;> rw [ran] <;> rfl

end DemoPosts

/-! ## Keys -/

namespace SharedPreparation

variable {p q : SharedPreparation}

/-- Requests share a key exactly if they have one name and equal arguments. -/
theorem key_eq_iff (usable : p.arguments.Usable) (usable' : q.arguments.Usable) :
    p.key = q.key ↔ p.name = q.name ∧ p.arguments.Same q.arguments := by
  have written : p.arguments.sorted.compact = q.arguments.sorted.compact ↔
      p.arguments.Same q.arguments := by
    rw [Json.compact_inj usable.sorted usable'.sorted]
    exact ⟨usable.same_of_sorted_eq, Json.Same.sorted_eq⟩
  simp [key, written]

end SharedPreparation

namespace DemoPosts

variable {posts posts' : List Post}

theorem usable_shared (posts : List Post) : (shared posts).arguments.Usable := by
  refine .object fun entry member => ?_
  obtain rfl := List.mem_singleton.mp member
  refine .list fun item isPost => ?_
  obtain ⟨post, -, rfl⟩ := List.mem_map.mp isPost
  refine .object fun field isField => ?_
  simp only [List.mem_cons, List.not_mem_nil, or_false] at isField
  rcases isField with rfl | rfl | rfl | rfl <;> exact .text _

theorem sorted_postToJson (post : Post) : (postToJson post).sorted = postToJson post := by
  have ascending : textLess "content" "post_type" ∧ textLess "post_type" "status" ∧
      textLess "status" "title" := by decide
  simp [postToJson, Json.sorted, Json.sortedMembers, Assoc.contains, Assoc.get?, Assoc.put, ascending]

theorem sorted_shared (posts : List Post) :
    (shared posts).arguments.sorted = (shared posts).arguments := by
  have each : (posts.map postToJson).map Json.sorted = posts.map postToJson := by
    rw [List.map_map]
    exact List.map_congr_left fun post _ => sorted_postToJson post
  simp [shared, request, Json.sorted, Json.sortedMembers, Json.sortedItems_eq, Assoc.contains,
    Assoc.get?, Assoc.put, each]

theorem key_shared_eq_iff : (shared posts).key = (shared posts').key ↔ posts = posts' := by
  refine ⟨fun sameKey => ?_, fun same => by rw [same]⟩
  obtain ⟨-, same⟩ := (SharedPreparation.key_eq_iff (usable_shared posts) (usable_shared posts')).mp sameKey
  have arguments := same.sorted_eq
  rw [sorted_shared, sorted_shared] at arguments
  have read : postsOfJson (shared posts).arguments = postsOfJson (shared posts').arguments :=
    congrArg postsOfJson arguments
  -- the posts are read back from the arguments
  exact Except.ok.inj ((postsOfJson_shared posts).symm.trans (read.trans (postsOfJson_shared posts')))

end DemoPosts

namespace SharedPreparation

open DemoPosts

variable {p q : SharedPreparation} {world : World}

/-- Requests share a key exactly if they have one name and equal arguments.  A request for demo
posts has these posts inserted in their order, behind those of the site, if the site takes
as many, and fails otherwise; so two of them share a key exactly if they have the same
inserted. -/
theorem key_identifies (usable : p.arguments.Usable) (usable' : q.arguments.Usable)
    (older : ∀ entry ∈ world.host.posts, entry.1 < world.host.nextPost) (posts posts' : List Post) :
    (p.key = q.key ↔ p.name = q.name ∧ p.arguments.Same q.arguments) ∧
    ((shared posts).build (shared posts).arguments).runIn world =
      (.ok (DemoPosts.prepare posts), world) ∧
    (((DemoPosts.prepare posts).runIn world).1.isOk ↔ world.host.Takes posts.length) ∧
    (world.host.Takes posts.length →
      ((DemoPosts.prepare posts).runIn world).2 =
        { world with host := world.host.storing posts }) ∧
    ((shared posts).key = (shared posts').key ↔ posts = posts') := by
  have built : ofArguments (shared posts).arguments = pure (DemoPosts.prepare posts) := by
    unfold shared request ofArguments
    dsimp only
    rw [postsOfJson_shared]
  refine ⟨key_eq_iff usable usable', congrArg (Act.runIn world) built, prepare_isOk_iff older,
    fun takes => ?_, key_shared_eq_iff⟩
  have succeeds := (prepare_isOk_iff older).mpr takes
  cases made : (DemoPosts.prepare posts).runIn world with
  | mk outcome after =>
    cases outcome with
    | ok cleanup => exact (runIn_prepare_ok older made).1
    | error e =>
      rw [made] at succeeds
      cases succeeds

/-- One request with its members in two orders, and a site with a post that fails a later
insertion: the two share a key, and two posts are stored behind that of the site, for which the
other order is another request. -/
theorem key_identifies_orders :
    let build : Json → Act Preparation := fun _ => pure (pure .noop)
    let p : SharedPreparation :=
      ⟨"pages", .object [("a", .number 1), ("b", .text "x")], build⟩
    let q : SharedPreparation :=
      ⟨"pages", .object [("b", .text "x"), ("a", .number 1)], build⟩
    let world : World :=
      { disk := .empty
        host := { Host.simulated ⟨"site"⟩ { failingInsertion := some 2 } with
          posts := [(1, ⟨"wp_", Post.demo "page"⟩)], nextPost := 2 } }
    let posts := [Post.demo "post", Post.demo "page"]
    p.arguments.Usable ∧ q.arguments.Usable ∧
    (∀ entry ∈ world.host.posts, entry.1 < world.host.nextPost) ∧
    p.key = q.key ∧
    ((DemoPosts.prepare posts).runIn world).1.isOk ∧
    ((DemoPosts.prepare posts).runIn world).2.host.posts =
      [(1, ⟨"wp_", Post.demo "page"⟩), (2, ⟨"wp_", Post.demo "post"⟩), (3, ⟨"wp_", Post.demo "page"⟩)] ∧
    (shared posts).key ≠ (shared [Post.demo "page", Post.demo "post"]).key := by
  intro build p q world posts
  have usable : p.arguments.Usable := by
    refine .object fun entry member => ?_
    simp only [List.mem_cons, List.not_mem_nil, or_false] at member
    rcases member with rfl | rfl
    · exact .number _
    · exact .text _
  have usable' : q.arguments.Usable := by
    refine .object fun entry member => ?_
    simp only [List.mem_cons, List.not_mem_nil, or_false] at member
    rcases member with rfl | rfl
    · exact .text _
    · exact .number _
  have older : ∀ entry ∈ world.host.posts, entry.1 < world.host.nextPost := by decide
  have ascending : textLess "a" "b" ∧ textLess "b" "a" = false := by decide
  have same : p.arguments.Same q.arguments := usable.same_of_sorted_eq (by
    simp [p, q, Json.sorted, Json.sortedMembers, Assoc.contains, Assoc.get?, Assoc.put, ascending])
  have takes : world.host.Takes posts.length := by
    rintro _ ⟨⟩
    exact .inr le_rfl
  obtain ⟨sameKey, -, succeeds, stores, order⟩ :=
    key_identifies usable usable' older posts [Post.demo "page", Post.demo "post"]
  refine ⟨usable, usable', older, sameKey.mpr ⟨rfl, same⟩, succeeds.mpr takes, ?_, mt order.mp (by decide)⟩
  rw [stores takes]
  decide

end SharedPreparation

end PluginAudit
