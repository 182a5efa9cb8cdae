import PluginAudit.Checks.EnqueuedAssets
import PluginAudit.Proofs.Effect
import PluginAudit.Proofs.Preparation.DemoPosts

/-!
# The pages that asset checks visit

A check of assets makes a tour of the site: the home page first, then a page of
each post type.  With demo posts of all types behind the posts of a site, the
pages of the tour are those of demo posts.
-/

namespace PluginAudit

/-- What stands behind a site after further requests. -/
def Runtime.requesting (runtime : Runtime) (visited : List String) : Runtime :=
  match runtime with
  | .simulated simulation =>
      .simulated { simulation with requested := simulation.requested ++ visited }
  | .installed root => .installed root

namespace Host

variable {h : Host}

/-- A site after further requests. -/
def requesting (h : Host) (visited : List String) : Host :=
  { h with runtime := h.runtime.requesting visited }

theorem requesting_nil (h : Host) : h.requesting [] = h := by
  have same : h.runtime.requesting [] = h.runtime := by
    cases h.runtime <;> simp [Runtime.requesting]
  rw [requesting, same]

theorem requesting_requesting (h : Host) (first second : List String) :
    (h.requesting first).requesting second = h.requesting (first ++ second) := by
  cases behind : h.runtime <;> simp [requesting, Runtime.requesting, behind]

theorem answersRequests_requesting (h : Host) (visited : List String) :
    (h.requesting visited).answersRequests = h.answersRequests := by
  cases behind : h.runtime <;> simp [requesting, Runtime.requesting, answersRequests, behind]

theorem publicPostTypes_requesting (h : Host) (visited : List String) :
    (h.requesting visited).publicPostTypes = h.publicPostTypes := by
  cases behind : h.runtime <;> simp [requesting, Runtime.requesting, publicPostTypes, behind]

/-- A request is noted and changes nothing else, or it is refused and not noted. -/
theorem dispatch_cases (h : Host) (address : String) :
    (∃ assets, h.answersRequests ∧ h.dispatch address = (h.requesting [address], .ok assets)) ∨
      ∃ e, ¬ h.answersRequests ∧ h.dispatch address = (h, .error e) := by
  unfold answersRequests dispatch requesting Runtime.requesting
  cases h.runtime with
  | installed root => exact .inr ⟨_, nofun, rfl⟩
  | simulated simulation =>
    dsimp only
    cases simulation.answersRequests with
    | false => exact .inr ⟨_, nofun, rfl⟩
    | true => exact .inl ⟨_, rfl, rfl⟩

end Host

/-- A view of the world that does not see which addresses were requested. -/
def World.Unrequested {γ : Type} (view : World → γ) : Prop :=
  ∀ world visited, view { world with host := world.host.requesting visited } = view world

namespace EnqueuedAssets

variable {γ : Type} {view : World → γ} {h : Host}

/-! ## Tours -/

/-- The address of the page of a post. -/
def pageOf (home : String) (id : Nat) : String := home ++ s!"/?p={id}"

/-- A tour of demo posts: the home page, and for each post type in turn the page of
one of the given posts, which is the demo post of that type under a prefix. -/
def Tour (home pre : String) (created : List (Nat × StoredPost)) (postTypes : List String)
    (visits : List String) : Prop :=
  ∃ ids, List.Forall₂ (fun postType id => (id, ⟨pre, Post.demo postType⟩) ∈ created) postTypes ids ∧
    visits = (home ++ "/") :: ids.map (pageOf home)

/-- Just the posts that are there have pages. -/
theorem permalink_eq_ok {id : Nat} {address : String} :
    h.permalink id = .ok address ↔
      (∃ stored, (id, stored) ∈ h.posts) ∧ pageOf h.homeAddress id = address := by
  rw [← Assoc.contains_iff]
  unfold Host.permalink pageOf
  split <;> simp_all

theorem toList_pageOf (home : String) (id : Nat) :
    (pageOf home id).toList = home.toList ++ ('/' :: '?' :: 'p' :: '=' :: Nat.toDigits 10 id) := by
  simp [pageOf]
  rfl

theorem pageOf_injective (home : String) : Function.Injective (pageOf home) := by
  intro first second same
  have characters := congrArg String.toList same
  have digits : Nat.toDigits 10 first = Nat.toDigits 10 second := by
    simpa [toList_pageOf] using characters
  simpa using congrArg (Nat.ofDigitChars 10 · 0) digits

theorem pageOf_ne_home (home : String) (id : Nat) : pageOf home id ≠ home ++ "/" := by
  intro same
  have characters := congrArg String.toList same
  simp [toList_pageOf] at characters

/-- A tour of new posts passes by the pages of all others. -/
theorem Tour.pageOf_not_mem {home pre : String} {created : List (Nat × StoredPost)}
    {postTypes visits : List String} {id : Nat} (tour : Tour home pre created postTypes visits)
    (new : ∀ entry ∈ created, id < entry.1) : pageOf home id ∉ visits := by
  obtain ⟨ids, own, rfl⟩ := tour
  intro member
  rcases List.mem_cons.mp member with isHome | isPage
  · exact pageOf_ne_home home id isHome
  · have visited := (List.mem_map_of_injective (pageOf_injective home)).mp isPage
    clear member isPage
    induction own with
    | nil => cases visited
    | cons isOwn _ inductionHypothesis =>
      rcases List.mem_cons.mp visited with rfl | later
      · exact absurd (new _ isOwn) (Nat.lt_irrefl _)
      · exact inductionHypothesis later

/-! ## Addresses -/

section Addresses

variable {earlier created : List (Nat × StoredPost)}

/-- Where demo posts of a type stand behind all other posts, the latest post of that
type is found among them. -/
theorem findPost_behind {postType : String} (posts : h.posts = earlier ++ created)
    (covered : ∃ id, (id, ⟨h.tablePrefix, Post.demo postType⟩) ∈ created) :
    ∃ last ∈ created, (created.filter fun entry => h.shows postType entry.2).getLast? = some last ∧
      h.shows postType last.2 ∧ h.findPost postType = some last.1 := by
  set shown := created.filter fun entry => h.shows postType entry.2 with shown_eq
  have notEmpty : shown ≠ [] := by
    obtain ⟨id, member⟩ := covered
    exact List.ne_nil_of_mem (List.mem_filter.mpr ⟨member, by simp [Host.shows, Post.demo]⟩)
  have last := List.getLast?_eq_some_getLast notEmpty
  obtain ⟨member, shows⟩ := List.mem_filter.mp (List.getLast_mem notEmpty)
  exact ⟨_, member, last, shows, by simp [Host.findPost, posts, List.getLast?_append, ← shown_eq, last]⟩

/-- The latest post of that type is one of the demo posts of the type. -/
theorem exists_findPost {postType : String} (posts : h.posts = earlier ++ created)
    (demo : ∀ entry ∈ created, ∃ postType, entry.2 = ⟨h.tablePrefix, Post.demo postType⟩)
    (covered : ∃ id, (id, ⟨h.tablePrefix, Post.demo postType⟩) ∈ created) :
    ∃ id, h.findPost postType = some id ∧ (id, ⟨h.tablePrefix, Post.demo postType⟩) ∈ created := by
  obtain ⟨last, member, -, shows, found⟩ := findPost_behind posts covered
  refine ⟨_, found, ?_⟩
  obtain ⟨other, isDemo⟩ := demo _ member
  -- of the demo posts, only those of the type are shown for it
  obtain rfl : other = postType := by
    simp only [isDemo, Host.shows, Post.demo] at shows
    simp_all
  rwa [← isDemo]

theorem exists_postAddresses {postTypes : List String} (posts : h.posts = earlier ++ created)
    (demo : ∀ entry ∈ created, ∃ postType, entry.2 = ⟨h.tablePrefix, Post.demo postType⟩)
    (covered : ∀ postType ∈ postTypes, ∃ id, (id, ⟨h.tablePrefix, Post.demo postType⟩) ∈ created) :
    ∃ ids, List.Forall₂ (fun postType id => (id, ⟨h.tablePrefix, Post.demo postType⟩) ∈ created)
        postTypes ids ∧
      postAddresses h postTypes = .ok (ids.map (pageOf h.homeAddress)) := by
  induction postTypes with
  | nil => exact ⟨[], .nil, rfl⟩
  | cons postType rest inductionHypothesis =>
    obtain ⟨id, found, own⟩ := exists_findPost posts demo (covered postType List.mem_cons_self)
    obtain ⟨ids, others, addresses⟩ :=
      inductionHypothesis fun other member => covered other (List.mem_cons_of_mem postType member)
    have page : h.permalink id = .ok (pageOf h.homeAddress id) :=
      permalink_eq_ok.mpr ⟨⟨_, posts ▸ List.mem_append_right earlier own⟩, rfl⟩
    refine ⟨id :: ids, .cons own others, ?_⟩
    simp only [postAddresses, found, page, addresses]
    rfl

/-- The addresses of the latest posts do not depend on the posts before the demo posts. -/
theorem postAddresses_congr {other : Host} {earlier' : List (Nat × StoredPost)} {postTypes : List String}
    (home : h.homeAddress = other.homeAddress) (pre : h.tablePrefix = other.tablePrefix)
    (posts : h.posts = earlier ++ created) (posts' : other.posts = earlier' ++ created)
    (covered : ∀ postType ∈ postTypes, ∃ id, (id, ⟨h.tablePrefix, Post.demo postType⟩) ∈ created) :
    postAddresses h postTypes = postAddresses other postTypes := by
  induction postTypes with
  | nil => rfl
  | cons postType rest inductionHypothesis =>
    have others := inductionHypothesis fun later member => covered later (List.mem_cons_of_mem postType member)
    have own := covered postType List.mem_cons_self
    have sameShown : h.shows postType = other.shows postType := by
      funext stored
      simp only [Host.shows, pre]
    obtain ⟨last, member, isLast, -, found⟩ := findPost_behind posts own
    obtain ⟨last', -, isLast', -, found'⟩ := findPost_behind posts' (pre ▸ own)
    obtain rfl : last = last' := by
      rw [← sameShown] at isLast'
      exact Option.some.inj (isLast.symm.trans isLast')
    have page : h.permalink last.1 = .ok (pageOf h.homeAddress last.1) :=
      permalink_eq_ok.mpr ⟨⟨_, posts ▸ List.mem_append_right earlier member⟩, rfl⟩
    have page' : other.permalink last.1 = .ok (pageOf other.homeAddress last.1) :=
      permalink_eq_ok.mpr ⟨⟨_, posts' ▸ List.mem_append_right earlier' member⟩, rfl⟩
    simp only [postAddresses, found, found', page, page', home, others]

end Addresses

theorem exists_isDemo (h : Host) {postTypes : List String} :
    ∀ entry ∈ h.numbered (postTypes.map Post.demo), ∃ postType, entry.2 = ⟨h.tablePrefix, Post.demo postType⟩ := by
  intro entry member
  obtain ⟨⟨post, id⟩, indexed, rfl⟩ := List.mem_map.mp member
  obtain ⟨postType, -, rfl⟩ := List.mem_map.mp (List.fst_mem_of_mem_zipIdx indexed)
  exact ⟨postType, rfl⟩

theorem exists_demo (h : Host) {postTypes : List String} :
    ∀ postType ∈ postTypes, ∃ id, (id, ⟨h.tablePrefix, Post.demo postType⟩) ∈ h.numbered (postTypes.map Post.demo) :=
  fun _ member => Host.exists_mem_numbered (List.mem_map_of_mem member)

/-- With demo posts of all types behind its posts, a site has the addresses of a tour
of these. -/
theorem exists_tour (h : Host) :
    ∃ visits, Tour h.homeAddress h.tablePrefix (h.numbered (h.publicPostTypes.map Post.demo))
        h.publicPostTypes visits ∧
      addresses (h.storing (h.publicPostTypes.map Post.demo)) = .ok visits := by
  obtain ⟨ids, own, addresses_eq⟩ := @exists_postAddresses (h.storing (h.publicPostTypes.map Post.demo))
    _ _ h.publicPostTypes rfl (exists_isDemo h) (exists_demo h)
  exact ⟨_, ⟨ids, own, rfl⟩, by rw [addresses, h.publicPostTypes_storing, addresses_eq]; rfl⟩

/-- Sites get the same addresses with demo posts of all types, whatever posts they have had. -/
theorem addresses_storing {h other : Host} (home : h.homeAddress = other.homeAddress)
    (pre : h.tablePrefix = other.tablePrefix) (number : h.nextPost = other.nextPost)
    (types : h.publicPostTypes = other.publicPostTypes) :
    addresses (h.storing (h.publicPostTypes.map Post.demo)) =
      addresses (other.storing (other.publicPostTypes.map Post.demo)) := by
  have created : other.numbered (other.publicPostTypes.map Post.demo) = h.numbered (h.publicPostTypes.map Post.demo) := by
    simp only [Host.numbered, pre, number, types]
  have same := @postAddresses_congr (h.storing (h.publicPostTypes.map Post.demo)) _ _
    (other.storing (other.publicPostTypes.map Post.demo)) other.posts h.publicPostTypes home pre rfl
    (created ▸ rfl) (exists_demo h)
  have sameHome : (h.storing (h.publicPostTypes.map Post.demo)).homeAddress =
    (other.storing (other.publicPostTypes.map Post.demo)).homeAddress := home
  rw [addresses, addresses, h.publicPostTypes_storing, other.publicPostTypes_storing, same, sameHome, types]

/-- Addresses are made of the home page, the latest posts of the post types and their links. -/
theorem addresses_congr {other : Host} (home : h.homeAddress = other.homeAddress)
    (types : h.publicPostTypes = other.publicPostTypes) (posts : h.findPost = other.findPost)
    (links : h.permalink = other.permalink) : addresses h = addresses other := by
  have same (postTypes : List String) : postAddresses h postTypes = postAddresses other postTypes := by
    induction postTypes with
    | nil => rfl
    | cons postType rest inductionHypothesis =>
      simp only [postAddresses, inductionHypothesis, posts, links]
  rw [addresses, addresses, home, types, same]

/-- What was requested has no part in the addresses. -/
theorem addresses_requesting (h : Host) (visited : List String) :
    addresses (h.requesting visited) = addresses h :=
  addresses_congr rfl (h.publicPostTypes_requesting visited) rfl rfl

/-! ## Checks -/

theorem runIn_visit (context : PluginContext) (kind : AssetKind) {world : World}
    (answers : world.host.answersRequests) (address : String) :
    ∃ assets, (visit context kind address).runIn world =
      (.ok assets, { world with host := world.host.requesting [address] }) := by
  rcases world.host.dispatch_cases address with ⟨assets, -, dispatched⟩ | ⟨e, refused, -⟩
  · unfold visit
    rw [Act.runIn_eq]
    simp only [dispatched]
    exact ⟨_, rfl⟩
  · exact absurd answers refused

/-- Whether it is answered or not, a visit changes nothing but what was requested. -/
theorem visit_spares (unrequested : World.Unrequested view) (context : PluginContext)
    (kind : AssetKind) (address : String) : Act.Spares view (visit context kind address) := by
  intro world
  unfold visit
  rw [Act.runIn_eq]
  rcases world.host.dispatch_cases address with ⟨assets, -, dispatched⟩ | ⟨e, -, dispatched⟩ <;>
    simp only [dispatched]
  exact unrequested world [address]

theorem lookAtSizes_spares (unrequested : World.Unrequested view) (context : PluginContext)
    (kind : AssetKind) (threshold : UInt64) (world : World) (all : List String) :
    view (lookAtSizes context kind threshold world all).2 = view world := by
  induction all generalizing world with
  | nil => rfl
  | cons address rest inductionHypothesis =>
    have visited := visit_spares unrequested context kind address world
    simp only [lookAtSizes]
    split
    · rename_i ran
      simpa [ran] using visited
    · rename_i ran
      rw [ran] at visited
      split
      · exact visited
      · exact (inductionHypothesis _).trans visited

theorem tallyPages_spares (unrequested : World.Unrequested view) (context : PluginContext)
    (kind : AssetKind) (tally : Tally) (all : List String) :
    Act.Spares view (tallyPages context kind tally all) := by
  induction all generalizing tally with
  | nil => exact .pure tally
  | cons address rest inductionHypothesis =>
    exact .bind (visit_spares unrequested context kind address) fun _ => inductionHypothesis _

/-- Looking at sizes requests all addresses in order, unless a page breaks it off. -/
theorem world_lookAtSizes {context : PluginContext} {kind : AssetKind} {threshold : UInt64}
    {world : World} (answers : world.host.answersRequests) {all : List String}
    (succeeds : (lookAtSizes context kind threshold world all).1.failure = none) :
    (lookAtSizes context kind threshold world all).2 =
      { world with host := world.host.requesting all } := by
  induction all generalizing world with
  | nil => simp [lookAtSizes, Host.requesting_nil]
  | cons address rest inductionHypothesis =>
    obtain ⟨assets, visited⟩ := runIn_visit context kind answers address
    simp only [lookAtSizes, visited] at succeeds ⊢
    split at succeeds
    · cases succeeds
    · rw [inductionHypothesis (by rwa [Host.answersRequests_requesting]) succeeds, Host.requesting_requesting]
      rfl

/-- Counting pages requests all addresses in order. -/
theorem world_tallyPages (context : PluginContext) (kind : AssetKind) (tally : Tally)
    {world : World} (answers : world.host.answersRequests) (all : List String) :
    ((tallyPages context kind tally all).runIn world).2 =
      { world with host := world.host.requesting all } := by
  induction all generalizing tally world with
  | nil => simp [tallyPages, Host.requesting_nil]
  | cons address rest inductionHypothesis =>
    obtain ⟨assets, visited⟩ := runIn_visit context kind answers address
    simp only [tallyPages, Act.runIn_bind, visited]
    rw [inductionHypothesis _ (by rwa [Host.answersRequests_requesting]), Host.requesting_requesting]
    rfl

/-- The checks of the assets that a plugin loads. -/
inductive IsAssetCheck : Check → Prop
  | size (kind : AssetKind) (threshold : UInt64) : IsAssetCheck (sizeCheck kind threshold)
  | scope (kind : AssetKind) : IsAssetCheck (scopeCheck kind)

namespace IsAssetCheck

variable {check : Check}

theorem isRuntime (isAsset : IsAssetCheck check) : check.isRuntime := by
  cases isAsset <;> rfl

theorem preparation (isAsset : IsAssetCheck check) : check.preparation = none := by
  cases isAsset <;> rfl

theorem sharedPreparations (isAsset : IsAssetCheck check) (host : Host) :
    check.sharedPreparations host = [demoPosts host] := by
  cases isAsset <;> rfl

/-- Where there are addresses to visit, a check of assets that does not break requests each of them. -/
theorem run (isAsset : IsAssetCheck check) {context : PluginContext} {world : World}
    {all : List String} (found : addresses world.host = .ok all)
    (answers : world.host.answersRequests) (succeeds : (check.run context world).1.failure = none) :
    (check.run context world).2 = { world with host := world.host.requesting all } := by
  cases isAsset with
  | size kind threshold =>
    simp only [sizeCheck, found] at succeeds ⊢
    exact world_lookAtSizes answers succeeds
  | scope kind =>
    simp only [scopeCheck, found]
    exact world_tallyPages context kind [] answers all

/-- Apart from what was requested, a check of assets leaves everything as it is. -/
theorem spares (isAsset : IsAssetCheck check) (unrequested : World.Unrequested view) :
    check.Spares view where
  running context world := by
    cases isAsset with
    | size kind threshold =>
      simp only [sizeCheck]
      split
      · rfl
      · exact lookAtSizes_spares unrequested context kind threshold world _
    | scope kind =>
      simp only [scopeCheck]
      split
      · rfl
      · exact tallyPages_spares unrequested context kind [] _ world
  own {p} own := by
    rw [isAsset.preparation] at own
    cases own

end IsAssetCheck

end EnqueuedAssets

end PluginAudit
