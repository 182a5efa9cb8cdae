import PluginAudit.Proofs.Checks.Pages

/-!
# Assets that every page loads

The check of scope goes from page to page and counts for each handle the pages it was met
on.  Of several assets with one handle on a page only the last is kept, so a page counts once,
and a handle that was counted as often as pages were visited was met on every one of them.
-/

namespace PluginAudit

open PluginAudit.Text

namespace Assoc

variable {κ α β : Type} {less : κ → κ → Bool} [BEq κ] [LawfulBEq κ]

/-- Changing the values under different keys one after another changes each of them once. -/
theorem get?_foldl_update (order : KeyOrder less) (initial : β → α) (change : α → α) {changes : List (κ × β)}
    (distinct : (changes.map Prod.fst).Nodup) {entries : List (κ × α)} (ascending : Ascending less entries)
    (key : κ) :
    get? key (changes.foldl (fun stored item => update less item.1 (initial item.2) change stored) entries) =
      match get? key changes with
      | some value => some (change ((get? key entries).getD (initial value)))
      | none => get? key entries := by
  induction changes generalizing entries with
  | nil => rfl
  | cons item rest inductionHypothesis =>
    obtain ⟨here, later⟩ := item
    rw [List.map_cons, List.nodup_cons] at distinct
    rw [List.foldl_cons, inductionHypothesis distinct.2 (ascending_update order _ _ change ascending)]
    by_cases same : here = key
    · have once : get? key rest = none := get?_eq_none_iff_not_mem.mpr (same ▸ distinct.1)
      subst same
      simp [once, get?, get?_update_self order _ _ change ascending]
    · simp [get?, same, get?_update_other order (Ne.symm same)]

theorem ascending_foldl_update (order : KeyOrder less) (initial : β → α) (change : α → α) (changes : List (κ × β))
    {entries : List (κ × α)} (ascending : Ascending less entries) :
    Ascending less (changes.foldl (fun stored item => update less item.1 (initial item.2) change stored) entries) := by
  induction changes generalizing entries with
  | nil => exact ascending
  | cons item rest inductionHypothesis => exact inductionHypothesis (ascending_update order _ _ change ascending)

end Assoc

namespace EnqueuedAssets

variable {context : PluginContext} {kind : AssetKind} {world : World} {handle : String}

/-! ## One page -/

/-- The asset that counts for a handle on a page: the last that was enqueued under it. -/
def lastOf (handle : String) (assets : List Asset) : Option Asset :=
  assets.reverse.find? fun asset => asset.handle = handle

theorem lastOf_cons (handle : String) (asset : Asset) (rest : List Asset) :
    lastOf handle (asset :: rest) = (lastOf handle rest).or (if asset.handle = handle then some asset else none) := by
  simp [lastOf, List.find?_singleton]

/-- There is such an asset if any is enqueued under the handle. -/
theorem isSome_lastOf {assets : List Asset} :
    (lastOf handle assets).isSome ↔ ∃ asset ∈ assets, asset.handle = handle := by
  simp [lastOf]

theorem get?_foldl_put (handle : String) (assets : List Asset) (before : List (String × Asset)) :
    Assoc.get? handle (assets.foldl (fun page asset => Assoc.put textLess asset.handle asset page) before) =
      (lastOf handle assets).or (Assoc.get? handle before) := by
  induction assets generalizing before with
  | nil => rfl
  | cons asset rest inductionHypothesis =>
    rw [List.foldl_cons, inductionHypothesis, lastOf_cons]
    by_cases same : asset.handle = handle
    · subst same
      cases lastOf asset.handle rest <;> simp [Assoc.get?_put_self .text]
    · simp [same, Assoc.get?_put_other .text (Ne.symm same)]

/-- A page has one asset for each handle. -/
theorem get?_byHandle (handle : String) (assets : List Asset) :
    Assoc.get? handle (byHandle assets) = lastOf handle assets := by
  simp [byHandle, get?_foldl_put, Assoc.get?]

theorem ascending_byHandle (assets : List Asset) : Assoc.Ascending textLess (byHandle assets) := by
  suffices ascends : ∀ before : List (String × Asset), Assoc.Ascending textLess before →
      Assoc.Ascending textLess (assets.foldl (fun page asset => Assoc.put textLess asset.handle asset page) before) from
    ascends [] .nil
  induction assets with
  | nil => exact fun before ascending => ascending
  | cons asset rest inductionHypothesis =>
    intro before ascending
    exact inductionHypothesis _ (Assoc.ascending_put .text _ _ ascending)

/-! ## Counting pages -/

variable {tally : Tally}

theorem ascending_countPage (ascending : Assoc.Ascending textLess tally) (assets : List Asset) :
    Assoc.Ascending textLess (countPage tally assets) :=
  Assoc.ascending_foldl_update .text (fun asset : Asset => (0, asset)) (fun counted => (counted.1 + 1, counted.2))
    (byHandle assets) ascending

/-- A page adds one to the count of each handle that it has, however often it has it. -/
theorem get?_countPage (ascending : Assoc.Ascending textLess tally) (assets : List Asset) (handle : String) :
    Assoc.get? handle (countPage tally assets) =
      match lastOf handle assets with
      | some asset =>
        match Assoc.get? handle tally with
        | some (count, first) => some (count + 1, first)
        | none => some (1, asset)
      | none => Assoc.get? handle tally := by
  have counted := Assoc.get?_foldl_update .text (fun asset : Asset => (0, asset))
    (fun counted => (counted.1 + 1, counted.2)) ((ascending_byHandle assets).nodup_keys .text) ascending handle
  rw [get?_byHandle] at counted
  refine counted.trans ?_
  cases lastOf handle assets with
  | none => rfl
  | some asset => cases Assoc.get? handle tally <;> rfl

/-- Whether a page has an asset under a handle. -/
def meets (handle : String) (assets : List Asset) : Bool := (lastOf handle assets).isSome

/-- What a tally says after pages: for each handle that was met, on how many of them and
which asset the first of these had. -/
structure Tallies (pages : List (List Asset)) (tally : Tally) : Prop where
  ascending : Assoc.Ascending textLess tally
  get?_eq : ∀ handle, Assoc.get? handle tally =
    (pages.findSome? (lastOf handle)).map fun first => (pages.countP (meets handle), first)

theorem Tallies.nil : Tallies [] [] := ⟨.nil, fun _ => rfl⟩

theorem countP_meets_eq_zero {pages : List (List Asset)} (never : pages.findSome? (lastOf handle) = none) :
    pages.countP (meets handle) = 0 := by
  rw [List.findSome?_eq_none_iff] at never
  rw [List.countP_eq_zero]
  intro assets member
  simp [meets, never assets member]

/-- One more page. -/
theorem Tallies.countPage {pages : List (List Asset)} (tallies : Tallies pages tally) (assets : List Asset) :
    Tallies (pages ++ [assets]) (countPage tally assets) := by
  refine ⟨ascending_countPage tallies.ascending assets, fun handle => ?_⟩
  rw [get?_countPage tallies.ascending, tallies.get?_eq]
  cases earlier : pages.findSome? (lastOf handle) with
  | none =>
    have never := countP_meets_eq_zero earlier
    cases here : lastOf handle assets <;> simp [earlier, here, never, meets]
  | some first => cases here : lastOf handle assets <;> simp [earlier, here, meets]

/-- Where requests are answered, the pages of all addresses are counted. -/
theorem exists_runIn_tallyPages (context : PluginContext) (kind : AssetKind)
    (answers : world.host.answersRequests) {pages : List (List Asset)} (tallies : Tallies pages tally) (all : List String) :
    ∃ counted, ((tallyPages context kind tally all).runIn world).1 = .ok counted ∧
      Tallies (pages ++ all.map (page context kind world.host)) counted := by
  induction all generalizing tally world pages with
  | nil => exact ⟨tally, rfl, by simpa using tallies⟩
  | cons address rest inductionHypothesis =>
    let visited : World := { world with host := world.host.requesting [address] }
    have stillAnswers : visited.host.answersRequests := by
      rwa [Host.answersRequests_requesting]
    obtain ⟨counted, outcome, sums⟩ :=
      inductionHypothesis stillAnswers (tallies.countPage (page context kind world.host address))
    refine ⟨counted, ?_, ?_⟩
    · rw [tallyPages, Act.runIn_bind, runIn_visit_page answers]
      exact outcome
    · have samePages : page context kind visited.host = page context kind world.host :=
        funext fun other => page_requesting world.host [address] other
      simpa [samePages] using sums

/-! ## Warnings -/

/-- The warning of an asset that is loaded everywhere. -/
def scopeFinding (context : PluginContext) (kind : AssetKind) (asset : Asset) : Finding :=
  { severity := .warning
    text := "This " ++ noun kind ++ " is being loaded in all contexts."
    code := scopeCode kind
    file := (fileOf context asset).text }

/-- A count that is the number of pages is one of all pages. -/
theorem mem_of_count_eq {home : List Asset} {others : List (List Asset)} (tallies : Tallies (home :: others) tally)
    {first : Asset} :
    (handle, (home :: others).length, first) ∈ tally ↔
      lastOf handle home = some first ∧ ∀ assets ∈ others, meets handle assets := by
  rw [← tallies.ascending.get?_eq_some .text, tallies.get?_eq, List.findSome?_cons]
  cases here : lastOf handle home with
  | none =>
    -- a handle that the first page lacks is met on fewer pages
    have fewer : others.countP (meets handle) < others.length + 1 :=
      Nat.lt_succ_of_le List.countP_le_length
    rw [Option.map_eq_some_iff]
    simp [here, meets, fewer.ne]
  | some asset => simp [here, meets, and_comm, List.countP_eq_length]

/-- The handles that a tally counts on all pages. -/
def handlesOnAll (pages : Nat) (tally : Tally) : List String :=
  (tally.filter fun (_, count, _) => count == pages).map Prod.fst

theorem mem_handlesOnAll {pages : Nat} :
    handle ∈ handlesOnAll pages tally ↔ ∃ first, (handle, pages, first) ∈ tally := by
  simp only [handlesOnAll, List.mem_map, List.mem_filter, beq_iff_eq]
  constructor
  · rintro ⟨⟨_, _, first⟩, ⟨member, rfl⟩, rfl⟩
    exact ⟨first, member⟩
  · rintro ⟨first, member⟩
    exact ⟨_, ⟨member, rfl⟩, rfl⟩

theorem pairwise_handlesOnAll (ascending : Assoc.Ascending textLess tally) (pages : Nat) :
    (handlesOnAll pages tally).Pairwise (· < ·) := by
  rw [handlesOnAll, List.pairwise_map]
  apply (ascending.filter _).imp
  intro a b before
  simpa [textLess] using before

/-- Each handle that is on all pages is warned of once, with its asset on the first page. -/
theorem forall₂_scopeFindings {home : List Asset} {others : List (List Asset)} (tallies : Tallies (home :: others) tally) :
    List.Forall₂ (fun handle warning => ∃ asset, lastOf handle home = some asset ∧
        warning = scopeFinding context kind asset)
      (handlesOnAll (home :: others).length tally) (scopeFindings context kind (home :: others).length tally) := by
  rw [handlesOnAll, scopeFindings, List.forall₂_map_left_iff, List.forall₂_map_right_iff, List.forall₂_same]
  intro entry member
  obtain ⟨handle, count, first⟩ := entry
  simp only [List.mem_filter, beq_iff_eq] at member
  obtain ⟨member, rfl⟩ := member
  exact ⟨first, ((mem_of_count_eq tallies).mp member).1, rfl⟩

theorem run_scopeCheck (context : PluginContext) (kind : AssetKind) {all : List String}
    (found : addresses world.host = .ok all) (answers : world.host.answersRequests) :
    ∃ tally, Tallies (all.map (page context kind world.host)) tally ∧
      ((scopeCheck kind).run context world).1 = .found (scopeFindings context kind all.length tally) := by
  obtain ⟨tally, counted, tallies⟩ := exists_runIn_tallyPages context kind answers .nil all
  refine ⟨tally, tallies, ?_⟩
  simp only [scopeCheck, found, counted]
  rfl

/-- A check of scope that succeeds warns once of each handle under which the plugin has an
asset on every page that is visited, and of no other.  The warning names the last asset under
the handle on the home page. -/
theorem scopeCheck_warns_exactly (succeeds : ((scopeCheck kind).run context world).1.failure = none) :
    ∃ all handles, addresses world.host = .ok all ∧ handles.Pairwise (· < ·) ∧
      (∀ handle, handle ∈ handles ↔
        ∀ address ∈ all, ∃ asset ∈ page context kind world.host address, asset.handle = handle) ∧
      List.Forall₂ (fun handle warning => ∃ asset,
          lastOf handle (page context kind world.host (world.host.homeAddress ++ "/")) = some asset ∧
            warning = scopeFinding context kind asset)
        handles ((scopeCheck kind).run context world).1.findings := by
  obtain ⟨⟨all, visited⟩, answers⟩ := (IsAssetCheck.scope kind).exists_addresses_of_succeeds succeeds
  obtain ⟨tally, tallies, outcome⟩ := run_scopeCheck context kind visited answers
  obtain ⟨rest, rfl⟩ := addresses_eq_ok visited
  rw [List.map_cons] at tallies
  have pages : rest.length + 1 = (page context kind world.host (world.host.homeAddress ++ "/") ::
      rest.map (page context kind world.host)).length := by simp
  refine ⟨_, handlesOnAll (rest.length + 1) tally, visited, pairwise_handlesOnAll tallies.ascending _, ?_, ?_⟩
  · intro handle
    rw [mem_handlesOnAll, pages]
    simp only [mem_of_count_eq tallies, exists_and_right, ← Option.isSome_iff_exists, isSome_lastOf, meets,
      List.forall_mem_map, List.forall_mem_cons]
  · rw [outcome, CheckOutcome.found, List.length_cons, pages]
    exact forall₂_scopeFindings tallies

/-- A site with a post, on whose home page a plugin loads a script twice that it loads once
everywhere, and another script only there. -/
def siteWithPost : World where
  disk := .empty
  host :=
    let script (handle file : String) : Asset :=
      { handle, kind := .script, source := "http://example.org/wp-content/plugins/foo/" ++ file
        path := none, size := 1 }
    let home := some "http://example.org/"
    { Host.simulated ⟨"site"⟩
        { postTypes := ["post"]
          assets := [⟨"foo/foo.php", none, script "all" "all.js"⟩, ⟨"foo/foo.php", home, script "all" "home.js"⟩,
            ⟨"foo/foo.php", home, script "home" "home.js"⟩] } with
      active := [("wp_", ["foo/foo.php"])]
      posts := [(1, ⟨"wp_", Post.demo "post"⟩)] }

theorem scopeCheck_warns_siteWithPost :
    let context := PluginContext.ofMainFile ⟨"site/wp-content/plugins/foo/foo.php"⟩
      ⟨"site/wp-content/plugins"⟩ "http://example.org/wp-content/plugins"
    let host := siteWithPost.host
    let found := ((scopeCheck .script).run context siteWithPost).1
    found.failure = none ∧
    ∃ all handles, addresses host = .ok all ∧ handles.Pairwise (· < ·) ∧
      (∀ handle, handle ∈ handles ↔
        ∀ address ∈ all, ∃ asset ∈ page context .script host address, asset.handle = handle) ∧
      List.Forall₂ (fun handle warning => ∃ asset,
          lastOf handle (page context .script host (host.homeAddress ++ "/")) = some asset ∧
            warning = scopeFinding context .script asset)
        handles found.findings := by
  intro context host found
  have succeeds : found.failure = none := rfl
  exact ⟨succeeds, scopeCheck_warns_exactly succeeds⟩

/-- The script that is loaded everywhere is warned of once, by its last source on the home page. -/
example :
    ((scopeCheck .script).run (.ofMainFile ⟨"site/wp-content/plugins/foo/foo.php"⟩
      ⟨"site/wp-content/plugins"⟩ "http://example.org/wp-content/plugins") siteWithPost).1.findings.map Finding.file =
        ["home.js"] := by decide +kernel

end EnqueuedAssets

end PluginAudit
