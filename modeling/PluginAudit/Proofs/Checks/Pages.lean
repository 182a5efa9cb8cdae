import PluginAudit.Proofs.Checks.EnqueuedAssets

/-!
# What a plugin loads on a page

A site answers a request without regard to those before it, so checks that visit
pages in order see on each page what the site loads there from the start.
-/

namespace PluginAudit

/-- The answer to a request does not depend on the requests before. -/
theorem Host.answer_requesting (h : Host) (visited : List String) (address : String) :
    ((h.requesting visited).dispatch address).2 = (h.dispatch address).2 := by
  unfold requesting Runtime.requesting dispatch
  cases behind : h.runtime with
  | installed root => simp
  | simulated simulation =>
    dsimp only
    cases simulation.answersRequests <;> rfl

namespace EnqueuedAssets

variable {context : PluginContext} {kind : AssetKind} {world : World}

/-- The assets of a kind that a plugin loads on a page. -/
def page (context : PluginContext) (kind : AssetKind) (h : Host) (address : String) : List Asset :=
  match (h.dispatch address).2 with
  | .ok assets => assets.filter fun asset => asset.kind == kind && isOwn context asset
  | .error _ => []

theorem page_requesting (h : Host) (visited : List String) (address : String) :
    page context kind (h.requesting visited) address = page context kind h address := by
  rw [page, page, h.answer_requesting]

/-- A visit finds what the plugin loads on the page. -/
theorem runIn_visit_page (answers : world.host.answersRequests) (address : String) :
    (visit context kind address).runIn world =
      (.ok (page context kind world.host address),
        { world with host := world.host.requesting [address] }) := by
  rcases world.host.dispatch_cases address with ⟨assets, -, dispatched⟩ | ⟨e, refused, -⟩
  · unfold visit page
    rw [Act.runIn_eq]
    simp only [dispatched]
    rfl
  · exact absurd answers refused

theorem exists_runIn_visit (context : PluginContext) (kind : AssetKind)
    (refuses : ¬ world.host.answersRequests) (address : String) :
    ∃ e, (visit context kind address).runIn world = (.error e, world) := by
  rcases world.host.dispatch_cases address with ⟨assets, answers, -⟩ | ⟨e, -, dispatched⟩
  · exact absurd answers refuses
  · refine ⟨e, ?_⟩
    unfold visit
    rw [Act.runIn_eq]
    simp only [dispatched]
    rfl

/-- The home page is always visited, and first. -/
theorem addresses_eq_ok {h : Host} {all : List String} (found : addresses h = .ok all) :
    ∃ rest, all = (h.homeAddress ++ "/") :: rest := by
  unfold addresses at found
  cases posts : postAddresses h h.publicPostTypes with
  | error e =>
    rw [posts] at found
    cases found
  | ok rest =>
    rw [posts] at found
    exact ⟨rest, (Except.ok.inj found).symm⟩

/-- A check of assets that does not break has addresses to visit, and they are answered. -/
theorem IsAssetCheck.exists_addresses_of_succeeds {check : Check} (isAsset : IsAssetCheck check)
    (succeeds : (check.run context world).1.failure = none) :
    (∃ all, addresses world.host = .ok all) ∧ world.host.answersRequests := by
  cases found : addresses world.host with
  | error e => cases isAsset <;> simp only [sizeCheck, scopeCheck, found] at succeeds <;> cases succeeds
  | ok all =>
    refine ⟨⟨all, rfl⟩, ?_⟩
    by_contra refuses
    obtain ⟨rest, rfl⟩ := addresses_eq_ok found
    cases isAsset with
    | size kind threshold =>
      obtain ⟨e, failed⟩ := exists_runIn_visit context kind refuses (world.host.homeAddress ++ "/")
      simp only [sizeCheck, found, lookAtSizes, failed] at succeeds
      cases succeeds
    | scope kind =>
      obtain ⟨e, failed⟩ := exists_runIn_visit context kind refuses (world.host.homeAddress ++ "/")
      simp only [scopeCheck, found, tallyPages, Act.runIn_bind, failed] at succeeds
      cases succeeds

/-! ## A site with one page -/

/-- A simulated site on which a plugin loads assets. -/
def siteLoading (plugin : String) (assets : List Asset) : World where
  disk := .empty
  host :=
    { Host.simulated ⟨"site"⟩
        { postTypes := [], assets := assets.map fun asset => ⟨plugin, none, asset⟩ } with
      active := [("wp_", [plugin])] }

theorem addresses_siteLoading (plugin : String) (assets : List Asset) :
    addresses (siteLoading plugin assets).host = .ok ["http://example.org/"] := rfl

theorem page_siteLoading (plugin : String) (assets : List Asset) (address : String) :
    page context kind (siteLoading plugin assets).host address =
      assets.filter fun asset => asset.kind == kind && isOwn context asset := by
  let simulation : Simulation :=
    { postTypes := [], assets := assets.map fun asset => ⟨plugin, none, asset⟩ }
  have loaded : Host.loadedAssets simulation [plugin] address = assets := by
    simp [simulation, Host.loadedAssets, List.filter_map, Function.comp_def]
  have answer : ((siteLoading plugin assets).host.dispatch address).2 =
      .ok (Host.loadedAssets simulation [plugin] address) := rfl
  rw [page, answer, loaded]

end EnqueuedAssets

end PluginAudit
