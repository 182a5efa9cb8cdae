import PluginAudit.Proofs.Checks.Sizes
import PluginAudit.Proofs.Plugin.Context

/-!
# Whose assets are looked at

Assets are told apart by the directory they lie in or are served from.  A plugin
with a directory of its own is told apart from all others, so its checks come to
the same on a site without the assets of others.  The directory of a plugin that is
a single file is that of all plugins: whatever another plugin loads counts as its
own.
-/

namespace PluginAudit

open PluginAudit.Text

/-! ## Assets of a directory -/

/-- An asset that belongs to a directory below that of all plugins: the file behind
it lies there or, if that is not known, it is served from there. -/
def Asset.BelongsTo (asset : Asset) (plugins : Path) (address directory : String) : Prop :=
  match asset.path with
  | some path =>
      ∃ below : List (List Char),
        path.components = plugins.components ++ (directory.toList :: below).map .normal
  | none =>
      (Host.withoutTrailingSlashes address ++ "/" ++ directory ++ "/").toList <+: asset.source.toList

/-- An asset of another directory than that of a plugin. -/
def Asset.Foreign (asset : Asset) (plugins : Path) (address : String) (own : Option String) : Prop :=
  ∃ directory, '/' ∉ directory.toList ∧ own ≠ some directory ∧
    asset.BelongsTo plugins address directory

namespace EnqueuedAssets

variable {mainFile plugins : Path} {own : Option String} {address : String} {asset : Asset}

/-- Of directories that start one text up to a slash there is only one. -/
theorem directory_eq_of_isPrefix {front text : List Char} {one other : String} (notOne : '/' ∉ one.toList)
    (notOther : '/' ∉ other.toList) (starts : front ++ one.toList ++ ['/'] <+: text)
    (otherStarts : front ++ other.toList ++ ['/'] <+: text) : one = other := by
  obtain ⟨rest, rfl⟩ := starts
  obtain ⟨otherRest, same⟩ := otherStarts
  have behind : other.toList ++ '/' :: otherRest = one.toList ++ '/' :: rest := by
    simpa using same
  have cuts := splitOnce?_append notOther otherRest
  rw [behind, splitOnce?_append notOne rest] at cuts
  exact String.toList_injective (congrArg Prod.fst (Option.some.inj cuts))

/-- An asset of another directory counts as one of the plugin exactly if that is a
single file. -/
theorem isOwn_of_foreign (lies : mainFile.LiesIn plugins own)
    (foreign : asset.Foreign plugins address own) :
    isOwn (.ofMainFile mainFile plugins address) asset =
      (PluginContext.ofMainFile mainFile plugins address).isSingleFile := by
  obtain ⟨directory, noSlash, other, belongs⟩ := foreign
  rw [PluginContext.isSingleFile_ofMainFile lies, Bool.eq_iff_iff]
  unfold isOwn
  unfold Asset.BelongsTo at belongs
  cases behind : asset.path with
  | some path =>
    simp only [behind] at belongs ⊢
    obtain ⟨below, components⟩ := belongs
    rw [Path.startsWith, PluginContext.components_directory lies, components,
      List.isPrefixOf_iff_prefix, List.prefix_append_right_inj]
    cases own with
    | none => simp
    | some name =>
      have different : name.toList ≠ directory.toList := fun same =>
        other (congrArg some (String.toList_injective same))
      simpa using different
  | none =>
    simp only [behind] at belongs ⊢
    rw [isSome_after?, PluginContext.address_ofMainFile lies]
    simp only [String.toList_append] at belongs ⊢
    cases own with
    | none =>
      refine iff_of_true (.trans ?_ belongs) rfl
      simp
    | some name =>
      refine iff_of_false (fun starts => other ?_) Bool.false_ne_true
      have isName : Path.Component.normal name.toList ∈
          (PluginContext.ofMainFile mainFile plugins address).directory.components := by
        simp [PluginContext.components_directory lies]
      refine congrArg some (directory_eq_of_isPrefix (Path.slash_not_mem_name isName) noSlash ?_ belongs)
      simpa [String.toList_append] using starts

end EnqueuedAssets

/-! ## Sites without some assets -/

namespace Host

/-- A site that loads no omitted assets. -/
def lacking (omitted : Asset → Bool) (h : Host) : Host :=
  match h.runtime with
  | .simulated simulation =>
      { h with
        runtime := .simulated { simulation with
          assets := simulation.assets.filter fun registered => !omitted registered.asset } }
  | .installed _ => h

variable (h : Host) (omitted : Asset → Bool)

theorem publicPostTypes_lacking : (h.lacking omitted).publicPostTypes = h.publicPostTypes := by
  unfold lacking publicPostTypes
  cases behind : h.runtime <;> simp [behind]

/-- A request is answered as before, but for what is omitted. -/
theorem dispatch_lacking (address : String) :
    (h.lacking omitted).dispatch address =
      ((h.dispatch address).1.lacking omitted,
        (h.dispatch address).2.map (List.filter fun asset => !omitted asset)) := by
  unfold dispatch
  cases behind : h.runtime with
  | installed root => simp [lacking, behind, Except.map]
  | simulated simulation =>
    cases answers : simulation.answersRequests with
    | false => simp [lacking, behind, answers, Except.map]
    | true =>
      simp only [lacking, behind, answers, Except.map, loadedAssets, Bool.not_true, Bool.false_eq_true,
        if_false, List.filter_map, List.filter_filter, Prod.mk.injEq, true_and]
      refine congrArg _ (congrArg _ (List.filter_congr fun registered _ => ?_))
      exact Bool.and_comm _ _

end Host

def World.lacking (omitted : Asset → Bool) (world : World) : World :=
  { world with host := world.host.lacking omitted }

/-- An action that comes to the same where some assets are not loaded. -/
def Act.Overlooks {α : Type} (omitted : Asset → Bool) (action : Act α) : Prop :=
  ∀ world, action.runIn (world.lacking omitted) =
    ((action.runIn world).1, (action.runIn world).2.lacking omitted)

namespace Act.Overlooks

variable {α β : Type} {omitted : Asset → Bool}

theorem pure (value : α) : Overlooks omitted (pure value : Act α) := fun _ => rfl

theorem bind {action : Act α} {next : α → Act β} (first : Overlooks omitted action)
    (second : ∀ value, Overlooks omitted (next value)) : Overlooks omitted (action >>= next) := by
  intro world
  rw [runIn_bind, runIn_bind, first world]
  rcases action.runIn world with ⟨e | value, after⟩
  · rfl
  · exact second value after

end Act.Overlooks

namespace EnqueuedAssets

variable {omitted : Asset → Bool} {context : PluginContext}

theorem addresses_lacking (omitted : Asset → Bool) (h : Host) :
    addresses (h.lacking omitted) = addresses h := by
  have sameFields : (h.lacking omitted).homeAddress = h.homeAddress ∧
      (h.lacking omitted).findPost = h.findPost ∧ (h.lacking omitted).permalink = h.permalink := by
    unfold Host.lacking
    cases h.runtime <;> exact ⟨rfl, rfl, rfl⟩
  obtain ⟨home, posts, links⟩ := sameFields
  exact addresses_congr home (h.publicPostTypes_lacking omitted) posts links

/-- Where only assets of others are omitted, the plugin loads the same. -/
theorem visit_overlooks (others : ∀ asset, omitted asset → ¬ isOwn context asset) (kind : AssetKind)
    (address : String) : Act.Overlooks omitted (visit context kind address) := by
  intro world
  have kept (asset : Asset) :
      ((asset.kind == kind && isOwn context asset) && !omitted asset) =
        (asset.kind == kind && isOwn context asset) := by
    cases isOmitted : omitted asset with
    | false => rw [Bool.not_false, Bool.and_true]
    | true => simp [others asset isOmitted]
  unfold visit
  rw [Act.runIn_eq, Act.runIn_eq]
  simp only [World.lacking, Host.dispatch_lacking]
  cases world.host.dispatch address with
  | mk host answer =>
    cases answer with
    | error e => rfl
    | ok assets => simp [Except.map, List.filter_filter, kept]

theorem lookAtSizes_lacking (others : ∀ asset, omitted asset → ¬ isOwn context asset) (kind : AssetKind)
    (threshold : UInt64) (world : World) (all : List String) :
    lookAtSizes context kind threshold (world.lacking omitted) all =
      ((lookAtSizes context kind threshold world all).1,
        (lookAtSizes context kind threshold world all).2.lacking omitted) := by
  induction all generalizing world with
  | nil => rfl
  | cons address rest inductionHypothesis =>
    simp only [lookAtSizes, visit_overlooks others kind address world]
    rcases (visit context kind address).runIn world with ⟨e | assets, after⟩
    · rfl
    · simp only [inductionHypothesis]
      cases sizeFindings context kind threshold address assets <;> rfl

theorem tallyPages_overlooks (others : ∀ asset, omitted asset → ¬ isOwn context asset) (kind : AssetKind)
    (tally : Tally) (all : List String) : Act.Overlooks omitted (tallyPages context kind tally all) := by
  induction all generalizing tally with
  | nil => exact .pure tally
  | cons address rest inductionHypothesis =>
    exact .bind (visit_overlooks others kind address) fun _ => inductionHypothesis _

/-- The checks of assets come to the same on a site without the assets of others. -/
theorem IsAssetCheck.run_lacking {check : Check} (isAsset : IsAssetCheck check)
    (others : ∀ asset, omitted asset → ¬ isOwn context asset) (world : World) :
    check.run context (world.lacking omitted) =
      ((check.run context world).1, (check.run context world).2.lacking omitted) := by
  have sameAddresses : addresses (world.lacking omitted).host = addresses world.host :=
    addresses_lacking omitted world.host
  cases isAsset with
  | size kind threshold =>
    simp only [sizeCheck, sameAddresses]
    split
    · rfl
    · exact lookAtSizes_lacking others kind threshold world _
  | scope kind =>
    simp only [scopeCheck, sameAddresses]
    split
    · rfl
    · rename_i all _
      rw [tallyPages_overlooks others kind [] all world]

theorem lacking_siteLoading {asset : Asset} (isOmitted : omitted asset) (plugin : String) :
    (siteLoading plugin [asset]).lacking omitted = siteLoading plugin [] := by
  simp [World.lacking, Host.lacking, siteLoading, Host.simulated, Host.fresh, isOmitted]

theorem totalSize_singleton (asset : Asset) : totalSize [asset] = .ok asset.size := by
  rw [totalSize, List.foldlM_cons, addSize, if_neg (by simp), UInt64.zero_add]
  rfl

/-- On a site with one asset, the check of sizes warns of it if it counts as the plugin's own and
is too large. -/
theorem run_siteLoading {asset : Asset} (counts : isOwn context asset) (plugin : String)
    {threshold : UInt64} (tooLarge : threshold < asset.size) :
    ((sizeCheck asset.kind threshold).run context (siteLoading plugin [asset])).1 =
      .found [sizeFinding context asset.kind threshold "http://example.org/" asset] := by
  have loaded : page context asset.kind (siteLoading plugin [asset]).host "http://example.org/" =
      [asset] := by simp [page_siteLoading, counts]
  have above : ¬ asset.size ≤ threshold := by
    rw [UInt64.le_iff_toNat_le]
    rw [UInt64.lt_iff_toNat_lt] at tooLarge
    omega
  have answers : (siteLoading plugin [asset]).host.answersRequests := rfl
  simp only [sizeCheck, addresses_siteLoading, lookAtSizes, runIn_visit_page answers, loaded, sizeFindings,
    totalSize_singleton, Except.map, above, if_false]
  rfl

theorem run_siteLoading_nil (kind : AssetKind) (plugin : String) (threshold : UInt64) :
    ((sizeCheck kind threshold).run context (siteLoading plugin [])).1 = .found [] := rfl

/-- The checks of assets come to the same without any assets of other directories exactly for
a plugin that has a directory of its own. -/
theorem overlooks_others_iff (lies : mainFile.LiesIn plugins own) (address : String) :
    let context := PluginContext.ofMainFile mainFile plugins address
    (∀ check, IsAssetCheck check → ∀ omitted : Asset → Bool,
      (∀ asset, omitted asset → asset.Foreign plugins address own) →
        ∀ world, (check.run context (world.lacking omitted)).1 = (check.run context world).1) ↔
      context.isSingleFile = false := by
  intro context
  constructor
  · intro overlooks
    by_contra single
    have isSingle : context.isSingleFile := by simpa using single
    obtain rfl : own = none := by
      rw [PluginContext.isSingleFile_ofMainFile lies] at isSingle
      exact Option.isNone_iff_eq_none.mp isSingle
    -- what another plugin loads is too large by itself
    let asset : Asset :=
      { handle := "bar", kind := .script
        source := Host.withoutTrailingSlashes address ++ "/" ++ "bar" ++ "/", path := none, size := 1 }
    have foreign : asset.Foreign plugins address none :=
      ⟨"bar", by decide, nofun, List.prefix_rfl⟩
    have counts : isOwn context asset := by rw [isOwn_of_foreign lies foreign, isSingle]
    let omitted : Asset → Bool := (· == asset)
    have isOmitted : omitted asset := beq_self_eq_true asset
    have same := overlooks (sizeCheck asset.kind 0) (.size _ _) omitted
      (fun other isAsset => beq_iff_eq.mp isAsset ▸ foreign) (siteLoading "bar/bar.php" [asset])
    rw [lacking_siteLoading isOmitted, run_siteLoading counts _ (by simp [asset]), run_siteLoading_nil] at same
    cases same
  · intro directory check isAsset omitted others world
    have foreign (asset : Asset) (isOmitted : omitted asset) : ¬ isOwn context asset := by
      rw [isOwn_of_foreign lies (others asset isOmitted)]
      simpa using directory
    rw [isAsset.run_lacking foreign]

theorem overlooks_others_directory :
    let mainFile : Path := ⟨"site/wp-content/plugins/foo/foo.php"⟩
    let plugins : Path := ⟨"site/wp-content/plugins"⟩
    let address := "http://example.org/wp-content/plugins"
    let context := PluginContext.ofMainFile mainFile plugins address
    mainFile.LiesIn plugins (some "foo") ∧
    ((∀ check, IsAssetCheck check → ∀ omitted : Asset → Bool,
      (∀ asset, omitted asset → asset.Foreign plugins address (some "foo")) →
        ∀ world, (check.run context (world.lacking omitted)).1 = (check.run context world).1) ↔
      context.isSingleFile = false) := by
  have lies : Path.LiesIn ⟨"site/wp-content/plugins/foo/foo.php"⟩ ⟨"site/wp-content/plugins"⟩
      (some "foo") := ⟨⟨"site/wp-content/plugins/foo"⟩, by decide, by decide⟩
  exact ⟨lies, overlooks_others_iff lies _⟩

/-- A plugin that is a single file is blamed for the script of another. -/
theorem blames_single_file :
    let mainFile : Path := ⟨"site/wp-content/plugins/hello.php"⟩
    let plugins : Path := ⟨"site/wp-content/plugins"⟩
    let address := "http://example.org/wp-content/plugins"
    let context := PluginContext.ofMainFile mainFile plugins address
    let asset : Asset :=
      { handle := "bar", kind := .script, source := address ++ "/bar/bar.js", path := none
        size := 1000000 }
    mainFile.LiesIn plugins none ∧ asset.Foreign plugins address none ∧
    ((sizeCheck .script 300000).run context (siteLoading "bar/bar.php" [asset])).1 =
      .found [sizeFinding context .script 300000 "http://example.org/" asset] ∧
    ((sizeCheck .script 300000).run context (siteLoading "bar/bar.php" [])).1 = .found [] := by
  intro mainFile plugins address context asset
  have lies : mainFile.LiesIn plugins none := ⟨plugins, by decide, by decide⟩
  have served : Host.withoutTrailingSlashes address = address := by decide
  have foreign : asset.Foreign plugins address none := by
    refine ⟨"bar", by decide, nofun, "bar.js".toList, ?_⟩
    rw [served]
    simp [asset]
  have counts : isOwn context asset := by
    rw [isOwn_of_foreign lies foreign, PluginContext.isSingleFile_ofMainFile lies]
    rfl
  exact ⟨lies, foreign, run_siteLoading counts _ (by decide), run_siteLoading_nil .script _ 300000⟩

end EnqueuedAssets

end PluginAudit
