import PluginAudit.Checks.Standard
import PluginAudit.Proofs.Check.Repository
import PluginAudit.Proofs.Checks.Modest

/-!
# What the built-in checks change

A built-in check reads files, has a linter look at them, or visits pages of the site with demo
posts.  What the linter spares, apart from posts and requested addresses, is spared by all of
them.
-/

namespace PluginAudit

variable {γ : Type} {view : World → γ} {check : Check}

namespace CheckRepository

variable {before after : CheckRepository}

theorem mem_of_register {slug : String} (registered : before.register slug check = .ok after) :
    ∀ entry ∈ after.staticChecks ++ after.runtimeChecks,
      entry ∈ before.staticChecks ++ before.runtimeChecks ∨ entry = (slug, check) := by
  unfold register at registered
  split at registered
  · cases registered
  · split at registered
    · cases registered
    · split at registered <;> cases registered <;> intro entry member <;>
        simp only [List.mem_append, List.mem_singleton] at member ⊢ <;> tauto

/-- What is registered was there before or is one of the checks that were given. -/
theorem mem_of_registerAll {checks : List (String × Check)} (registered : before.registerAll checks = .ok after) :
    ∀ entry ∈ after.staticChecks ++ after.runtimeChecks,
      entry ∈ before.staticChecks ++ before.runtimeChecks ∨ entry ∈ checks := by
  induction checks generalizing before with
  | nil =>
    cases registered
    exact fun entry member => .inl member
  | cons first rest inductionHypothesis =>
    obtain ⟨slug, check⟩ := first
    simp only [registerAll, List.foldlM_cons, bind, Except.bind] at registered
    split at registered
    · cases registered
    · rename_i middle added
      intro entry member
      rcases inductionHypothesis registered entry member with earlier | later
      · rcases mem_of_register added entry earlier with old | rfl
        · exact .inl old
        · exact .inr List.mem_cons_self
      · exact .inr (List.mem_cons_of_mem _ later)

end CheckRepository

theorem EnqueuedAssets.IsAssetCheck.leaves (isAsset : IsAssetCheck check) (unposted : World.Unposted view)
    (unrequested : World.Unrequested view) : check.Leaves view := by
  refine ⟨isAsset.spares unrequested, fun host request member => ?_⟩
  rw [isAsset.sharedPreparations, List.mem_singleton] at member
  rw [member]
  exact DemoPosts.request_spares unposted _

namespace StandardChecks

variable {linter : Linter}

/-- The kinds of built-in checks. -/
inductive IsBuiltIn (linter : Linter) : Check → Prop
  | files (categories : List Category) (description documentation : String)
      (look : PluginContext → Disk → CheckOutcome)
      (overlooks : ∀ {context d grown}, d.GainsBeside context grown → look context grown = look context d) :
      IsBuiltIn linter (.ofFiles categories description documentation look)
  | rule (rule : LinterRule) : IsBuiltIn linter (rule.check linter)
  | assets {check : Check} : EnqueuedAssets.IsAssetCheck check → IsBuiltIn linter check

namespace IsBuiltIn

theorem leaves (builtIn : IsBuiltIn linter check)
    (linting : ∀ standard options target, Act.Spares view (linter.lint standard options target))
    (unposted : World.Unposted view) (unrequested : World.Unrequested view) : check.Leaves view := by
  cases builtIn with
  | files categories description documentation look overlooks => exact ⟨⟨fun _ _ => rfl, nofun⟩, nofun⟩
  | rule rule => exact ⟨⟨fun context world => linting _ _ _ world, nofun⟩, nofun⟩
  | assets isAsset => exact isAsset.leaves unposted unrequested

/-- A built-in check reads files or visits pages, given that the linter reads files. -/
theorem modest (builtIn : IsBuiltIn linter check) (reads : linter.ReadsFiles) : check.Modest := by
  cases builtIn with
  | files categories description documentation look overlooks => exact .inl (.ofFiles overlooks _ _ _)
  | rule rule => exact .inl (rule.readsFiles reads)
  | assets isAsset => exact .inr isAsset.visitsPages

/-- Only the linter can be missing. -/
theorem unavailability_congr (builtIn : IsBuiltIn linter check) {one other : World}
    (same : linter.isAvailable one = linter.isAvailable other) :
    check.unavailability one = check.unavailability other := by
  cases builtIn with
  | files categories description documentation look overlooks => rfl
  | rule rule => simp only [LinterRule.check, same]
  | assets isAsset => cases isAsset <;> rfl

end IsBuiltIn

variable {config : CheckConfig} {environment : EnvironmentType}

theorem isBuiltIn_of_uploads {uploads : Check} (compiled : UnfilteredUploadsCheck.check = .ok uploads) :
    IsBuiltIn linter uploads := by
  unfold UnfilteredUploadsCheck.check at compiled
  cases parsed : Pattern.compile UnfilteredUploadsCheck.definition with
  | error e => simp [parsed, Except.map] at compiled
  | ok pattern =>
    rw [parsed] at compiled
    cases compiled
    exact .files _ _ _ _ (UnfilteredUploadsCheck.look_beside pattern)

theorem isBuiltIn_of_entries {found : List (String × Check)} (made : entries config environment linter = .ok found) :
    ∀ entry ∈ found, IsBuiltIn linter entry.2 := by
  unfold entries at made
  simp only [bind, Except.bind] at made
  split at made
  · cases made
  · split at made
    · cases made
    · split at made
      · cases made
      · rename_i kinds _ _ tools _ _ uploads compiled
        cases made
        have uploadsFiles : IsBuiltIn linter uploads := isBuiltIn_of_uploads compiled
        have headerFiles : IsBuiltIn linter HeaderFieldsCheck.check := by
          unfold HeaderFieldsCheck.check
          exact .files _ _ _ _ fun beside => by rw [beside.header]
        -- files before the rules of the linter, and assets behind them
        intro entry member
        simp only [List.mem_append, List.mem_cons, List.mem_map, List.not_mem_nil, or_false] at member
        rcases member with (isFiles | ⟨rule, -, rfl⟩) | isAssets
        · rcases isFiles with rfl | rfl | rfl | rfl | rfl | rfl
          · exact .files _ _ _ _ (FileTypeCheck.look_beside _ _ _)
          · exact .files _ _ _ _ (ObfuscationCheck.look_beside _)
          · exact .files _ _ _ _ (Trademarks.look_beside _)
          · exact .files _ _ _ _ PluginReadmeCheck.look_beside
          · exact headerFiles
          · exact uploadsFiles
        · exact .rule rule
        · rcases isAssets with rfl | rfl | rfl | rfl
          · exact .assets (.size .script _)
          · exact .assets (.size .style _)
          · exact .assets (.scope .script)
          · exact .assets (.scope .style)

theorem isBuiltIn_of_repository {r : CheckRepository} (made : repository config environment linter = .ok r) :
    ∀ entry ∈ r.staticChecks ++ r.runtimeChecks, IsBuiltIn linter entry.2 := by
  unfold repository at made
  simp only [bind, Except.bind] at made
  split at made
  · cases made
  · rename_i all found
    intro entry member
    rcases CheckRepository.mem_of_registerAll made entry member with none | given
    · cases none
    · exact isBuiltIn_of_entries found entry given

/-- No two built-in checks have the same slug. -/
theorem distinct_of_repository {r : CheckRepository} (made : repository config environment linter = .ok r) :
    ((r.staticChecks ++ r.runtimeChecks).map Prod.fst).Nodup := by
  unfold repository at made
  simp only [bind, Except.bind] at made
  split at made
  · cases made
  · rw [CheckRepository.after_of_registerAll made]
    exact CheckRepository.distinct_after _

end StandardChecks

end PluginAudit
