import PluginAudit.Proofs.Check.Repository
import PluginAudit.Proofs.Checks.Standard

/-!
# What is known of a check before it runs

The slug, the mode, the stability and the categories of a check decide where it is registered,
whether it is listed and whether it is selected.  They are the same for the built-in checks in
every configuration, on every site and with every linter.
-/

namespace PluginAudit

/-- What decides whether a check is wanted. -/
structure Check.Profile where
  mode : ExecutionMode
  stability : Stability
  categories : List Category
deriving DecidableEq

def Check.profile (check : Check) : Check.Profile := ⟨check.mode, check.stability, check.categories⟩

/-- The slug of a check with its profile. -/
def profileOf (entry : String × Check) : String × Check.Profile := (entry.1, entry.2.profile)

namespace StandardChecks

variable {config : CheckConfig} {environment : EnvironmentType} {linter : Linter}

/-- The profiles of the built-in checks in the order of their registration. -/
def profiles : List (String × Check.Profile) :=
  (["file_type", "code_obfuscation", "trademarks", "plugin_readme", "plugin_header_fields",
      "no_unfiltered_uploads"].map fun slug => (slug, ⟨.static, .stable, [.pluginRepo]⟩)) ++
    (LinterRule.all.map fun rule => (rule.slug, ⟨.static, rule.stability, rule.categories⟩)) ++
    [("enqueued_scripts_size", ⟨.runtime, .stable, [.performance]⟩),
      ("enqueued_styles_size", ⟨.runtime, .stable, [.performance]⟩),
      ("enqueued_scripts_scope", ⟨.runtime, .experimental, [.performance]⟩),
      ("enqueued_styles_scope", ⟨.runtime, .experimental, [.performance]⟩)]

theorem profile_of_uploads {uploads : Check} (compiled : UnfilteredUploadsCheck.check = .ok uploads) :
    uploads.profile = ⟨.static, .stable, [.pluginRepo]⟩ := by
  unfold UnfilteredUploadsCheck.check at compiled
  cases parsed : Pattern.compile UnfilteredUploadsCheck.definition with
  | error e => simp [parsed, Except.map] at compiled
  | ok pattern =>
    rw [parsed] at compiled
    cases compiled
    rfl

/-- Neither the site nor the linter decides which checks there are. -/
theorem exists_entries {found : List (String × Check)} (made : entries config environment linter = .ok found)
    (environment' : EnvironmentType) (linter' : Linter) :
    ∃ found', entries config environment' linter' = .ok found' ∧ found'.map profileOf = profiles := by
  unfold entries at made ⊢
  simp only [bind, Except.bind] at made ⊢
  cases kinds : parseNames FileKind.parse FileKind.all config.fileKinds with
  | error e => simp [kinds] at made
  | ok kinds =>
    cases tools : parseNames ObfuscationTool.parse ObfuscationTool.all config.obfuscationTools with
    | error e => simp [kinds, tools] at made
    | ok tools =>
      cases compiled : UnfilteredUploadsCheck.check with
      | error e => simp [kinds, tools, compiled] at made
      | ok uploads =>
        have uploadsProfile := profile_of_uploads compiled
        refine ⟨_, rfl, ?_⟩
        simp only [List.map_append, List.map_cons, List.map_nil, List.map_map, profileOf, uploadsProfile]
        rfl

/-- The profiles of the built-in checks in the order of their selection. -/
def ordered : List (String × Check.Profile) :=
  profiles.filter (fun entry => entry.2.mode == .static) ++ profiles.filter fun entry => entry.2.mode == .runtime

/-- All built-in checks can be registered. -/
theorem repository_of_entries {checks : List (String × Check)}
    (found : entries config environment linter = .ok checks) (announced : checks.map profileOf = profiles) :
    ∃ r, repository config environment linter = .ok r ∧ r.all.map profileOf = ordered := by
  have distinct : (checks.map Prod.fst).Nodup := by
    have slugs : checks.map Prod.fst = profiles.map Prod.fst := by
      rw [← announced, List.map_map]
      rfl
    rw [slugs]
    decide +kernel
  have categorized : ∀ entry ∈ checks, entry.2.categories ≠ [] := by
    have all : ∀ entry ∈ profiles, entry.2.categories ≠ [] := by decide +kernel
    intro entry member
    exact all (profileOf entry) (announced ▸ List.mem_map_of_mem member)
  have registered := CheckRepository.registerAll_eq (r := {}) distinct (fun _ _ => rfl) categorized
  have made : repository config environment linter = CheckRepository.registerAll {} checks := by
    unfold repository
    rw [found]
    rfl
  refine ⟨_, made.trans registered, ?_⟩
  have ofMode (mode : ExecutionMode) : (checks.filter fun entry => entry.2.mode == mode).map profileOf =
      profiles.filter fun entry => entry.2.mode == mode := by
    rw [← announced, List.filter_map]
    rfl
  rw [CheckRepository.all, List.map_append, List.nil_append, List.nil_append, ofMode, ofMode]
  rfl

theorem exists_repository {r : CheckRepository} (made : repository config environment linter = .ok r)
    (environment' : EnvironmentType) (linter' : Linter) :
    ∃ r', repository config environment' linter' = .ok r' ∧ r'.all.map profileOf = ordered := by
  unfold repository at made
  cases found : entries config environment linter with
  | error e => simp [found, bind, Except.bind] at made
  | ok checks =>
    obtain ⟨checks', found', announced⟩ := exists_entries found environment' linter'
    exact repository_of_entries found' announced

theorem profiles_of_repository {r : CheckRepository} (made : repository config environment linter = .ok r) :
    r.all.map profileOf = ordered := by
  obtain ⟨r', same, announced⟩ := exists_repository made environment linter
  rw [made] at same
  cases same
  exact announced

/-- There are checks in a configuration that says nothing about them. -/
theorem exists_repository_default (environment : EnvironmentType) (linter : Linter) :
    ∃ r, repository {} environment linter = .ok r := by
  have compiled : (Pattern.compile UnfilteredUploadsCheck.definition).toOption.isSome := by decide +kernel
  have found : ∃ checks, entries {} environment linter = .ok checks := by
    unfold entries UnfilteredUploadsCheck.check
    cases pattern : Pattern.compile UnfilteredUploadsCheck.definition with
    | error e =>
      rw [pattern] at compiled
      cases compiled
    | ok pattern => exact ⟨_, rfl⟩
  obtain ⟨checks, found⟩ := found
  obtain ⟨checks', found', announced⟩ := exists_entries found environment linter
  obtain ⟨r, made, -⟩ := repository_of_entries found' announced
  exact ⟨r, made⟩

end StandardChecks

end PluginAudit
