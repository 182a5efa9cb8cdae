import PluginAudit.Proofs.Checks.Profiles
import PluginAudit.Proofs.Run.Selection
import PluginAudit.Proofs.Text.Lines
import PluginAudit.Program

/-!
# Listed and selected checks

A listing has a line for each check, and the slugs can be read off it.  They are those of the
checks that a run with the same wishes selects where all checks can run, unless the text for the
categories has no category in it: then a listing is empty and a run leaves no check out.
-/

namespace PluginAudit

open PluginAudit.Text

/-! ## Lines of a listing -/

/-- What stands behind the slug of a check. -/
def Check.Profile.columns (profile : Check.Profile) : String :=
  "  " ++ padded 7 profile.mode.name ++ "  " ++ ",".intercalate (profile.categories.map Category.slug) ++
    if profile.stability == .experimental then " (experimental)" else ""

/-- The line of a check. -/
def listingLine (width : Nat) (entry : String × Check.Profile) : List Char :=
  entry.1.toList ++ List.replicate (width - entry.1.length) ' ' ++ entry.2.columns.toList

/-- The first words of the lines of a text. -/
def firstWords (text : String) : List String :=
  (lines text.toList).map fun line => String.ofList (line.takeWhile fun c => !isBlank c)

theorem toList_renderSegments (color : Bool) (segments : List Segment) :
    (renderSegments color segments).toList = segments.flatMap fun segment => (segment.render color).toList := by
  rw [renderSegments, String.toList_join, List.flatMap_map]

theorem toList_listed (width : Nat) (slug : String) (check : Check) :
    (renderSegments false (check.listed width slug)).toList =
      listingLine width (slug, check.profile) ++ ['\n'] := by
  rw [toList_renderSegments, Check.listed, listingLine, Check.Profile.columns]
  have experimental : (check.profile.stability == .experimental) = check.isExperimental := rfl
  rw [experimental]
  cases check.isExperimental <;>
    simp [Segment.plain, Segment.styled, Segment.render, padded, Check.profile]

theorem toList_listing (c : CheckCollection) :
    (c.listing false).toList =
      ofTextLines (c.entries.map fun entry => listingLine (columnWidth c.slugs) (profileOf entry)) := by
  rw [CheckCollection.listing, toList_renderSegments, ofTextLines, List.flatMap_map, List.flatMap_assoc]
  refine List.flatMap_congr fun entry _ => ?_
  rw [← toList_renderSegments, toList_listed]
  rfl

theorem columns_of_mem_profiles : ∀ entry ∈ StandardChecks.profiles,
    IsWord entry.1.toList ∧ IsLine entry.2.columns.toList ∧ entry.2.columns.toList.head? = some ' ' := by
  decide +kernel

section Line

variable {entry : String × Check.Profile}

theorem isLine_listingLine (known : entry ∈ StandardChecks.profiles) (width : Nat) : IsLine (listingLine width entry) := by
  obtain ⟨isWord, columns, starts⟩ := columns_of_mem_profiles entry known
  refine IsLine.append ?_ columns fun none => by simp [none] at starts
  simp only [List.mem_append, List.mem_replicate, not_or]
  exact ⟨fun inSlug => absurd (isWord.letters _ inSlug) (by decide), by simp⟩

/-- A line starts with its slug and a space. -/
theorem takeWhile_listingLine (known : entry ∈ StandardChecks.profiles) (width : Nat) :
    (listingLine width entry).takeWhile (fun c => !isBlank c) = entry.1.toList := by
  obtain ⟨isWord, columns, starts⟩ := columns_of_mem_profiles entry known
  have spaced : ∃ rest, List.replicate (width - entry.1.length) ' ' ++ entry.2.columns.toList = ' ' :: rest := by
    cases width - entry.1.length with
    | zero => exact ⟨_, (List.cons_head?_tail starts).symm⟩
    | succ count => exact ⟨_, rfl⟩
  obtain ⟨rest, spaced⟩ := spaced
  have slug : ∀ c ∈ entry.1.toList, (!isBlank c) = true := fun c member => by simp [isWord.letters c member]
  rw [listingLine, List.append_assoc, spaced, List.takeWhile_append_of_pos slug,
    List.takeWhile_cons_of_neg (by decide), List.append_nil]

end Line

/-- The slugs of built-in checks are read off their listing. -/
theorem firstWords_listing {c : CheckCollection}
    (known : ∀ entry ∈ c.entries, profileOf entry ∈ StandardChecks.profiles) : firstWords (c.listing false) = c.slugs := by
  have isLine : ∀ line ∈ c.entries.map fun entry => listingLine (columnWidth c.slugs) (profileOf entry),
      IsLine line := by
    intro line member
    obtain ⟨entry, inside, rfl⟩ := List.mem_map.mp member
    exact isLine_listingLine (known entry inside) _
  rw [firstWords, toList_listing, lines_ofTextLines isLine, List.map_map]
  refine List.map_congr_left fun entry inside => ?_
  rw [Function.comp_apply, takeWhile_listingLine (known entry inside), String.ofList_toList]
  rfl

/-! ## Wanted profiles -/

namespace Program

open StandardChecks

/-- The profiles of the built-in checks that are offered with or without experimental ones. -/
def offered (experimental : Bool) : List (String × Check.Profile) :=
  ordered.filter fun entry => experimental || entry.2.stability == .stable

/-- The profiles that belong to one of given categories. -/
def among (categories : List Category) (profiles : List (String × Check.Profile)) : List (String × Check.Profile) :=
  profiles.filter fun entry => entry.2.categories.any categories.contains

theorem offered_ne_nil (experimental : Bool) : offered experimental ≠ [] := by
  cases experimental <;> decide +kernel

theorem mem_profiles_of_mem_ordered {entry : String × Check.Profile} (member : entry ∈ ordered) : entry ∈ profiles := by
  rw [ordered, List.mem_append] at member
  exact member.elim List.mem_of_mem_filter List.mem_of_mem_filter

variable {r : CheckRepository} {i : Invocation} {s : Session} {categories : Option String} {experimental : Bool}

theorem profiles_select (registered : r.all.map profileOf = ordered) (experimental : Bool) :
    (r.select (CheckFlags.all.withExperimental experimental)).entries.map profileOf = offered experimental := by
  have kept : (r.select (CheckFlags.all.withExperimental experimental)).entries =
      r.all.filter fun entry => experimental || (profileOf entry).2.stability == .stable := by
    refine List.filter_congr fun entry _ => ?_
    have stable : (!entry.2.isExperimental) = (entry.2.stability == .stable) := by
      rw [Check.isExperimental]
      cases entry.2.stability <;> rfl
    exact congrArg (experimental || ·) stable
  rw [kept, offered, ← registered, List.filter_map]
  rfl

/-- The checks that are listed. -/
theorem exists_listedChecks {environment : EnvironmentType} {linter : Linter}
    (made : StandardChecks.repository s.config.checks environment linter = .ok r) (i : Invocation)
    (categories : Option String) (experimental : Bool) :
    ∃ listed, listedChecks i s categories experimental = .ok listed ∧
      listed.entries.map profileOf = categories.elim (offered experimental) fun text =>
        among ((listItems text).map Category.named) (offered experimental) := by
  obtain ⟨r', made', registered⟩ := exists_repository made (listingHost i s).environment s.linter.toLinter
  have all := profiles_select registered experimental
  have opened : s.repository (listingHost i s) s.linter.toLinter = .ok r' := made'
  unfold listedChecks
  rw [opened]
  cases categories with
  | none => exact ⟨_, rfl, all⟩
  | some text =>
    refine ⟨_, rfl, ?_⟩
    change _ = among _ (offered experimental)
    rw [← all, among, List.filter_map]
    rfl

/-- The run of a `check` command that is given no slugs. -/
def runFor (repository : CheckRepository) (words : List String) (plugin : String) (categories : Option String)
    (experimental : Bool) (settings : RunSettings) : Run :=
  .ofRequest repository
    ((Arguments.mk words).requestFor { plugin, categories, includesExperimental := experimental }) settings

theorem confirmedPlugin_runFor {plugin : String} (given : isBlankText plugin.toList = false) (words : List String)
    (settings : RunSettings) :
    (runFor r words plugin categories experimental settings).confirmedPlugin = .ok plugin := by
  have requested : (runFor r words plugin categories experimental settings).requestedPlugin = .ok plugin := by
    change (if isBlankText plugin.toList then _ else _) = _
    rw [given]
    rfl
  have unchanged : (runFor r words plugin categories experimental settings).refuseChange plugin [] = .ok () := by
    rw [Run.refuseChange, runFor, Run.ofRequest]
    cases isCheck : (Arguments.mk words).isCheck <;> simp [Arguments.requestFor, isCheck]
  rw [Run.confirmedPlugin, requested]
  exact congrArg (Except.map fun () => plugin) unchanged

/-- What a run wants that is given no slugs. -/
theorem profiles_wanted {wishes : Selection} (everySlug : wishes.checks = []) (noneExcluded : wishes.excluded = [])
    (registered : r.all.map profileOf = ordered) :
    (wishes.wanted (r.select (CheckFlags.all.withExperimental true))).map profileOf =
      if wishes.categories = [] then offered wishes.includesExperimental
      else among wishes.categories (offered wishes.includesExperimental) := by
  have every : offered true = ordered := List.filter_eq_self.mpr fun _ _ => rfl
  have kept (entry : String × Check) :
      decide (wishes.includesExperimental = true ∨ entry.2.stability = .stable) =
        (wishes.includesExperimental || (profileOf entry).2.stability == .stable) := by
    rw [Bool.eq_iff_iff]
    simp [profileOf, Check.profile]
  have wants (entry : String × Check) : decide (wishes.Wants entry) =
      (wishes.categories.isEmpty || (profileOf entry).2.categories.any wishes.categories.contains) := by
    rw [Bool.eq_iff_iff]
    simp only [decide_eq_true_eq, Bool.or_eq_true, List.isEmpty_iff, List.any_eq_true, List.contains_iff_mem]
    exact ⟨fun wants => wants.categorized, fun categorized => ⟨.inl everySlug, by simp [noneExcluded], categorized⟩⟩
  have among_all : (wishes.wanted (r.select (CheckFlags.all.withExperimental true))).map profileOf =
      (offered wishes.includesExperimental).filter fun entry =>
        wishes.categories.isEmpty || entry.2.categories.any wishes.categories.contains := by
    rw [offered, ← every, ← profiles_select registered true, List.filter_map, List.filter_map]
    simp only [Selection.wanted, Selection.offered, wants, kept]
    rfl
  rw [among_all]
  split
  case isTrue none => simp [none]
  case isFalse some => simp [List.isEmpty_eq_false_iff.mpr some, among]

/-- The checks that are selected where all checks can run. -/
theorem exists_checksToRun {world : World} {linter : Linter} {plugin basename : String}
    (made : StandardChecks.repository s.config.checks world.host.environment linter = .ok r)
    (given : isBlankText plugin.toList = false) (found : Run.basenameOf plugin world = .ok basename)
    (available : ∀ entry ∈ r.all, entry.2.Available world) (words : List String) (categories : Option String)
    (experimental : Bool) (settings : RunSettings) :
    ∃ selected,
      ((runFor r words plugin categories experimental settings).checksToRun world).outcome = .ok selected ∧
        selected.entries.map profileOf =
          if (categories.map listItems).getD [] = [] then offered experimental
          else among (((categories.map listItems).getD []).map Category.named) (offered experimental) := by
  have registered := profiles_of_repository made
  let run := runFor r words plugin categories experimental settings
  let all := r.select (CheckFlags.all.withExperimental true)
  have categorized : ∀ entry ∈ all.entries, entry.2.categories ≠ [] := by
    have every : ∀ entry ∈ offered true, entry.2.categories ≠ [] := by decide +kernel
    intro entry member
    exact every (profileOf entry) (profiles_select registered true ▸ List.mem_map_of_mem member)
  have outcome := Run.outcome_checksToRun (r := run) (confirmedPlugin_runFor given words settings) found rfl rfl categorized
  -- nothing was asked for by name, so nothing is refused
  have selects : run.selection.Selects world all
      (.ok ⟨(run.selection.wanted all).filter fun entry => decide (entry.2.Available world)⟩) :=
    .selected (fun _ asked => nomatch asked) fun _ _ asked => nomatch asked
  have everyAvailable : (run.selection.wanted all).filter (fun entry => decide (entry.2.Available world)) =
      run.selection.wanted all := by
    refine List.filter_eq_self.mpr fun entry member => decide_eq_true (available entry ?_)
    exact List.mem_of_mem_filter (List.mem_of_mem_filter (List.mem_of_mem_filter member))
  rw [everyAvailable] at selects
  refine ⟨_, outcome.trans (Selection.select_of_selects selects), ?_⟩
  refine (profiles_wanted rfl rfl registered).trans ?_
  have given : run.selection.categories = ((categories.map listItems).getD []).map Category.named := rfl
  have wishes : run.selection.includesExperimental = experimental := rfl
  rw [given, wishes]
  simp only [List.map_eq_nil_iff]

theorem slugs_eq (c : CheckCollection) : c.slugs = (c.entries.map profileOf).map Prod.fst := by
  rw [List.map_map]
  rfl

theorem among_nil (profiles : List (String × Check.Profile)) : among [] profiles = [] := by
  simp [among]

/-- What is listed and what is selected, by the profiles of the built-in checks. -/
theorem exists_listed_selected {world : World} {linter : Linter} {plugin basename : String}
    (made : s.repository world.host linter = .ok r) (given : isBlankText plugin.toList = false)
    (found : Run.basenameOf plugin world = .ok basename) (available : ∀ entry ∈ r.all, entry.2.Available world)
    (i : Invocation) (words : List String) (categories : Option String) (experimental : Bool) :
    ∃ listed selected : CheckCollection,
      (∀ color format, carryOut i s color (.listChecks categories experimental format) = .ok
        { text := match format with | .text => listed.listing color | .json => listed.listingJson }) ∧
      firstWords (listed.listing false) = listed.slugs ∧
      ((runFor r words plugin categories experimental s.runSettings).checksToRun world).outcome = .ok selected ∧
      listed.slugs = (categories.elim (offered experimental) fun text =>
        among ((listItems text).map Category.named) (offered experimental)).map Prod.fst ∧
      selected.slugs = (if (categories.map listItems).getD [] = [] then offered experimental
        else among (((categories.map listItems).getD []).map Category.named) (offered experimental)).map Prod.fst := by
  obtain ⟨listed, listing, announced⟩ := exists_listedChecks made i categories experimental
  obtain ⟨selected, outcome, taken⟩ :=
    exists_checksToRun made given found available words categories experimental s.runSettings
  have inOffered : listed.entries.map profileOf ⊆ offered experimental := by
    rw [announced]
    cases categories with
    | none => exact List.Subset.refl _
    | some text => exact List.filter_subset_self _
  have known : ∀ entry ∈ listed.entries, profileOf entry ∈ profiles := fun entry member =>
    mem_profiles_of_mem_ordered (List.mem_of_mem_filter (inOffered (List.mem_map_of_mem member)))
  refine ⟨listed, selected, fun color format => ?_, firstWords_listing known, outcome, ?_, ?_⟩
  · rw [carryOut, listing]
    rfl
  · rw [slugs_eq, announced]
  · rw [slugs_eq, taken]

/-- The slugs that a listing prints are those that a check with the same wishes selects where all checks
can run, unless a text for the categories is given that has no category in it. -/
theorem printed_eq_selected_iff {world : World} {linter : Linter} {plugin basename : String}
    (made : s.repository world.host linter = .ok r) (given : isBlankText plugin.toList = false)
    (found : Run.basenameOf plugin world = .ok basename) (available : ∀ entry ∈ r.all, entry.2.Available world)
    (i : Invocation) (words : List String) (categories : Option String) (experimental : Bool) :
    ∃ listed selected : CheckCollection,
      (∀ color format, carryOut i s color (.listChecks categories experimental format) = .ok
        { text := match format with | .text => listed.listing color | .json => listed.listingJson }) ∧
      firstWords (listed.listing false) = listed.slugs ∧
      ((runFor r words plugin categories experimental s.runSettings).checksToRun world).outcome = .ok selected ∧
      (listed.slugs = selected.slugs ↔ ∀ text, categories = some text → listItems text ≠ []) := by
  obtain ⟨listed, selected, printed, read, outcome, announced, taken⟩ :=
    exists_listed_selected made given found available i words categories experimental
  refine ⟨listed, selected, printed, read, outcome, ?_⟩
  rw [announced, taken]
  cases categories with
  | none => exact iff_of_true rfl fun text given => nomatch given
  | some text =>
    rw [Option.map_some, Option.getD_some, Option.elim_some]
    by_cases none : listItems text = []
    · -- nothing is listed, and everything is selected
      rw [if_pos none, none, List.map_nil, among_nil, List.map_nil]
      refine iff_of_false (fun empty => offered_ne_nil experimental ?_) fun some => some text rfl none
      exact List.map_eq_nil_iff.mp empty.symm
    · rw [if_neg none]
      refine iff_of_true rfl fun other same => ?_
      cases same
      exact none

/-! ## A site on which every check can run -/

theorem available_of_isBuiltIn {check : Check} {linter : Linter} {world : World}
    (builtIn : IsBuiltIn linter check) (linted : linter.isAvailable world = true)
    (answers : world.host.answersRequests = true) : check.Available world := by
  rw [← Check.isNone_obstacle, Check.obstacle]
  cases builtIn with
  | files categories description documentation look => rfl
  | rule rule => simp [LinterRule.check, linted, Check.isRuntime]
  | assets isAsset => cases isAsset <;> simp [EnqueuedAssets.sizeCheck, EnqueuedAssets.scopeCheck, answers]

def plainSession : Session := { config := {}, configPath := none, directory := ⟨"/"⟩ }

def quietLinter : Linter := Rehearsal.linter (some "")

theorem exists_repository_quietSite :
    ∃ r, plainSession.repository (Rehearsal.quietSite []).host quietLinter = .ok r ∧
      ∀ entry ∈ r.all, entry.2.Available (Rehearsal.quietSite []) := by
  obtain ⟨r, made⟩ := exists_repository_default (Rehearsal.quietSite []).host.environment quietLinter
  exact ⟨r, made, fun entry member => available_of_isBuiltIn (isBuiltIn_of_repository made entry member) rfl rfl⟩

/-- The words of an invocation that checks a plugin. -/
def checkFoo : List String := ["plugin-check", "check", "foo"]

theorem printed_eq_selected_quietSite :
    ∃ (r : CheckRepository) (listed selected : CheckCollection),
      plainSession.repository (Rehearsal.quietSite []).host quietLinter = .ok r ∧
      (∀ entry ∈ r.all, entry.2.Available (Rehearsal.quietSite [])) ∧
      carryOut default plainSession false (.listChecks (some "security") false .text) =
        .ok { text := listed.listing false } ∧
      firstWords (listed.listing false) = listed.slugs ∧
      ((runFor r checkFoo "foo" (some "security") false plainSession.runSettings).checksToRun
        (Rehearsal.quietSite [])).outcome = .ok selected ∧
      listed.slugs = selected.slugs := by
  obtain ⟨r, made, available⟩ := exists_repository_quietSite
  obtain ⟨listed, selected, printed, read, outcome, same⟩ :=
    printed_eq_selected_iff made (by decide) (show Run.basenameOf "foo" _ = .ok "foo/foo.php" by decide)
      available default checkFoo (some "security") false
  refine ⟨r, listed, selected, made, available, printed false .text, read, outcome, same.mpr ?_⟩
  rintro text ⟨⟩
  decide +kernel

/-- With a comma for the categories nothing is listed, and everything is selected. -/
theorem printed_ne_selected_quietSite :
    ∃ (r : CheckRepository) (listed selected : CheckCollection),
      plainSession.repository (Rehearsal.quietSite []).host quietLinter = .ok r ∧
      (∀ entry ∈ r.all, entry.2.Available (Rehearsal.quietSite [])) ∧
      carryOut default plainSession false (.listChecks (some ",") false .text) =
        .ok { text := listed.listing false } ∧
      ((runFor r checkFoo "foo" (some ",") false plainSession.runSettings).checksToRun
        (Rehearsal.quietSite [])).outcome = .ok selected ∧
      firstWords (listed.listing false) = [] ∧ "file_type" ∈ selected.slugs := by
  obtain ⟨r, made, available⟩ := exists_repository_quietSite
  obtain ⟨listed, selected, printed, read, outcome, announced, taken⟩ :=
    exists_listed_selected made (by decide) (show Run.basenameOf "foo" _ = .ok "foo/foo.php" by decide)
      available default checkFoo (some ",") false
  refine ⟨r, listed, selected, made, available, printed false .text, outcome, ?_, ?_⟩
  · rw [read, announced]
    decide +kernel
  · rw [taken]
    decide +kernel

end Program

end PluginAudit
