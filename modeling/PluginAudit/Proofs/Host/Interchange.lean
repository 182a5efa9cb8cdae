import PluginAudit.Proofs.Host.Unordered

/-!
# Installations and simulations in place of each other

A new installation and a new simulation that refuses nothing start with the same tables and
without filters, theme directories and posts.  With the same address, theme and stored active
plugins they cannot be told apart by what they are asked for.
-/

namespace PluginAudit

namespace Host

variable {h : Host}

/-- A site without its runtime: kept in no order beside a simulation. -/
def unordered (h : Host) (simulation : Simulation) : UnorderedHost where
  homeAddress := h.homeAddress
  theme := h.theme
  filters := h.filters
  tablePrefix := h.tablePrefix
  tables := h.tables.toFinset
  active := fun pre => Assoc.get? pre h.active
  themeDirectories := Path.componentSet h.themeDirectories
  posts := h.posts.toFinset
  nextPost := h.nextPost
  simulation

/-- What a new site holds beside its plugins, its address and its theme. -/
structure IsBare (h : Host) : Prop where
  filters : h.filters = {}
  tablePrefix : h.tablePrefix = h.sitePrefix
  tables : h.tables = (coreTablesUnder h.sitePrefix).foldl (fun all t => SortedList.insert textLess t all) []
  active : h.active = [(h.sitePrefix, h.storedActivePlugins)]
  themeDirectories : h.themeDirectories = []
  posts : h.posts = []
  nextPost : h.nextPost = 1

-- sites are compared field by field below, which must not spell out the tables
attribute [local irreducible] coreTablesUnder

theorem isBare_fresh (root : Path) (pre home : String) (runtime : Runtime) : (fresh root pre home runtime).IsBare where
  filters := rfl
  tablePrefix := rfl
  tables := rfl
  active := by simp [fresh, storedActivePlugins, Assoc.get?]
  themeDirectories := rfl
  posts := rfl
  nextPost := rfl

theorem IsBare.withActivePlugins (bare : h.IsBare) (plugins : List String) : (h.withActivePlugins plugins).IsBare :=
  { bare with
    active := by
      have stored : Assoc.put textLess h.sitePrefix plugins h.active = [(h.sitePrefix, plugins)] := by
        rw [bare.active]
        simp [Assoc.put, textLess]
      simp [Host.withActivePlugins, storedActivePlugins, stored, bare.tablePrefix, Assoc.get?] }

theorem IsNew.isBare (new : h.IsNew) : h.IsBare := by
  induction new with
  | simulated root simulation => exact isBare_fresh ..
  | opened ran =>
    obtain ⟨pre, home, runtime, -, rfl⟩ := exists_fresh_of_openInstallation ran
    exact isBare_fresh ..
  | withActivePlugins _ plugins inductionHypothesis => exact inductionHypothesis.withActivePlugins plugins
  | withHomeAddress _ _ inductionHypothesis | withPluginsAddress _ _ inductionHypothesis
  | withEnvironment _ _ inductionHypothesis | withTheme _ _ inductionHypothesis => exact { inductionHypothesis with }

theorem IsBare.matches (bare : h.IsBare) {simulation : Simulation} (behind : StandsFor h.runtime simulation) :
    h.Matches (h.unordered simulation) where
  homeAddress := rfl
  theme := rfl
  filters := rfl
  tablePrefix := rfl
  sorted := by
    rw [bare.tables]
    exact SortedList.pairwise_foldl_insert .text _ .nil
  tables := by simp [unordered]
  ascending := by
    rw [bare.active]
    exact List.pairwise_singleton _ _
  active := fun _ => rfl
  themeDirectories := rfl
  numbered := by
    rw [bare.posts]
    exact .nil
  older := by simp [bare.posts]
  posts := by simp [unordered]
  nextPost := rfl
  behind := behind

/-- Bare sites differ in nothing else. -/
theorem IsBare.unordered_eq {other : Host} (bare : h.IsBare) (otherBare : other.IsBare)
    (sitePrefix : h.sitePrefix = other.sitePrefix) (homeAddress : h.homeAddress = other.homeAddress)
    (theme : h.theme = other.theme) (plugins : h.storedActivePlugins = other.storedActivePlugins)
    (simulation : Simulation) : h.unordered simulation = other.unordered simulation := by
  simp [unordered, bare.filters, bare.tablePrefix, bare.tables, bare.active, bare.themeDirectories, bare.posts,
    bare.nextPost, otherBare.filters, otherBare.tablePrefix, otherBare.tables, otherBare.active,
    otherBare.themeDirectories, otherBare.posts, otherBare.nextPost, sitePrefix, homeAddress, theme, plugins]

theorem runtime_of_openInstallation {disk : Disk} {root : Path} (ran : openInstallation disk root = .ok h) :
    h.runtime = .installed root := by
  unfold openInstallation at ran
  split at ran
  · cases ran
  · dsimp only at ran
    split at ran <;> cases ran <;> rfl

/-- Only an installation can have another prefix. -/
theorem IsNew.sitePrefix_of_simulated (new : h.IsNew) {simulation : Simulation}
    (simulated : h.runtime = .simulated simulation) : h.sitePrefix = "wp_" := by
  induction new with
  | simulated root simulation => rfl
  | opened ran =>
    rw [runtime_of_openInstallation ran] at simulated
    cases simulated
  | withActivePlugins _ _ inductionHypothesis | withHomeAddress _ _ inductionHypothesis
  | withPluginsAddress _ _ inductionHypothesis | withEnvironment _ _ inductionHypothesis
  | withTheme _ _ inductionHypothesis => exact inductionHypothesis simulated

/-- A new simulation answers every sequence of calls without any order of what it keeps. -/
theorem performAll_unordered (new : h.IsNew) {simulation : Simulation} (simulated : h.runtime = .simulated simulation)
    (calls : List HostCall) :
    ((h.unordered simulation).performAll calls).1 = (HostCall.performAll h calls).1 :=
  ((new.isBare.matches (.inl simulated)).performAll (.inl ⟨simulation, simulated⟩)).symm

/-- An installation and a simulation that refuses nothing give the same answers, whether the
simulation is kept in order or not. -/
theorem performAll_interchangeable {installation memory : Host} (isNew : installation.IsNew) {root : Path}
    (installed : installation.runtime = .installed root) (standard : installation.sitePrefix = "wp_")
    (memoryIsNew : memory.IsNew) {simulation : Simulation} (simulated : memory.runtime = .simulated simulation)
    (inserts : simulation.failingInsertion = none) (deletes : simulation.failsDeletions = false)
    (homeAddress : installation.homeAddress = memory.homeAddress) (theme : installation.theme = memory.theme)
    (plugins : installation.storedActivePlugins = memory.storedActivePlugins) {calls : List HostCall}
    (shared : ∀ call ∈ calls, call.IsShared) :
    (HostCall.performAll installation calls).1 = (HostCall.performAll memory calls).1 ∧
      (HostCall.performAll installation calls).1 = ((memory.unordered simulation).performAll calls).1 := by
  have unorderedSame : installation.unordered simulation = memory.unordered simulation :=
    isNew.isBare.unordered_eq memoryIsNew.isBare (standard.trans (memoryIsNew.sitePrefix_of_simulated simulated).symm)
      homeAddress theme plugins simulation
  have installation_matches := isNew.isBare.matches (.inr ⟨⟨root, installed⟩, inserts, deletes⟩)
  have answers := installation_matches.performAll (.inr shared)
  rw [unorderedSame] at answers
  exact ⟨answers.trans (performAll_unordered memoryIsNew simulated calls), answers⟩

/-- A call of each kind that two stores could answer differently. -/
def storeCalls : List HostCall :=
  [.useTablePrefix "t_", .useTablePrefix "t-", .storeActivePlugins ["box.php"], .install, .tables "t_", .dropTable "t_links",
    .tables "t_", .insertPost (.demo "post"), .insertPost (.demo "post"), .deletePost 2, .deletePost 2, .findPost "post",
    .permalink 1, .registerThemeDirectory ⟨"a/b"⟩, .registerThemeDirectory ⟨"a//b/."⟩, .useTablePrefix "wp_",
    .findPost "post", .addFilter .activePlugins fun _ => .list ["form.php"], .activePlugins, .storedActivePlugins]

/-- The smallest installation. -/
def smallest : Disk where
  entries := [(["srv"], .directory), (["srv", "wp-content"], .directory), (["srv", "wp-content", "plugins"], .directory)]
  workingDirectory := []

theorem openInstallation_smallest :
    openInstallation smallest ⟨"srv"⟩ = .ok (fresh ⟨"srv"⟩ "wp_" "http://localhost" (.installed ⟨"srv"⟩)) := by
  have plugins : ((⟨"srv"⟩ : Path).join "wp-content").join "plugins" = ⟨"srv/wp-content/plugins"⟩ := by decide +kernel
  have configuration : (⟨"srv"⟩ : Path).join "wp-config.php" = ⟨"srv/wp-config.php"⟩ := by decide +kernel
  have pluginsSteps : Disk.steps "srv/wp-content/plugins" = ["srv", "wp-content", "plugins"] := by decide +kernel
  have configurationSteps : Disk.steps "srv/wp-config.php" = ["srv", "wp-config.php"] := by decide +kernel
  have directory : smallest.isDirectory ⟨"srv/wp-content/plugins"⟩ := by
    simp [Disk.isDirectory, Disk.resolve?, Disk.locate, Disk.place, Path.isAbsolute, pluginsSteps, Disk.followFrom,
      smallest, Disk.entry?, Assoc.get?]
  have noFile : smallest.readText ⟨"srv/wp-config.php"⟩ = .error .missing := by
    simp [Disk.readText, Disk.read, Disk.locate, Disk.place, Path.isAbsolute, configurationSteps, Disk.followFrom,
      smallest, Disk.entry?, Assoc.get?]
  simp [openInstallation, plugins, configuration, directory, noFile, defaultPrefix]

theorem performAll_interchangeable_storeCalls :
    ∃ opened, openInstallation smallest ⟨"srv"⟩ = .ok opened ∧
      (HostCall.performAll (opened.withHomeAddress "http://example.org/") storeCalls).1 =
        (HostCall.performAll (simulated ⟨"site"⟩ {}) storeCalls).1 := by
  have shared : ∀ call ∈ storeCalls, call.IsShared := by simp [storeCalls, HostCall.IsShared]
  have sameAddress : withoutTrailingSlashes "http://example.org/" = "http://example.org" := by decide +kernel
  refine ⟨_, openInstallation_smallest, ?_⟩
  have isNew := (IsNew.opened openInstallation_smallest).withHomeAddress "http://example.org/"
  have answers := performAll_interchangeable isNew rfl rfl (.simulated ⟨"site"⟩ {}) rfl rfl rfl sameAddress rfl rfl shared
  exact answers.1

end Host

end PluginAudit
