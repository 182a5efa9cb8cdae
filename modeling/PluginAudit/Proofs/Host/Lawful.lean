import PluginAudit.Host.Call
import PluginAudit.Proofs.SortedList
import PluginAudit.Proofs.Text.Slicing

/-!
# Lawful sites

What is true of every site that was made by this library and changed only
through its operations: table prefixes are well formed, numbers of filters and
posts are not used twice, and active plugins are stored under exactly those
prefixes that have a table of options.  Only the site's own prefix is not bound
to that, since a simulated site can be given active plugins at any time.
-/

namespace PluginAudit

open PluginAudit.Text

/-- Active plugins are stored by prefix, each prefix once, and of the prefixes
that are bound to it under exactly those that have a table of options. -/
structure StoredLawfully (bound : String → Prop) (tables : List String)
    (active : List (String × List String)) : Prop where
  ascending : Assoc.Ascending textLess active
  /-- A list is stored exactly where there is a table to store it in. -/
  stored : ∀ pre, bound pre → ((Assoc.get? pre active).isSome ↔ pre ++ "options" ∈ tables)

/-- What every operation of a site keeps true of it. -/
structure Host.Lawful (h : Host) : Prop where
  tablePrefix : isTablePrefix h.tablePrefix
  sitePrefix : isTablePrefix h.sitePrefix
  /-- The number of the next filter is new. -/
  filters : ∀ entry ∈ h.filters.entries, entry.id < h.filters.nextId
  /-- The number of the next post is new. -/
  posts : ∀ entry ∈ h.posts, entry.1 < h.nextPost
  /-- Tables and stored active plugins fit together. -/
  storage : StoredLawfully (· ≠ h.sitePrefix) h.tables h.active

namespace Host

/-! ## Tables -/

theorem append_right_cancel {a b c : String} (same : a ++ c = b ++ c) : a = b := by
  have characters := congrArg String.toList same
  simp only [String.toList_append] at characters
  exact String.toList_injective (List.append_cancel_right characters)

/-- No name of a table ends like another one, so that no table stands under two
prefixes. -/
theorem eq_of_mem_coreTablesUnder {pre other table : String} (one : table ∈ coreTablesUnder pre)
    (another : table ∈ coreTablesUnder other) : pre = other := by
  obtain ⟨name, core, rfl⟩ := List.mem_map.mp one
  obtain ⟨otherName, otherCore, same⟩ := List.mem_map.mp another
  have characters : other.toList ++ otherName.toList = pre.toList ++ name.toList := by
    simpa using congrArg String.toList same
  have suffixes := List.suffix_or_suffix_of_suffix
    (List.suffix_append other.toList otherName.toList)
    (characters ▸ List.suffix_append pre.toList name.toList)
  have onlyItself : ∀ first ∈ coreTables, ∀ second ∈ coreTables,
      first.toList <:+ second.toList ∨ second.toList <:+ first.toList → first = second := by decide
  rw [onlyItself otherName otherCore name core suffixes] at same
  exact (append_right_cancel same).symm

theorem options_mem_coreTablesUnder_self (pre : String) : pre ++ "options" ∈ coreTablesUnder pre :=
  List.mem_map.mpr ⟨"options", by decide, rfl⟩

/-- The prefix can be read off a table of options. -/
theorem options_mem_coreTablesUnder {pre other : String} :
    pre ++ "options" ∈ coreTablesUnder other ↔ pre = other := by
  constructor
  · exact eq_of_mem_coreTablesUnder (options_mem_coreTablesUnder_self pre)
  · rintro rfl
    exact options_mem_coreTablesUnder_self pre

theorem mem_tablesUnder {h : Host} {pre table : String} :
    table ∈ h.tablesUnder pre ↔ table ∈ h.tables ∧ table ∈ coreTablesUnder pre := by
  simp only [tablesUnder, List.mem_filter, coreTablesUnder, List.mem_map]
  refine and_congr_right fun _ => ?_
  constructor
  · intro found
    split at found
    · rename_i name cut
      rw [after?_eq_some] at cut
      refine ⟨String.ofList name, by simpa using found, ?_⟩
      exact String.toList_injective (by simp [cut])
    · cases found
  · rintro ⟨name, core, rfl⟩
    have cut : after? pre.toList (pre ++ name).toList = some name.toList :=
      after?_eq_some.mpr (by simp)
    rw [cut]
    simpa using core

theorem mem_tables_install {h : Host} {table : String} :
    table ∈ h.install.tables ↔ table ∈ coreTablesUnder h.tablePrefix ∨ table ∈ h.tables :=
  SortedList.mem_foldl_insert .text _ _

end Host

/-! ## Storage -/

namespace StoredLawfully

variable {bound : String → Prop} {tables : List String} {active : List (String × List String)}

theorem put (lawful : StoredLawfully bound tables active) {pre : String}
    (present : bound pre → pre ++ "options" ∈ tables) (plugins : List String) :
    StoredLawfully bound tables (Assoc.put textLess pre plugins active) where
  ascending := Assoc.ascending_put .text pre plugins lawful.ascending
  stored other isBound := by
    by_cases same : other = pre
    · subst same
      simp [Assoc.get?_put_self .text, present isBound]
    · rw [Assoc.get?_put_other .text same, lawful.stored other isBound]

theorem install {h : Host} (lawful : StoredLawfully bound h.tables h.active) :
    StoredLawfully bound h.install.tables h.install.active where
  ascending := by
    simp only [Host.install, Assoc.update_eq_put .text _ _ _ lawful.ascending]
    exact Assoc.ascending_put .text _ _ lawful.ascending
  stored other isBound := by
    rw [Host.mem_tables_install, Host.options_mem_coreTablesUnder, ← lawful.stored other isBound]
    simp only [Host.install, Assoc.update_eq_put .text _ _ _ lawful.ascending]
    by_cases same : other = h.tablePrefix
    · simp [same, Assoc.get?_put_self .text]
    · simp [same, Assoc.get?_put_other .text same]

/-- Dropping a table of options removes what is stored in it; dropping another
table removes nothing that is stored. -/
theorem dropTable {h : Host} (lawful : StoredLawfully bound h.tables h.active) (table : String) :
    StoredLawfully bound (h.dropTable table).tables (h.dropTable table).active := by
  simp only [Host.dropTable]
  split
  · rename_i front cut
    have isOptions : table = String.ofList front ++ "options" :=
      String.toList_injective (by simpa using before?_eq_some.mp cut)
    refine ⟨lawful.ascending.sublist (Assoc.erase_sublist _ _), fun other isBound => ?_⟩
    by_cases same : other = String.ofList front
    · simp [same, isOptions, Assoc.get?_erase_self .text _ lawful.ascending]
    · have different : other ++ "options" ≠ table := by
        intro equal
        exact same (Host.append_right_cancel (equal.trans isOptions))
      simp [Assoc.get?_erase_other same, lawful.stored other isBound, different]
  · rename_i noCut
    refine ⟨lawful.ascending, fun other isBound => ?_⟩
    have different : other ++ "options" ≠ table := by
      rintro rfl
      have cut := before?_eq_some.mpr (String.toList_append (s := other) (t := "options"))
      rw [cut] at noCut
      cases noCut
    simp [lawful.stored other isBound, different]

theorem dropTables {h : Host} (lawful : StoredLawfully bound h.tables h.active)
    (dropped : List String) :
    StoredLawfully bound (dropped.foldl Host.dropTable h).tables
      (dropped.foldl Host.dropTable h).active := by
  induction dropped generalizing h with
  | nil => exact lawful
  | cons table rest inductionHypothesis => exact inductionHypothesis (lawful.dropTable table)

theorem fresh (root : Path) (pre home : String) (runtime : Runtime) :
    StoredLawfully bound (Host.fresh root pre home runtime).tables (Host.fresh root pre home runtime).active := by
  refine ⟨by simp [Host.fresh, Assoc.Ascending], fun other _ => ?_⟩
  have tables := SortedList.mem_foldl_insert .text (y := other ++ "options") (Host.coreTablesUnder pre) []
  simp only [Host.fresh, tables, Host.options_mem_coreTablesUnder, List.not_mem_nil, or_false]
  by_cases same : other = pre
  · simp [Assoc.get?, same]
  · simp [Assoc.get?, same, Ne.symm same]

/-- Every operation keeps tables and stored active plugins together. -/
theorem perform {h : Host} (lawful : StoredLawfully bound h.tables h.active) (call : HostCall) :
    StoredLawfully bound (call.perform h).2.tables (call.perform h).2.active := by
  cases call with
  | install => exact lawful.install
  | dropTable table => exact lawful.dropTable table
  | storeActivePlugins plugins =>
    simp only [HostCall.perform, Host.storeActivePlugins]
    split
    · rename_i present
      exact lawful.put (fun _ => by simpa using present) plugins
    · exact lawful
  | useTablePrefix pre =>
    simp only [HostCall.perform, Host.useTablePrefix]
    split <;> exact lawful
  | deletePost id =>
    simp only [HostCall.perform, Host.deletePost]
    split
    · exact lawful
    · split <;> exact lawful
  | insertPost post =>
    simp only [HostCall.perform, Host.insertPost]
    split
    · exact lawful
    · split <;> exact lawful
  | dispatch address =>
    simp only [HostCall.perform, Host.dispatch]
    split
    · exact lawful
    · split <;> exact lawful
  | registerThemeDirectory _ | deregisterThemeDirectory _ | addFilter _ _ | removeFilter _
  | tablePrefix | tables _ | storedActivePlugins | activePlugins | template | stylesheet
  | applyFilters _ _ | filterText _ _ | filterList _ _ | countFilters _ | findPost _
  | permalink _ | publicPostTypes | acceptsNonce _ _ => exact lawful

theorem performAll {h : Host} (lawful : StoredLawfully bound h.tables h.active) (calls : List HostCall) :
    StoredLawfully bound (HostCall.performAll h calls).2.tables (HostCall.performAll h calls).2.active := by
  induction calls generalizing h with
  | nil => exact lawful
  | cons call rest inductionHypothesis => exact inductionHypothesis (lawful.perform call)

/-- Where there are no tables, no active plugins are stored. -/
theorem none_stored {h : Host} (lawful : StoredLawfully bound h.tables h.active) {pre : String}
    (isBound : bound pre) (noTables : h.tablesUnder pre = []) : Assoc.get? pre h.active = none := by
  by_contra stored
  have present := (lawful.stored pre isBound).mp (Option.isSome_iff_ne_none.mpr stored)
  have member : pre ++ "options" ∈ h.tablesUnder pre :=
    Host.mem_tablesUnder.mpr ⟨present, Host.options_mem_coreTablesUnder.mpr rfl⟩
  simp [noTables] at member

end StoredLawfully

/-! ## Sites -/

namespace Host

theorem isTablePrefix_of_assignedPrefix? {text : List Char} {value : String}
    (assigned : assignedPrefix? text = some value) : isTablePrefix value := by
  simp only [assignedPrefix?] at assigned
  -- of all ways to read an assignment, only the last one gives a value
  repeat' split at assigned
  all_goals cases assigned
  rename_i accepted
  simp only [Bool.and_eq_true, Bool.not_eq_true'] at accepted
  simpa [isTablePrefix] using accepted.1.2

/-- What a configuration assigns is a prefix. -/
theorem isTablePrefix_of_configuredPrefix? {text : List Char} {value : String}
    (configured : configuredPrefix? text = some value) : isTablePrefix value := by
  induction text with
  | nil => cases configured
  | cons c rest inductionHypothesis =>
    simp only [configuredPrefix?] at configured
    split at configured
    · rename_i found
      cases configured
      obtain ⟨behind, -, assigned⟩ := Option.bind_eq_some_iff.mp found
      exact isTablePrefix_of_assignedPrefix? assigned
    · exact inductionHypothesis configured

/-- An installation that was opened is a site made anew under a prefix. -/
theorem exists_fresh_of_openInstallation {disk : Disk} {root : Path} {opened : Host}
    (ran : openInstallation disk root = .ok opened) :
    ∃ pre home runtime, isTablePrefix pre ∧ opened = fresh root pre home runtime := by
  unfold openInstallation at ran
  split at ran
  · cases ran
  · dsimp only at ran
    split at ran
    · rename_i text _
      cases ran
      refine ⟨_, _, _, ?_, rfl⟩
      cases configured : configuredPrefix? text.toList with
      | none => decide
      | some value => exact isTablePrefix_of_configuredPrefix? configured
    · cases ran
      exact ⟨_, _, _, by decide, rfl⟩
    · cases ran

end Host

namespace Host.Lawful

variable {h : Host}

/-- A site made anew is lawful. -/
theorem fresh (root : Path) {pre : String} (wellFormed : isTablePrefix pre) (home : String)
    (runtime : Runtime) : (Host.fresh root pre home runtime).Lawful where
  tablePrefix := wellFormed
  sitePrefix := wellFormed
  filters := by simp [Host.fresh]
  posts := by simp [Host.fresh]
  storage := .fresh root pre home runtime

theorem simulated (root : Path) (simulation : Simulation) :
    (Host.simulated root simulation).Lawful :=
  fresh root (by decide) _ _

/-- An installation that was opened on disk is lawful, whatever its configuration
says. -/
theorem openInstallation {disk : Disk} {root : Path} {opened : Host}
    (ran : Host.openInstallation disk root = .ok opened) : opened.Lawful := by
  obtain ⟨pre, home, runtime, wellFormed, rfl⟩ := exists_fresh_of_openInstallation ran
  exact fresh root wellFormed home runtime

/-- What stands behind a site has no part in this. -/
theorem withRuntime (lawful : h.Lawful) (runtime : Runtime) :
    ({ h with runtime } : Host).Lawful := { lawful with }

theorem useTablePrefix (lawful : h.Lawful) {pre : String} {changed : Host}
    (used : h.useTablePrefix pre = .ok changed) : changed.Lawful := by
  simp only [Host.useTablePrefix] at used
  split at used
  · rename_i wellFormed
    cases used
    exact { lawful with tablePrefix := wellFormed }
  · cases used

theorem storeActivePlugins (lawful : h.Lawful) {plugins : List String} {changed : Host}
    (stored : h.storeActivePlugins plugins = .ok changed) : changed.Lawful := by
  simp only [Host.storeActivePlugins] at stored
  split at stored
  · rename_i present
    cases stored
    exact { lawful with storage := lawful.storage.put (fun _ => by simpa using present) plugins }
  · cases stored

/-- A site can be given active plugins, whatever its tables. -/
theorem withActivePlugins (lawful : h.Lawful) (plugins : List String) :
    (h.withActivePlugins plugins).Lawful :=
  { lawful with storage := lawful.storage.put (fun isBound => absurd rfl isBound) plugins }

theorem install (lawful : h.Lawful) : h.install.Lawful :=
  { lawful with storage := lawful.storage.install }

theorem dropTable (lawful : h.Lawful) (table : String) : (h.dropTable table).Lawful :=
  { lawful with storage := lawful.storage.dropTable table }

theorem dropTables (lawful : h.Lawful) (tables : List String) :
    (tables.foldl Host.dropTable h).Lawful := by
  induction tables generalizing h with
  | nil => exact lawful
  | cons table rest inductionHypothesis => exact inductionHypothesis (lawful.dropTable table)

theorem registerThemeDirectory (lawful : h.Lawful) (directory : Path) :
    (h.registerThemeDirectory directory).Lawful := { lawful with }

theorem deregisterThemeDirectory (lawful : h.Lawful) (directory : Path) :
    (h.deregisterThemeDirectory directory).Lawful := { lawful with }

theorem addFilter (lawful : h.Lawful) (hook : Hook) (change : FilterValue → FilterValue) :
    ({ h with filters := (h.filters.add hook change).1 } : Host).Lawful where
  tablePrefix := lawful.tablePrefix
  sitePrefix := lawful.sitePrefix
  filters := by
    intro entry member
    simp only [Filters.add, List.mem_append, List.mem_singleton] at member ⊢
    rcases member with member | rfl
    · exact Nat.lt_succ_of_lt (lawful.filters entry member)
    · exact Nat.lt_succ_self _
  posts := lawful.posts
  storage := lawful.storage

theorem removeFilter (lawful : h.Lawful) (id : Nat) :
    ({ h with filters := h.filters.remove id } : Host).Lawful :=
  { lawful with
    filters := fun entry member => lawful.filters entry (List.mem_of_mem_filter member) }

theorem storePost (lawful : h.Lawful) (post : Post) : (h.storePost post).1.Lawful where
  tablePrefix := lawful.tablePrefix
  sitePrefix := lawful.sitePrefix
  filters := lawful.filters
  posts := by
    intro entry member
    simp only [Host.storePost] at member ⊢
    rcases Assoc.mem_put member with rfl | member
    · exact Nat.lt_succ_self _
    · exact Nat.lt_succ_of_lt (lawful.posts entry member)
  storage := lawful.storage

theorem insertPost (lawful : h.Lawful) (post : Post) : (h.insertPost post).1.Lawful := by
  simp only [Host.insertPost]
  split
  · exact lawful.storePost post
  · split
    · exact lawful.withRuntime _
    · exact (lawful.withRuntime _).storePost post

theorem deletePost (lawful : h.Lawful) {id : Nat} {changed : Host}
    (deleted : h.deletePost id = .ok changed) : changed.Lawful := by
  simp only [Host.deletePost] at deleted
  split at deleted
  · cases deleted
  · split at deleted
    · cases deleted
      exact { lawful with
        posts := fun entry member => lawful.posts entry ((Assoc.erase_sublist _ _).subset member) }
    · cases deleted

theorem dispatch (lawful : h.Lawful) (address : String) : (h.dispatch address).1.Lawful := by
  simp only [Host.dispatch]
  split
  · exact lawful
  · split
    · exact lawful
    · exact lawful.withRuntime _

/-- Every operation keeps a site lawful. -/
theorem perform (lawful : h.Lawful) (call : HostCall) : (call.perform h).2.Lawful := by
  have changed {answer : HostAnswer} {outcome : Except Error Host}
      (kept : ∀ {changed}, outcome = .ok changed → changed.Lawful) :
      (HostCall.change h answer outcome).2.Lawful := by
    cases outcome with
    | ok changed => exact kept rfl
    | error e => exact lawful
  cases call with
  | useTablePrefix pre => exact changed lawful.useTablePrefix
  | storeActivePlugins plugins => exact changed lawful.storeActivePlugins
  | deletePost id => exact changed lawful.deletePost
  | install => exact lawful.install
  | dropTable table => exact lawful.dropTable table
  | registerThemeDirectory directory => exact lawful.registerThemeDirectory directory
  | deregisterThemeDirectory directory => exact lawful.deregisterThemeDirectory directory
  | addFilter hook change => exact lawful.addFilter hook change
  | removeFilter id => exact lawful.removeFilter id
  | insertPost post => exact lawful.insertPost post
  | dispatch address => exact lawful.dispatch address
  | tablePrefix | tables _ | storedActivePlugins | activePlugins | template | stylesheet
  | applyFilters _ _ | filterText _ _ | filterList _ _ | countFilters _ | findPost _
  | permalink _ | publicPostTypes | acceptsNonce _ _ => exact lawful

/-- A site stays lawful whatever is done with it. -/
theorem performAll (lawful : h.Lawful) (calls : List HostCall) :
    (HostCall.performAll h calls).2.Lawful := by
  induction calls generalizing h with
  | nil => exact lawful
  | cons call rest inductionHypothesis => exact inductionHypothesis (lawful.perform call)

end Host.Lawful

end PluginAudit
