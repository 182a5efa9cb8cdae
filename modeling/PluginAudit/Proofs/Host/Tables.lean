import PluginAudit.Proofs.Host.Lawful

/-!
# Tables by prefix

No table stands under two prefixes, so what is installed or dropped under one
of them leaves what is stored under another as it is.
-/

namespace PluginAudit

structure Storage where
  tables : List String
  activePlugins : Option (List String)

namespace Host

/-- What is stored under a prefix: its tables and its active plugins. -/
def storageUnder (h : Host) (pre : String) : Storage :=
  ⟨h.tablesUnder pre, Assoc.get? pre h.active⟩

variable {h : Host} {pre other table : String}

theorem tablesUnder_eq_filter (h : Host) (pre : String) :
    h.tablesUnder pre = h.tables.filter fun table => decide (table ∈ coreTablesUnder pre) := by
  refine List.filter_congr fun table member => ?_
  have under : table ∈ h.tablesUnder pre ↔ table ∈ h.tables ∧ table ∈ coreTablesUnder pre :=
    mem_tablesUnder
  simp only [tablesUnder, List.mem_filter, member, true_and] at under
  rw [Bool.eq_iff_iff, under, decide_eq_true_iff]

/-- A site made anew has a table of options under its own prefix. -/
theorem options_mem_fresh (root : Path) (pre home : String) (runtime : Runtime) :
    pre ++ "options" ∈ (fresh root pre home runtime).tablesUnder pre := by
  have core := options_mem_coreTablesUnder_self pre
  refine mem_tablesUnder.mpr ⟨?_, core⟩
  simp only [fresh, SortedList.mem_foldl_insert .text]
  exact .inl core

/-- A site made anew has tables under its own prefix alone. -/
theorem tablesUnder_fresh (root : Path) (home : String) (runtime : Runtime) (different : other ≠ pre) :
    (fresh root pre home runtime).tablesUnder other = [] := by
  refine List.eq_nil_iff_forall_not_mem.mpr fun table member => ?_
  obtain ⟨present, core⟩ := mem_tablesUnder.mp member
  simp only [fresh, SortedList.mem_foldl_insert .text, List.not_mem_nil, or_false] at present
  exact different (eq_of_mem_coreTablesUnder core present)

theorem tablesUnder_withActivePlugins (h : Host) (plugins : List String) (pre : String) :
    (h.withActivePlugins plugins).tablesUnder pre = h.tablesUnder pre := rfl

theorem storageUnder_install (different : other ≠ h.tablePrefix) :
    h.install.storageUnder other = h.storageUnder other := by
  have dropped : ∀ table ∈ coreTablesUnder h.tablePrefix,
      decide (table ∈ coreTablesUnder other) = false := by
    intro table core
    simpa using fun under => different (eq_of_mem_coreTablesUnder under core)
  simp only [storageUnder, tablesUnder_eq_filter, install, SortedList.filter_foldl_insert dropped,
    Assoc.get?_update_other .text different]

/-- With the table of options, and with no other one, go the active plugins. -/
theorem active_dropTable (core : table ∈ coreTablesUnder pre) :
    (h.dropTable table).active =
      if table = pre ++ "options" then Assoc.erase pre h.active else h.active := by
  simp only [dropTable]
  split
  · rename_i front cut
    have isOptions : table = String.ofList front ++ "options" :=
      String.toList_injective (by simpa using Text.before?_eq_some.mp cut)
    have own : String.ofList front = pre := options_mem_coreTablesUnder.mp (isOptions ▸ core)
    rw [isOptions, own, if_pos rfl]
  · rename_i noCut
    have notOptions : table ≠ pre ++ "options" := by
      rintro rfl
      have cut := Text.before?_eq_some.mpr (String.toList_append (s := pre) (t := "options"))
      rw [cut] at noCut
      cases noCut
    rw [if_neg notOptions]

/-- Dropping a table under a prefix takes nothing from other prefixes. -/
theorem storageUnder_dropTable (core : table ∈ coreTablesUnder pre) (different : other ≠ pre) :
    (h.dropTable table).storageUnder other = h.storageUnder other := by
  have kept : ∀ kept ∈ h.tables, (decide (kept ∈ coreTablesUnder other) && (kept != table)) =
      decide (kept ∈ coreTablesUnder other) := by
    intro kept _
    by_cases under : kept ∈ coreTablesUnder other
    · have distinct : kept ≠ table := by
        rintro rfl
        exact different (eq_of_mem_coreTablesUnder under core)
      simp [distinct]
    · simp [under]
  have stored : Assoc.get? other (h.dropTable table).active = Assoc.get? other h.active := by
    rw [active_dropTable core]
    split
    · exact Assoc.get?_erase_other different _
    · rfl
  simp only [storageUnder, stored]
  simp only [tablesUnder_eq_filter, dropTable, List.filter_filter, List.filter_congr kept]

theorem storageUnder_dropTables {dropped : List String}
    (core : ∀ table ∈ dropped, table ∈ coreTablesUnder pre) (different : other ≠ pre) (h : Host) :
    (dropped.foldl dropTable h).storageUnder other = h.storageUnder other := by
  induction dropped generalizing h with
  | nil => rfl
  | cons table rest inductionHypothesis =>
    have others := inductionHypothesis
      (fun table member => core table (List.mem_cons_of_mem _ member)) (h.dropTable table)
    exact others.trans (storageUnder_dropTable (core table List.mem_cons_self) different)

theorem disjoint_tablesUnder (h : Host) (different : pre ≠ other) :
    (h.tablesUnder pre).Disjoint (h.tablesUnder other) := by
  intro table under underOther
  exact different (eq_of_mem_coreTablesUnder (mem_tablesUnder.mp under).2 (mem_tablesUnder.mp underOther).2)

/-! ## Sites in use -/

-- sites are compared field by field below, which must not spell out the tables
attribute [local irreducible] coreTablesUnder

/-- A site that nothing was done with but setting it up. -/
inductive IsNew : Host → Prop
  | simulated (root : Path) (simulation : Simulation) : IsNew (.simulated root simulation)
  | opened {disk : Disk} {root : Path} {site : Host} (ran : openInstallation disk root = .ok site) : IsNew site
  | withActivePlugins {site : Host} (new : IsNew site) (plugins : List String) : IsNew (site.withActivePlugins plugins)
  | withHomeAddress {site : Host} (new : IsNew site) (address : String) : IsNew (site.withHomeAddress address)
  | withPluginsAddress {site : Host} (new : IsNew site) (address : String) : IsNew (site.withPluginsAddress address)
  | withEnvironment {site : Host} (new : IsNew site) (environment : EnvironmentType) :
      IsNew { site with environment }
  | withTheme {site : Host} (new : IsNew site) (theme : String) : IsNew { site with theme }

/-- Tables and stored active plugins of a new site fit together under every prefix, its own
too. -/
theorem IsNew.stored (new : h.IsNew) :
    h.sitePrefix ++ "options" ∈ h.tables ∧ StoredLawfully (fun _ => True) h.tables h.active := by
  have fresh (root : Path) (pre home : String) (runtime : Runtime) :
      pre ++ "options" ∈ (Host.fresh root pre home runtime).tables :=
    (mem_tablesUnder.mp (options_mem_fresh root pre home runtime)).1
  induction new with
  | simulated root simulation => exact ⟨fresh .., .fresh ..⟩
  | opened ran =>
    obtain ⟨pre, home, runtime, -, rfl⟩ := exists_fresh_of_openInstallation ran
    exact ⟨fresh .., .fresh ..⟩
  | withActivePlugins _ plugins inductionHypothesis =>
    exact ⟨inductionHypothesis.1, inductionHypothesis.2.put (fun _ => inductionHypothesis.1) plugins⟩
  | withHomeAddress | withPluginsAddress | withEnvironment | withTheme => assumption

theorem IsNew.lawful (new : h.IsNew) : h.Lawful := by
  induction new with
  | simulated root simulation => exact .simulated root simulation
  | opened ran => exact .openInstallation ran
  | withActivePlugins _ plugins inductionHypothesis => exact inductionHypothesis.withActivePlugins plugins
  | withHomeAddress _ _ inductionHypothesis | withPluginsAddress _ _ inductionHypothesis
  | withEnvironment _ _ inductionHypothesis | withTheme _ _ inductionHypothesis => exact { inductionHypothesis with }

/-- Whatever is done with a site, the table prefix in use is well formed and earlier ones can
be used again; active plugins are stored under just those prefixes that have a table of
options; and two prefixes have no tables in common, nor does installing under one of them or
dropping its tables change what is stored under the other. -/
theorem prefixes_apart {new : Host} (isNew : new.IsNew) (earlier later : List HostCall) :
    let before := (HostCall.performAll new earlier).2
    let h := (HostCall.performAll before later).2
    (h.tablePrefix ≠ "" ∧ ∀ c ∈ h.tablePrefix.toList, Text.isAsciiAlphanumeric c ∨ c = '_') ∧
      h.useTablePrefix before.tablePrefix = .ok { h with tablePrefix := before.tablePrefix } ∧
      (∀ pre, (Assoc.get? pre h.active).isSome ↔ pre ++ "options" ∈ h.tables) ∧
      ∀ pre other, pre ≠ other →
        (h.tablesUnder pre).Disjoint (h.tablesUnder other) ∧
          (∀ switched, h.useTablePrefix pre = .ok switched →
            switched.install.storageUnder other = h.storageUnder other) ∧
          ((h.tablesUnder pre).foldl dropTable h).storageUnder other = h.storageUnder other := by
  intro before h
  have lawfulBefore : before.Lawful := isNew.lawful.performAll earlier
  have lawful : h.Lawful := lawfulBefore.performAll later
  have stored := (isNew.stored.2.performAll earlier).performAll later
  refine ⟨?_, ?_, fun pre => stored.stored pre trivial, fun pre other different => ⟨?_, ?_, ?_⟩⟩
  · have wellFormed := lawful.tablePrefix
    simp only [isTablePrefix, isPrefixChar, Bool.and_eq_true, Bool.not_eq_true', List.all_eq_true,
      Bool.or_eq_true, beq_iff_eq] at wellFormed
    exact ⟨by simpa using wellFormed.1, wellFormed.2⟩
  · exact if_pos lawfulBefore.tablePrefix
  · exact disjoint_tablesUnder h different
  · intro switched used
    simp only [useTablePrefix] at used
    split at used
    · cases used
      exact storageUnder_install different.symm
    · cases used
  · exact storageUnder_dropTables (fun table member => (mem_tablesUnder.mp member).2) different.symm h

/-- A site with plugins that are active under two prefixes, of which one starts with the
other. -/
def twoPrefixes : Host :=
  (HostCall.performAll ((simulated ⟨"site"⟩ {}).withActivePlugins ["form/form.php"])
    [.useTablePrefix "wp_term", .install, .storeActivePlugins ["box.php"]]).2

theorem prefixes_apart_twoPrefixes :
    twoPrefixes.useTablePrefix "wp_" = .ok { twoPrefixes with tablePrefix := "wp_" } ∧
      (twoPrefixes.tablesUnder "wp_").length = 12 ∧
      ((twoPrefixes.tablesUnder "wp_").foldl dropTable twoPrefixes).storageUnder "wp_term" =
        twoPrefixes.storageUnder "wp_term" ∧
      (twoPrefixes.storageUnder "wp_term").activePlugins = some ["box.php"] := by
  set new := (simulated ⟨"site"⟩ {}).withActivePlugins ["form/form.php"]
  have isNew : new.IsNew := .withActivePlugins (.simulated _ _) _
  obtain ⟨-, used, -, apart⟩ := prefixes_apart isNew []
    [.useTablePrefix "wp_term", .install, .storeActivePlugins ["box.php"]]
  -- written like the site itself, so that the calls are not carried out to compare the two
  have start : (HostCall.performAll new []).2 = new := rfl
  have inUse : new.tablePrefix = "wp_" := rfl
  rw [start, inUse] at used
  rw [start] at apart
  have dropped := (apart "wp_" "wp_term" (by decide)).2.2
  unfold twoPrefixes
  exact ⟨used, by decide +kernel, dropped, by decide +kernel⟩

end Host

end PluginAudit
