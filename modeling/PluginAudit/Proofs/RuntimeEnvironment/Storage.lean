import PluginAudit.Proofs.Host.Tables
import PluginAudit.Proofs.Preparation.Sparing
import PluginAudit.Proofs.RuntimeEnvironment

/-!
# What the runtime environment stores

Equipping and stripping a site are changes under one prefix.  Where there was
nothing under that prefix, stripping the site undoes equipping it, whatever
prefix came in use meanwhile.
-/

namespace PluginAudit

/-- What is stored under a prefix. -/
def World.storageUnder (pre : String) (world : World) : Storage := world.host.storageUnder pre

theorem World.postless_storageUnder (pre : String) : Postless (storageUnder pre) := fun _ _ _ _ => rfl

theorem World.unfiltered_storageUnder (pre : String) : Unfiltered (storageUnder pre) := fun _ _ _ => rfl

theorem World.unprefixed_storageUnder (pre : String) : Unprefixed (storageUnder pre) := fun _ _ => rfl

namespace RuntimeEnvironment

variable {pre other : String} {h : Host}

-- sites are compared field by field below, which must not spell out the tables
attribute [local irreducible] Host.coreTablesUnder

/-! ## Other prefixes -/

theorem installTables_spares {world : World} (different : other ≠ world.host.tablePrefix)
    (active : List String) :
    ((installTables active).runIn world).2.storageUnder other = world.storageUnder other := by
  have installed := Host.storageUnder_install different
  rw [runIn_installTables]
  simp only [World.storageUnder]
  split
  · simp only [Host.storageUnder] at installed ⊢
    rw [Assoc.get?_put_other .text different]
    exact installed
  · rfl

/-- Whatever the runtime environment does under a prefix, what is stored under
another one stays as it is. -/
theorem spares_storageUnder (different : other ≠ pre) : Spares pre (World.storageUnder other) := by
  refine .ofTables (fun _ _ => rfl) (World.unprefixed_storageUnder other) (fun active world inUse => ?_)
    fun world => ?_
  · exact installTables_spares (inUse ▸ different) active
  · exact Host.storageUnder_dropTables (fun _ member => (Host.mem_tablesUnder.mp member).2) different
      world.host

/-! ## The prefix itself -/

/-- All tables are there, and active plugins are stored in them. -/
structure Furnished (pre : String) (active : List String) (h : Host) : Prop where
  tables : ∀ table ∈ Host.coreTablesUnder pre, table ∈ h.tables
  stored : Assoc.get? pre h.active = some active

theorem furnished_equipped (noTables : h.tablesUnder pre = []) :
    Furnished pre h.storedActivePlugins (equipped pre h) := by
  simp only [equipped, noTables, List.isEmpty_nil, if_true]
  refine ⟨fun table core => ?_, Assoc.get?_put_self .text _ _ _⟩
  exact (Host.mem_tables_install (h := { h with tablePrefix := pre })).mpr (.inl core)

/-- Where there are tables, a site is equipped. -/
theorem equipped_of_tables (tables : h.tablesUnder pre ≠ []) : equipped pre h = h := by
  simp [equipped, tables]

/-! ## There and back -/

theorem active_dropTables {dropped : List String}
    (core : ∀ table ∈ dropped, table ∈ Host.coreTablesUnder pre)
    (ascending : Assoc.Ascending textLess h.active) :
    (dropped.foldl Host.dropTable h).active =
      if pre ++ "options" ∈ dropped then Assoc.erase pre h.active else h.active := by
  induction dropped generalizing h with
  | nil => rfl
  | cons table rest inductionHypothesis =>
    have active := Host.active_dropTable (h := h) (core table List.mem_cons_self)
    have others := @inductionHypothesis (h.dropTable table)
      (fun table member => core table (List.mem_cons_of_mem _ member))
    rw [active] at others
    by_cases isOptions : table = pre ++ "options"
    · -- the active plugins are gone by now, and are removed but once
      have gone := Assoc.get?_erase_self .text pre ascending
      simp only [isOptions, if_true] at others
      have removed := others (ascending.sublist (Assoc.erase_sublist pre h.active))
      simp [isOptions, removed, Assoc.erase_eq_self gone]
    · simp only [isOptions, if_false] at others
      simp [others ascending, Ne.symm isOptions]

/-- With the tables under a prefix goes all that is stored in them, no matter who
installed them. -/
theorem storageUnder_stripped (ascending : Assoc.Ascending textLess h.active)
    (options : pre ++ "options" ∈ h.tablesUnder pre) : (stripped pre h).storageUnder pre = ⟨[], none⟩ := by
  have core : ∀ table ∈ h.tablesUnder pre, table ∈ Host.coreTablesUnder pre :=
    fun _ member => (Host.mem_tablesUnder.mp member).2
  have active : (stripped pre h).active = Assoc.erase pre h.active := by
    simp [stripped, active_dropTables core ascending, options]
  simp [Host.storageUnder, tablesUnder_stripped, active, Assoc.get?_erase_self .text pre ascending]

/-- All that is stored under a prefix goes with its tables. -/
theorem stripped_eq (storage : StoredLawfully (· ≠ h.sitePrefix) h.tables h.active)
    (notOwn : pre ≠ h.sitePrefix) :
    stripped pre h =
      { h with
        tables := h.tables.filter fun table => decide (table ∉ Host.coreTablesUnder pre)
        active := Assoc.erase pre h.active
        tablePrefix := if h.tablePrefix == pre then h.sitePrefix else h.tablePrefix } := by
  have tables : (stripped pre h).tables =
      h.tables.filter fun table => decide (table ∉ Host.coreTablesUnder pre) := by
    simp only [stripped, tables_dropTables]
    refine List.filter_congr fun table member => ?_
    simp [Host.mem_tablesUnder, member]
  have active : (stripped pre h).active = Assoc.erase pre h.active := by
    have core : ∀ table ∈ h.tablesUnder pre, table ∈ Host.coreTablesUnder pre :=
      fun _ member => (Host.mem_tablesUnder.mp member).2
    simp only [stripped, active_dropTables core storage.ascending, Host.mem_tablesUnder,
      Host.options_mem_coreTablesUnder_self, and_true]
    split
    · rfl
    · rename_i noOptions
      have none : Assoc.get? pre h.active = none := by
        simpa [noOptions] using storage.stored pre notOwn
      exact (Assoc.erase_eq_self none).symm
  obtain ⟨_, _, same⟩ := exists_dropTables_eq (h.tablesUnder pre) h
  rw [← tables, ← active]
  simp [stripped, same]

theorem tables_equipped (noTables : h.tablesUnder pre = []) :
    (equipped pre h).tables.filter (fun table => decide (table ∉ Host.coreTablesUnder pre)) =
      h.tables := by
  simp only [equipped, noTables, List.isEmpty_nil, if_true, Host.install]
  rw [SortedList.filter_foldl_insert (by simp)]
  refine List.filter_eq_self.mpr fun table member => ?_
  have notUnder : table ∉ h.tablesUnder pre := by simp [noTables]
  simpa [Host.mem_tablesUnder, member] using notUnder

theorem active_equipped (ascending : Assoc.Ascending textLess h.active)
    (none : Assoc.get? pre h.active = none) (noTables : h.tablesUnder pre = []) :
    Assoc.erase pre (equipped pre h).active = h.active := by
  simp only [equipped, noTables, List.isEmpty_nil, if_true, Host.install,
    Assoc.update_eq_put .text _ _ _ ascending, Assoc.put_put .text, Assoc.erase_put .text none]

/-- Stripping a site undoes equipping it, whatever prefix is in use by then; if
that is the prefix of the tables, the site's own prefix comes in use. -/
theorem stripped_equipped (lawful : h.Lawful) (wellFormed : Host.isTablePrefix pre)
    (notOwn : pre ≠ h.sitePrefix) (noTables : h.tablesUnder pre = []) (used : String) :
    stripped pre { equipped pre h with tablePrefix := used } =
      { h with tablePrefix := if used == pre then h.sitePrefix else used } := by
  have storage := (equipped_lawful lawful wellFormed).storage
  have tables := tables_equipped noTables
  have active := active_equipped lawful.storage.ascending
    (lawful.storage.none_stored notOwn noTables) noTables
  obtain ⟨installed, stored, same⟩ := exists_equipped_eq pre h
  rw [same] at storage tables active ⊢
  have undone := stripped_eq (h := { h with tables := installed, active := stored, tablePrefix := used })
    storage notOwn
  dsimp only at tables active undone ⊢
  rw [undone, tables, active]

end RuntimeEnvironment

end PluginAudit
