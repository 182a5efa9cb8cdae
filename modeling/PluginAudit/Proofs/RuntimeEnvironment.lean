import PluginAudit.Proofs.Effect
import PluginAudit.Proofs.Host.Lawful
import PluginAudit.Proofs.Preparation.Sparing
import PluginAudit.RuntimeEnvironment

/-!
# What setting up the runtime environment does

On a lawful site setting up and cleaning up come down to one change of the
tables, which cannot fail, and one change of the drop-in file, which can.
-/

namespace PluginAudit

/-- Setting up and removing the runtime environment under a prefix leave a view
of the world as it is. -/
structure RuntimeEnvironment.Spares {γ : Type} (pre : String) (view : World → γ) : Prop where
  setUp : Act.Spares view (setUp pre)
  cleanUp : Act.Spares view (cleanUp pre)

namespace RuntimeEnvironment

-- sites are compared field by field below, which must not spell out the tables
attribute [local irreducible] Host.coreTablesUnder

/-- A site with tables under a prefix, as setting up installs them. -/
def equipped (pre : String) (h : Host) : Host :=
  if (h.tablesUnder pre).isEmpty then
    { { h with tablePrefix := pre }.install with
      active := Assoc.put textLess pre h.storedActivePlugins
        { h with tablePrefix := pre }.install.active
      tablePrefix := h.tablePrefix }
  else h

/-- A site without the tables under a prefix, as cleaning up leaves it. -/
def stripped (pre : String) (h : Host) : Host :=
  { (h.tablesUnder pre).foldl Host.dropTable h with
    tablePrefix := if h.tablePrefix == pre then h.sitePrefix else h.tablePrefix }

variable {pre : String} {world : World}

/-! ## Tables -/

/-- Equipping a site changes its tables and what is stored in them. -/
theorem exists_equipped_eq (pre : String) (h : Host) :
    ∃ tables active, equipped pre h = { h with tables, active } := by
  unfold equipped
  split
  · exact ⟨_, _, rfl⟩
  · exact ⟨h.tables, h.active, rfl⟩

/-- Dropping tables changes the tables and what is stored in them. -/
theorem exists_dropTables_eq (dropped : List String) (h : Host) :
    ∃ tables active, dropped.foldl Host.dropTable h = { h with tables, active } := by
  induction dropped generalizing h with
  | nil => exact ⟨h.tables, h.active, rfl⟩
  | cons table rest inductionHypothesis => exact inductionHypothesis (h.dropTable table)

/-- Equipping a site leaves the drop-in file and the prefix of its own tables. -/
theorem dropInPath_equipped (pre : String) (h : Host) :
    dropInPath (equipped pre h) = dropInPath h ∧ (equipped pre h).sitePrefix = h.sitePrefix := by
  obtain ⟨tables, active, same⟩ := exists_equipped_eq pre h
  rw [same]
  exact ⟨rfl, rfl⟩

theorem dropInPath_stripped (pre : String) (h : Host) :
    dropInPath (stripped pre h) = dropInPath h := by
  obtain ⟨tables, active, same⟩ := exists_dropTables_eq (h.tablesUnder pre) h
  rw [stripped, same]
  rfl

theorem tables_dropTables (dropped : List String) (h : Host) :
    (dropped.foldl Host.dropTable h).tables = h.tables.filter fun table => decide (table ∉ dropped) := by
  induction dropped generalizing h with
  | nil => simp
  | cons first rest inductionHypothesis =>
    simp only [List.foldl_cons, inductionHypothesis, Host.dropTable, List.filter_filter]
    refine List.filter_congr fun table _ => ?_
    by_cases same : table = first <;> simp [same]

theorem tablesUnder_stripped (h : Host) : (stripped pre h).tablesUnder pre = [] := by
  refine List.eq_nil_iff_forall_not_mem.mpr fun table member => ?_
  obtain ⟨present, core⟩ := Host.mem_tablesUnder.mp member
  simp only [stripped, tables_dropTables, List.mem_filter, decide_eq_true_eq] at present
  exact present.2 (Host.mem_tablesUnder.mpr ⟨present.1, core⟩)

theorem stripped_lawful {h : Host} (lawful : h.Lawful) : (stripped pre h).Lawful := by
  have dropped := lawful.dropTables (h.tablesUnder pre)
  refine { dropped with tablePrefix := ?_ }
  simp only [stripped]
  split
  · exact lawful.sitePrefix
  · exact lawful.tablePrefix

theorem options_mem_equipped {h : Host} (noTables : h.tablesUnder pre = []) :
    pre ++ "options" ∈ (equipped pre h).tablesUnder pre := by
  have core : pre ++ "options" ∈ Host.coreTablesUnder pre := Host.options_mem_coreTablesUnder.mpr rfl
  refine Host.mem_tablesUnder.mpr ⟨?_, core⟩
  simp only [equipped, noTables, List.isEmpty_nil, if_true]
  exact (Host.mem_tables_install (h := { h with tablePrefix := pre })).mpr (.inl core)

theorem equipped_lawful {h : Host} (lawful : h.Lawful) (wellFormed : Host.isTablePrefix pre) :
    (equipped pre h).Lawful := by
  simp only [equipped]
  split
  · have switched : ({ h with tablePrefix := pre } : Host).Lawful :=
      { lawful with tablePrefix := wellFormed }
    have present : pre ++ "options" ∈ ({ h with tablePrefix := pre } : Host).install.tables :=
      Host.mem_tables_install.mpr (.inl (Host.options_mem_coreTablesUnder.mpr rfl))
    refine ⟨lawful.tablePrefix, lawful.sitePrefix, lawful.filters, lawful.posts, ?_⟩
    exact switched.install.storage.put (fun _ => present) _
  · exact lawful

/-! ## Setting up and cleaning up -/

theorem useTablePrefix_of_isTablePrefix (h : Host) (wellFormed : Host.isTablePrefix pre) :
    h.useTablePrefix pre = .ok { h with tablePrefix := pre } := by
  simp [Host.useTablePrefix, wellFormed]

theorem useTablePrefix_of_not_isTablePrefix (h : Host) (malformed : ¬ Host.isTablePrefix pre) :
    h.useTablePrefix pre = .error (.host ("invalid table prefix: " ++ Text.quoted pre)) := by
  simp [Host.useTablePrefix, malformed]

theorem runIn_installTables (active : List String) (world : World) :
    (installTables active).runIn world =
      (.ok (), { world with
        host :=
          if (world.host.tablesUnder world.host.tablePrefix).isEmpty then
            { world.host.install with
              active := Assoc.put textLess world.host.tablePrefix active world.host.install.active }
          else world.host }) := by
  have member : world.host.install.tablePrefix ++ "options" ∈ world.host.install.tables :=
    Host.mem_tables_install.mpr (.inl (Host.options_mem_coreTablesUnder.mpr rfl))
  have present := List.contains_iff_mem.mpr member
  simp only [installTables, Act.runIn_tryHost]
  by_cases missing : (world.host.tablesUnder world.host.tablePrefix).isEmpty
  · simp only [missing, if_true, Host.storeActivePlugins, present]
    rfl
  · simp only [missing, Bool.false_eq_true, if_false]

/-- Under a prefix that is not well formed nothing is set up. -/
theorem runIn_setUp_refused (malformed : ¬ Host.isTablePrefix pre) (world : World) :
    ∃ e, (setUp pre).runIn world = (.error e, world) := by
  refine ⟨.host ("invalid table prefix: " ++ Text.quoted pre), ?_⟩
  unfold setUp
  rw [Act.runIn_eq]
  simp only [Act.runIn_tryHost, useTablePrefix_of_not_isTablePrefix _ malformed]

/-- Setting up a site equips it and then writes the drop-in file. -/
theorem runIn_setUp (inUse : Host.isTablePrefix world.host.tablePrefix)
    (wellFormed : Host.isTablePrefix pre) :
    (setUp pre).runIn world =
      writeDropIn.runIn { world with host := equipped pre world.host } := by
  unfold setUp
  rw [Act.runIn_eq]
  simp only [Act.runIn_tryHost, useTablePrefix_of_isTablePrefix _ wellFormed, runIn_installTables,
    useTablePrefix_of_isTablePrefix _ inUse]
  simp only [equipped]
  have sameTables : ({ world.host with tablePrefix := pre } : Host).tablesUnder pre =
    world.host.tablesUnder pre := rfl
  rw [sameTables]
  split <;> rfl

/-- Cleaning up a site strips it and then removes the drop-in file. -/
theorem runIn_cleanUp (inUse : Host.isTablePrefix world.host.tablePrefix)
    (own : Host.isTablePrefix world.host.sitePrefix) :
    (cleanUp pre).runIn world =
      removeDropIn.runIn { world with host := stripped pre world.host } := by
  have next : Host.isTablePrefix (stripped pre world.host).tablePrefix := by
    simp only [stripped]
    split
    · exact own
    · exact inUse
  unfold cleanUp dropTables
  simp only [Act.runIn_bind, Act.runIn_get, Act.runIn_onHost, Act.runIn_tryHost]
  rw [show Host.useTablePrefix _ _ = .ok (stripped pre world.host) from
    useTablePrefix_of_isTablePrefix _ next]

/-! ## The drop-in file -/

section DropIn

variable {γ : Type} {view : World → γ}

/-- Writing the drop-in file, with or without success, changes files alone. -/
theorem writeDropIn_spares (diskless : World.Diskless view) : Act.Spares view writeDropIn := by
  intro world
  unfold writeDropIn
  rw [Act.runIn_eq]
  dsimp only
  split
  · rfl
  · split
    · exact diskless world _
    · rfl

/-- Removing the drop-in file, with or without success, changes files alone. -/
theorem removeDropIn_spares (diskless : World.Diskless view) : Act.Spares view removeDropIn := by
  intro world
  unfold removeDropIn
  rw [Act.runIn_eq]
  dsimp only
  split
  · split
    · split
      · exact diskless world _
      · rfl
    · rfl
  · rfl
  · rfl

end DropIn

/-- Writing the drop-in file touches no site. -/
theorem host_writeDropIn (world : World) : (writeDropIn.runIn world).2.host = world.host :=
  writeDropIn_spares (fun _ _ => rfl) world

/-- Removing the drop-in file touches no site. -/
theorem host_removeDropIn (world : World) : (removeDropIn.runIn world).2.host = world.host :=
  removeDropIn_spares (fun _ _ => rfl) world

/-! ## What is spared -/

section Sparing

variable {γ : Type} {view : World → γ}

theorem tablePrefix_of_useTablePrefix {used after : World}
    (switched : (Act.tryHost fun host => host.useTablePrefix pre).runIn used = (.ok (), after)) :
    after.host.tablePrefix = pre := by
  by_cases wellFormed : Host.isTablePrefix pre
  · rw [Act.runIn_tryHost, useTablePrefix_of_isTablePrefix _ wellFormed] at switched
    cases switched
    rfl
  · rw [Act.runIn_tryHost, useTablePrefix_of_not_isTablePrefix _ wellFormed] at switched
    cases switched

/-- Setting up and cleaning up spare what sees neither files nor the prefix in use,
if it is spared where tables are installed and dropped. -/
theorem Spares.ofTables (diskless : World.Diskless view) (unprefixed : World.Unprefixed view)
    (installing : ∀ active world, world.host.tablePrefix = pre →
      view ((installTables active).runIn world).2 = view world)
    (dropping : Act.Spares view (dropTables pre)) : Spares pre view where
  setUp := by
    have prefixed (other : String) := Host.useTablePrefix_spares unprefixed other
    intro world
    unfold RuntimeEnvironment.setUp
    rw [Act.runIn_eq]
    dsimp only
    -- the prefix is switched, the tables are installed, the prefix is switched back
    rcases switched : (Act.tryHost fun host => host.useTablePrefix pre).runIn world with
      ⟨_ | _, testing⟩
    · exact (prefixed pre).of_runIn switched
    have inUse : testing.host.tablePrefix = pre := tablePrefix_of_useTablePrefix switched
    dsimp only
    rcases installed : (installTables world.host.storedActivePlugins).runIn testing with
      ⟨outcome, furnished⟩
    have kept : view furnished = view world := by
      have first := installing world.host.storedActivePlugins testing inUse
      rw [installed] at first
      exact first.trans ((prefixed pre).of_runIn switched)
    dsimp only
    rcases back : (Act.tryHost fun host => host.useTablePrefix world.host.tablePrefix).runIn furnished
      with ⟨_ | _, returned⟩ <;> have returning := ((prefixed _).of_runIn back).trans kept
    · exact returning
    · cases outcome with
      | error e => exact returning
      | ok _ => exact (writeDropIn_spares diskless returned).trans returning
  cleanUp := by
    unfold RuntimeEnvironment.cleanUp
    refine .bind (fun _ => rfl) fun now => .bind dropping fun _ => ?_
    exact .bind (Host.useTablePrefix_spares unprefixed _) fun _ => removeDropIn_spares diskless

/-- A view of the world that sees neither files nor tables, what is stored in them and
the prefix in use. -/
def Unstored (view : World → γ) : Prop :=
  ∀ world disk tables active tablePrefix,
    view { world with disk, host := { world.host with tables, active, tablePrefix } } = view world

/-- Setting up and cleaning up change nothing but files, tables and what is stored in
them. -/
theorem Unstored.spares (unstored : Unstored view) (pre : String) : Spares pre view := by
  refine .ofTables (fun world disk => ?_) (fun world tablePrefix => ?_) (fun active world _ => ?_)
    fun world => ?_
  · exact unstored world disk _ _ _
  · exact unstored world _ _ _ tablePrefix
  · rw [runIn_installTables]
    dsimp only
    split
    · exact unstored world _ _ _ _
    · rfl
  · obtain ⟨tables, active, same⟩ := exists_dropTables_eq (world.host.tablesUnder pre) world.host
    rw [dropTables, Act.runIn_onHost, same]
    exact unstored world _ tables active _

end Sparing

end RuntimeEnvironment

end PluginAudit
