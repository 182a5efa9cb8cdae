import PluginAudit.Proofs.Host.Filters
import PluginAudit.Proofs.Run.Agreement
import PluginAudit.Proofs.Run.Residue
import PluginAudit.Proofs.Run.Visits

/-!
# Runs on sites that are alike

Two sites are alike if they differ in no more than the numbers of their filters, in posts that are
older than all new ones, and in records.  Preparations fail on both or on neither and leave them
alike, and modest checks find the same on both.
-/

namespace PluginAudit

open EnqueuedAssets (demoPosts addresses)

/-! ## Sites that are alike -/

/-- What stands behind a site, without records; insertions are counted where one is to fail. -/
def Runtime.due : Runtime → Runtime
  | simulated simulation =>
      simulated { simulation with
        insertions := if simulation.failingInsertion.isSome then simulation.insertions else 0
        requested := [] }
  | installed root => installed root

theorem Runtime.due_counting (runtime : Runtime) (insertions : Nat) :
    (runtime.counting insertions).due = (runtime.due.counting insertions).due := by
  cases runtime with
  | installed root => rfl
  | simulated simulation =>
    simp only [counting, due]
    split <;> rfl

/-- What a site answers when a page is requested while plugins are active. -/
def Runtime.load (runtime : Runtime) (active : List String) (address : String) : Except Error (List Asset) :=
  match runtime with
  | installed _ => .error (.host ("cannot dispatch " ++ address ++ " without a PHP runtime"))
  | simulated simulation =>
      if simulation.answersRequests then .ok (Host.loadedAssets simulation active address)
      else .error (.host "request simulation is disabled")

theorem Runtime.load_due (runtime : Runtime) (active : List String) (address : String) :
    runtime.due.load active address = runtime.load active address := by
  cases runtime <;> rfl

theorem Host.assets_dispatch (h : Host) (address : String) :
    (h.dispatch address).2 = h.runtime.load h.activePlugins address := by
  unfold dispatch Runtime.load
  cases behind : h.runtime with
  | installed root => rfl
  | simulated simulation =>
    dsimp only
    cases simulation.answersRequests <;> rfl

/-- Whether the next insertion is the one that is to fail. -/
def Runtime.isDueToFail : Runtime → Bool
  | simulated simulation => simulation.failingInsertion == some simulation.insertions
  | installed _ => false

theorem Runtime.isDueToFail_due (runtime : Runtime) : runtime.due.isDueToFail = runtime.isDueToFail := by
  cases runtime with
  | installed root => rfl
  | simulated simulation => cases failing : simulation.failingInsertion <;> simp [due, isDueToFail, failing]

theorem Host.outcome_insertPost (h : Host) (post : Post) :
    (h.insertPost post).2 =
      if h.runtime.isDueToFail then .error (.host ("could not insert " ++ post.postType ++ " post"))
      else .ok h.nextPost := by
  unfold insertPost Runtime.isDueToFail
  cases behind : h.runtime with
  | installed root => rfl
  | simulated simulation =>
    dsimp only
    split <;> rfl

/-- The site without filters, posts and records. -/
def Host.gist (h : Host) : Host := { h with filters := {}, posts := [], runtime := h.runtime.due }

/-- What alike worlds have in common. -/
structure World.Gist where
  disk : Disk
  searchPath : List String
  host : Host
  /-- What the filters make of values. -/
  answers : Hook → FilterValue → FilterValue

def World.gist (world : World) : World.Gist :=
  ⟨world.disk, world.searchPath, world.host.gist, world.host.filters.apply⟩

/-- The worlds have the same gist, and all of their posts are older than the next one. -/
structure World.Alike (one other : World) : Prop where
  gist : one.gist = other.gist
  older : ∀ entry ∈ one.host.posts, entry.1 < one.host.nextPost
  older' : ∀ entry ∈ other.host.posts, entry.1 < other.host.nextPost

theorem Filters.apply_add_congr {f g : Filters} (same : f.apply = g.apply) (hook : Hook)
    (change : FilterValue → FilterValue) : (f.add hook change).1.apply = (g.add hook change).1.apply := by
  funext other value
  by_cases isSame : hook = other
  · subst isSame
    rw [apply_add_same, apply_add_same, same]
  · rw [apply_add_other f isSame, apply_add_other g isSame, same]

namespace World.Alike

variable {one other here there : World}

/-- What shows in the gist of a site is the same. -/
theorem congr {γ : Type} (alike : Alike one other) (view : Host → γ) (shows : ∀ h : Host, view h.gist = view h) :
    view one.host = view other.host := by
  rw [← shows one.host, ← shows other.host]
  exact congrArg view (congrArg Gist.host alike.gist)

theorem disk (alike : Alike one other) : one.disk = other.disk := congrArg Gist.disk alike.gist

theorem searchPath (alike : Alike one other) : one.searchPath = other.searchPath :=
  congrArg Gist.searchPath alike.gist

theorem answers (alike : Alike one other) : one.host.filters.apply = other.host.filters.apply :=
  congrArg Gist.answers alike.gist

theorem nextPost (alike : Alike one other) : one.host.nextPost = other.host.nextPost :=
  alike.congr Host.nextPost fun _ => rfl

theorem publicPostTypes (alike : Alike one other) : one.host.publicPostTypes = other.host.publicPostTypes := by
  refine alike.congr Host.publicPostTypes fun h => ?_
  simp only [Host.gist, Host.publicPostTypes]
  cases h.runtime <;> rfl

theorem refusesDeletions (alike : Alike one other) : one.host.refusesDeletions = other.host.refusesDeletions := by
  refine alike.congr Host.refusesDeletions fun h => ?_
  simp only [Host.gist, Host.refusesDeletions]
  cases h.runtime <;> rfl

theorem installedPlugins (alike : Alike one other) :
    one.host.installedPlugins one.disk = other.host.installedPlugins other.disk := by
  rw [alike.disk]
  refine alike.congr (fun h => h.installedPlugins other.disk) fun h => ?_
  simp only [Host.gist, Host.installedPlugins]
  cases h.runtime <;> rfl

theorem activePlugins (alike : Alike one other) : one.host.activePlugins = other.host.activePlugins := by
  have stored : one.host.storedActivePlugins = other.host.storedActivePlugins :=
    alike.congr Host.storedActivePlugins fun _ => rfl
  simp only [Host.activePlugins, Filters.applyList, alike.answers, stored]

/-- The same assets are loaded on the same pages. -/
theorem assets (alike : Alike one other) (address : String) :
    (one.host.dispatch address).2 = (other.host.dispatch address).2 := by
  rw [Host.assets_dispatch, Host.assets_dispatch, alike.activePlugins]
  exact alike.congr (fun h => h.runtime.load other.host.activePlugins address) fun h => h.runtime.load_due _ _

/-- Records that are left behind make no difference. -/
theorem quiet (alike : Alike one other) (same : here.quiet = one.quiet) (same' : there.quiet = other.quiet) :
    Alike here there := by
  have gist_quiet (world : World) : world.quiet.gist = world.gist := by
    simp only [World.gist, World.quiet, Host.gist, Runtime.recording]
    cases world.host.runtime <;> rfl
  have posts (world : World) : world.quiet.host.posts = world.host.posts := rfl
  have number (world : World) : world.quiet.host.nextPost = world.host.nextPost := rfl
  refine ⟨?_, ?_, ?_⟩
  · rw [← gist_quiet here, same, gist_quiet, alike.gist, ← gist_quiet other, ← same', gist_quiet]
  · rw [← posts, ← number, same]
    exact alike.older
  · rw [← posts, ← number, same']
    exact alike.older'

/-! ## What leaves sites alike -/

theorem themed (alike : Alike one other) (theme : String) (directory : Option Path) :
    Alike
      { one with host := MinimalTheme.themed theme (MinimalTheme.missing directory one.host) one.host }
      { other with host := MinimalTheme.themed theme (MinimalTheme.missing directory other.host) other.host } := by
  have sameMissing : MinimalTheme.missing directory one.host = MinimalTheme.missing directory other.host :=
    alike.congr (MinimalTheme.missing directory) fun _ => rfl
  have kept (added : Option Path) (h : Host) : (MinimalTheme.themed theme added h).posts = h.posts ∧
      (MinimalTheme.themed theme added h).nextPost = h.nextPost := by
    cases added <;> exact ⟨rfl, rfl⟩
  rw [sameMissing]
  generalize MinimalTheme.missing directory other.host = added
  refine ⟨?_, ?_, ?_⟩
  · have gist (h : Host) : (MinimalTheme.themed theme added h).gist =
        (added.map h.gist.registerThemeDirectory).getD h.gist := by
      cases added <;> rfl
    have answers (h : Host) : (MinimalTheme.themed theme added h).filters =
        ((h.filters.add .template fun _ => .text theme).1.add .stylesheet fun _ => .text theme).1 := by
      simp only [MinimalTheme.themed, MinimalTheme.filters_registered]
    have same : one.host.gist = other.host.gist := congrArg Gist.host alike.gist
    simp only [World.gist, gist, answers, same, alike.disk, alike.searchPath,
      Filters.apply_add_congr (Filters.apply_add_congr alike.answers _ _)]
  · simpa only [kept] using alike.older
  · simpa only [kept] using alike.older'

theorem forcing (alike : Alike one other) (target : String) (tool : Option String) (installed : InstalledPlugins) :
    Alike { one with host := SinglePlugin.forcing target tool installed one.host }
      { other with host := SinglePlugin.forcing target tool installed other.host } where
  gist := by
    have same : one.host.gist = other.host.gist := congrArg Gist.host alike.gist
    have kept (h : Host) : (SinglePlugin.forcing target tool installed h).gist = h.gist := rfl
    simp only [World.gist, kept, same, alike.disk, alike.searchPath]
    simp only [SinglePlugin.forcing, Filters.apply_add_congr alike.answers]
  older := alike.older
  older' := alike.older'

theorem prefixed (alike : Alike one other) (tablePrefix : String) :
    Alike { one with host := { one.host with tablePrefix } } { other with host := { other.host with tablePrefix } } where
  gist := by
    have same : one.host.gist = other.host.gist := congrArg Gist.host alike.gist
    have kept (h : Host) : ({ h with tablePrefix } : Host).gist = { h.gist with tablePrefix } := rfl
    simp only [World.gist, kept, same, alike.disk, alike.searchPath, alike.answers]
  older := alike.older
  older' := alike.older'

theorem storing (alike : Alike one other) (posts : List Post) :
    Alike { one with host := one.host.storing posts } { other with host := other.host.storing posts } where
  gist := by
    have same : one.host.gist = other.host.gist := congrArg Gist.host alike.gist
    have stored (h : Host) : (h.storing posts).gist =
        { h.gist with
          nextPost := h.gist.nextPost + posts.length
          runtime := (h.gist.runtime.counting posts.length).due } := by
      simp only [Host.gist, Host.storing, ← Runtime.due_counting]
    simp only [World.gist, stored, same, alike.disk, alike.searchPath]
    simp only [Host.storing, alike.answers]
  older := Host.older_storing alike.older
  older' := Host.older_storing alike.older'

end World.Alike

/-! ## Preparing the site -/

/-- A cleanup that does not fail, whatever it finds. -/
def Cleanup.Succeeds (c : Cleanup) : Prop := ∀ world, (c.run.runIn world).1 = .ok ()

namespace Cleanup.Succeeds

theorem noop : Cleanup.noop.Succeeds := fun _ => rfl

theorem onHost (label : String) (change : Host → Host) : (Cleanup.of label (.onHost change)).Succeeds := fun _ => rfl

theorem useTablePrefix (label : String) {pre : String} (wellFormed : Host.isTablePrefix pre) :
    (Cleanup.of label (.tryHost fun host => host.useTablePrefix pre)).Succeeds := by
  intro world
  rw [Cleanup.run_of, Act.runIn_tryHost, RuntimeEnvironment.useTablePrefix_of_isTablePrefix _ wellFormed]

theorem chain (label : String) {parts : List Cleanup} (each : ∀ c ∈ parts, c.Succeeds) :
    (Cleanup.chain label parts).Succeeds := by
  have all : ∀ parts : List Cleanup, (∀ c ∈ parts, c.Succeeds) →
      ∀ world, ((Cleanup.runAll parts).runIn world).1 = .ok () := by
    intro parts each
    induction parts with
    | nil => exact fun _ => rfl
    | cons c rest inductionHypothesis =>
      intro world
      rw [Cleanup.runIn_runAll_cons, each c List.mem_cons_self]
      exact inductionHypothesis (fun other member => each other (List.mem_cons_of_mem c member)) _
  exact all parts.reverse fun c member => each c (List.mem_reverse.mp member)

end Cleanup.Succeeds

/-- Two preparations come to the same: both fail with one error, or both are made on sites that are
alike afterwards, and their cleanups do not fail. -/
inductive MadeAlike : Except Error Cleanup × World → Except Error Cleanup × World → Prop
  | failed (e : Error) (one other : World) : MadeAlike (.error e, one) (.error e, other)
  | made {c c' : Cleanup} {one other : World} : World.Alike one other → c.Succeeds → c'.Succeeds →
      MadeAlike (.ok c, one) (.ok c', other)

variable {one other : World}

theorem MinimalTheme.madeAlike (alike : World.Alike one other) (theme : String) (directory : Option Path) :
    MadeAlike ((prepare theme directory).runIn one) ((prepare theme directory).runIn other) := by
  rw [runIn_prepare, runIn_prepare]
  exact .made (alike.themed theme directory) (.onHost _ _) (.onHost _ _)

theorem SinglePlugin.madeAlike (alike : World.Alike one other) (target : String) (tool : Option String) :
    MadeAlike ((prepare target tool).runIn one) ((prepare target tool).runIn other) := by
  unfold prepare
  rw [Act.runIn_eq, Act.runIn_eq, alike.installedPlugins]
  split
  · exact .failed _ _ _
  · rename_i installed _
    split
    · exact .failed _ _ _
    · exact .made (alike.forcing target tool installed) (.onHost _ _) (.onHost _ _)

theorem UniversalPreparation.madeAlike (alike : World.Alike one other) (target : String) (tool : Option String)
    (directory : Option Path) :
    MadeAlike ((prepare target tool directory).runIn one) ((prepare target tool directory).runIn other) := by
  have theme := MinimalTheme.madeAlike alike MinimalTheme.standard directory
  unfold prepare
  rw [Act.runIn_bind, Act.runIn_bind]
  revert theme
  generalize (MinimalTheme.prepare MinimalTheme.standard directory).runIn one = first
  generalize (MinimalTheme.prepare MinimalTheme.standard directory).runIn other = first'
  rintro (⟨e, themed, themed'⟩ | @⟨c, c', themed, themed', themedAlike, undone, undone'⟩)
  · exact .failed _ _ _
  · have plugin := SinglePlugin.madeAlike themedAlike target tool
    simp only [Act.runIn_eq] at plugin ⊢
    revert plugin
    generalize SinglePlugin.prepare target tool themed = second
    generalize SinglePlugin.prepare target tool themed' = second'
    rintro (⟨e, forced, forced'⟩ | @⟨p, p', forced, forced', forcedAlike, released, released'⟩)
    · exact .failed _ _ _
    · exact .made forcedAlike (.chain _ (by simp [undone, released])) (.chain _ (by simp [undone', released']))

namespace Run

variable {r : Run} {parts parts' : List Cleanup}

theorem switchPrefix_madeAlike (alike : World.Alike one other) (inUse : Host.isTablePrefix one.host.tablePrefix)
    (undone : ∀ c ∈ parts, c.Succeeds) (undone' : ∀ c ∈ parts', c.Succeeds) :
    MadeAlike ((r.switchPrefix parts).runIn one) ((r.switchPrefix parts').runIn other) := by
  have inUse' : Host.isTablePrefix other.host.tablePrefix := by
    rwa [← alike.congr Host.tablePrefix fun _ => rfl]
  unfold switchPrefix
  rw [Act.runIn_eq, Act.runIn_eq]
  simp only [Act.runIn_tryHost]
  by_cases wellFormed : Host.isTablePrefix r.settings.testingPrefix
  · simp only [RuntimeEnvironment.useTablePrefix_of_isTablePrefix _ wellFormed]
    exact .made (alike.prefixed _)
      (.chain _ (List.forall_mem_append.mpr ⟨undone, List.forall_mem_singleton.mpr (.useTablePrefix _ inUse)⟩))
      (.chain _ (List.forall_mem_append.mpr ⟨undone', List.forall_mem_singleton.mpr (.useTablePrefix _ inUse')⟩))
  · have refused (h : Host) := RuntimeEnvironment.useTablePrefix_of_not_isTablePrefix h wellFormed
    simp only [refused]
    exact .failed _ _ _

theorem isolate_madeAlike (alike : World.Alike one other) (inUse : Host.isTablePrefix one.host.tablePrefix)
    (undone : ∀ c ∈ parts, c.Succeeds) (undone' : ∀ c ∈ parts', c.Succeeds) (basename : String) :
    MadeAlike ((r.isolate basename parts).runIn one) ((r.isolate basename parts').runIn other) := by
  have unfiltered : World.Unfiltered fun world => world.host.tablePrefix := fun _ _ _ => rfl
  have spares := (UniversalPreparation.prepare_spares unfiltered basename r.settings.tool
    r.settings.themeDirectory).making one
  have universal := UniversalPreparation.madeAlike alike basename r.settings.tool r.settings.themeDirectory
  unfold isolate
  simp only [Act.runIn_eq] at spares universal ⊢
  revert spares universal
  generalize UniversalPreparation.prepare basename r.settings.tool r.settings.themeDirectory one = made
  generalize UniversalPreparation.prepare basename r.settings.tool r.settings.themeDirectory other = made'
  rintro spares (⟨e, isolated, isolated'⟩ | @⟨c, c', isolated, isolated', isolatedAlike, released, released'⟩)
  · exact .failed _ _ _
  · exact switchPrefix_madeAlike isolatedAlike (spares ▸ inUse)
      (List.forall_mem_append.mpr ⟨undone, List.forall_mem_singleton.mpr released⟩)
      (List.forall_mem_append.mpr ⟨undone', List.forall_mem_singleton.mpr released'⟩)

theorem prepareSite_madeAlike (alike : World.Alike one other) (unmanaged : r.request.managesEnvironment = false)
    (inUse : Host.isTablePrefix one.host.tablePrefix) (target : RunTarget) :
    MadeAlike ((r.prepareSite target).runIn one) ((r.prepareSite target).runIn other) := by
  unfold prepareSite
  split
  · have isolated : r.prepareRuntime target.basename = r.isolate target.basename [] := by
      funext world
      simp only [prepareRuntime, unmanaged, Bool.false_eq_true, if_false]
      rfl
    rw [isolated]
    exact isolate_madeAlike alike inUse (List.forall_mem_nil _) (List.forall_mem_nil _) target.basename
  · exact .made alike .noop .noop

end Run

/-! ## Demo posts -/

namespace DemoPosts

theorem outcome_insertPost (alike : World.Alike one other) (post : Post) :
    (one.host.insertPost post).2 = (other.host.insertPost post).2 := by
  rw [Host.outcome_insertPost, Host.outcome_insertPost, alike.nextPost,
    alike.congr (fun h => h.runtime.isDueToFail) fun h => h.runtime.isDueToFail_due]

/-- On sites that are alike the same posts can be inserted, and they get the same numbers. -/
theorem outcome_insertAll (alike : World.Alike one other) (inserted : List Nat) (posts : List Post) :
    ((insertAll inserted posts).runIn one).1 = ((insertAll inserted posts).runIn other).1 := by
  induction posts generalizing one other inserted with
  | nil => rfl
  | cons post rest inductionHypothesis =>
    have answered := outcome_insertPost alike post
    simp only [runIn_insertAll_cons, answered]
    cases first : (other.host.insertPost post).2 with
    | error e => rfl
    | ok id =>
      dsimp only
      rw [(Host.insertPost_eq_ok alike.older (answered.trans first)).2, (Host.insertPost_eq_ok alike.older' first).2]
      exact inductionHypothesis (alike.storing [post]) _

/-- Posts that are there on both of two sites can be deleted on both or on neither. -/
theorem outcome_deleteAll {ids : List Nat} (once : ids.Nodup)
    (refuses : one.host.refusesDeletions = other.host.refusesDeletions)
    (there : ∀ id ∈ ids, Assoc.contains id one.host.posts = Assoc.contains id other.host.posts) :
    ((deleteAll ids).runIn one).1 = ((deleteAll ids).runIn other).1 := by
  induction ids generalizing one other with
  | nil => rfl
  | cons id rest inductionHypothesis =>
    obtain ⟨notLater, restOnce⟩ := List.nodup_cons.mp once
    obtain ⟨here, later⟩ := List.forall_mem_cons.mp there
    have kept {posts : List (Nat × StoredPost)} (other : Nat) (member : other ∈ rest) :
        Assoc.contains other (Assoc.erase id posts) = Assoc.contains other posts := by
      have different : other ≠ id := fun same => notLater (same ▸ member)
      simp only [Assoc.contains, Assoc.get?_erase_other different]
    simp only [runIn_deleteAll_cons, Host.deletePost, refuses, here]
    by_cases refused : other.host.refusesDeletions
    · simp only [refused, if_true]
    · by_cases present : Assoc.contains id other.host.posts
      · simp only [refused, present, if_true, if_false, Bool.false_eq_true]
        refine inductionHypothesis restOnce refuses fun other member => ?_
        rw [kept other member, kept other member]
        exact later other member
      · simp only [refused, present, if_false, Bool.false_eq_true]

theorem outcome_prepare (alike : World.Alike one other) (posts : List Post) :
    ((prepare posts).runIn one).1 = ((prepare posts).runIn other).1 := by
  have inserted := outcome_insertAll alike [] posts
  unfold prepare
  rw [Act.runIn_bind, Act.runIn_bind]
  revert inserted
  generalize (insertAll [] posts).runIn one = ran
  generalize (insertAll [] posts).runIn other = ran'
  rcases ran with ⟨_ | _, _⟩ <;> rcases ran' with ⟨_ | _, _⟩ <;> rintro ⟨⟩ <;> rfl

/-- The numbers of demo posts, each of which is there after they were stored. -/
theorem nodup_numbered (h : Host) (posts : List Post) : ((h.numbered posts).map Prod.fst).Nodup := by
  have ids : (h.numbered posts).map Prod.fst = List.range' h.nextPost posts.length := by
    rw [Host.numbered, List.map_map]
    exact List.zipIdx_map_snd h.nextPost posts
  rw [ids]
  exact List.nodup_range'

theorem contains_storing (h : Host) (posts : List Post) :
    ∀ id ∈ (h.numbered posts).map Prod.fst, Assoc.contains id (h.storing posts).posts = true := by
  intro id member
  obtain ⟨entry, created, rfl⟩ := List.mem_map.mp member
  exact Assoc.contains_iff.mpr ⟨entry.2, List.mem_append_right _ created⟩

end DemoPosts

/-- With demo posts of all public types, sites that are alike look the same. -/
theorem World.Alike.outlook_storing (alike : World.Alike one other) :
    let posts := one.host.publicPostTypes.map Post.demo
    World.outlook { one with host := one.host.storing posts } =
      World.outlook { other with host := other.host.storing posts } := by
  intro posts
  have visits : addresses (one.host.storing posts) = addresses (other.host.storing posts) := by
    have same := EnqueuedAssets.addresses_storing (alike.congr Host.homeAddress fun _ => rfl)
      (alike.congr Host.tablePrefix fun _ => rfl) alike.nextPost alike.publicPostTypes
    rwa [← alike.publicPostTypes] at same
  have loaded := funext (alike.storing posts).assets
  simp only [World.outlook, visits, alike.disk, alike.searchPath]
  exact congrArg _ loaded

end PluginAudit
