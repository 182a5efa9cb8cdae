import PluginAudit.Preparation.Universal
import PluginAudit.Proofs.Host.State
import PluginAudit.Proofs.Preparation.DemoPosts
import PluginAudit.Proofs.RuntimeEnvironment
import PluginAudit.Run.Shared

/-!
# Preparations can be undone

A preparation is reversible if its cleanup leads back to the state the site was
in before, and if nothing is left behind where it fails.  Every kind of
preparation of this library is reversible, and so is what is put together from
reversible ones with the cleanups in reverse order.
-/

namespace PluginAudit

/-- Carrying out a cleanup takes a site from one state to another. -/
def Cleanup.Leads (c : Cleanup) (start target : SiteState) : Prop :=
  ∀ world, Standing start world → Standing target (c.run.runIn world).2

/-- What making a preparation has left: a cleanup that leads back to a state,
or, where it failed, the state itself. -/
def Reversed (state : SiteState) : Except Error Cleanup × World → Prop
  | (.ok cleanup, world) => ∃ changed, Standing changed world ∧ cleanup.Leads changed state
  | (.error _, world) => Standing state world

/-- A preparation that can be undone wherever it is made. -/
def Preparation.Reversible (p : Preparation) : Prop :=
  ∀ state world, Standing state world → Reversed state (p.runIn world)

variable {state changed middle : SiteState} {world : World}

/-! ## Cleanups in order -/

namespace Cleanup.Leads

theorem noop (state : SiteState) : noop.Leads state state := fun _ standing => standing

theorem chain_nil (label : String) (state : SiteState) : (chain label []).Leads state state :=
  fun _ standing => standing

/-- A further cleanup that leads to where a chain starts can be put behind the
chain: it is carried out first. -/
theorem chain_append {label : String} {parts : List Cleanup} {last : Cleanup}
    (rest : (chain label parts).Leads middle state) (first : last.Leads changed middle) :
    (chain label (parts ++ [last])).Leads changed state := by
  intro world standing
  rw [world_chain_append]
  exact rest _ (first _ standing)

theorem chain_pair {label : String} {outer inner : Cleanup} (rest : outer.Leads middle state)
    (first : inner.Leads changed middle) : (chain label [outer, inner]).Leads changed state :=
  show (chain label ([] ++ [outer] ++ [inner])).Leads changed state from
    chain_append (chain_append (chain_nil label state) rest) first

/-- A cleanup that spares the site leads nowhere else. -/
theorem ofSpares {c : Cleanup} (spares : Act.Spares World.site c.run) (state : SiteState) :
    c.Leads state state := fun world standing => standing.spared (spares world)

end Cleanup.Leads

/-- A preparation that spares the site is reversible. -/
theorem Preparation.Spares.reversible {p : Preparation} (spares : Preparation.Spares World.site p) :
    p.Reversible := by
  intro state world standing
  cases made : p.runIn world with
  | mk outcome after =>
    have kept : Standing state after := standing.spared (spares.making.of_runIn made)
    cases outcome with
    | ok cleanup => exact ⟨state, kept, .ofSpares (spares.undoing made) state⟩
    | error e => exact kept

/-! ## Filters and theme directories -/

/-- Filters that are older than a number are kept when it is taken out. -/
theorem Filters.filter_older {entries : List FilterEntry} {id bound : Nat}
    (older : ∀ entry ∈ entries, entry.id < bound) (new : bound ≤ id) :
    entries.filter (fun entry => entry.id != id) = entries := by
  refine List.filter_eq_self.mpr fun entry member => ?_
  have before := older entry member
  simp only [bne_iff_ne, ne_eq]
  omega

/-- Taking out a theme directory that was not registered before gives back the
others. -/
theorem Host.themeDirectories_deregister_register {h : Host} {directory : Path}
    (new : h.hasThemeDirectory directory = false) :
    (SortedList.insert Path.less directory h.themeDirectories).filter
      (fun d => !directory.same d) = h.themeDirectories := by
  have different : ∀ d ∈ h.themeDirectories, directory.same d = false := by
    simpa [hasThemeDirectory] using new
  rw [SortedList.filter_insert (by simp [Path.same])]
  exact List.filter_eq_self.mpr fun d member => by simp [different d member]

namespace MinimalTheme

/-- The site while the minimal theme is in use. -/
def themed (theme : String) (added : Option Path) (h : Host) : Host :=
  let registered := (added.map h.registerThemeDirectory).getD h
  { registered with
    filters :=
      ((registered.filters.add .template fun _ => .text theme).1.add .stylesheet
        fun _ => .text theme).1 }

/-- The directory that has to be registered, if it is not registered yet. -/
def missing (directory : Option Path) (h : Host) : Option Path :=
  directory.filter fun d => !h.hasThemeDirectory d

/-- The cleanup takes both filters out, and the directory if it was added. -/
def undo (added : Option Path) (number : Nat) (h : Host) : Host :=
  let unfiltered : Host := { h with filters := (h.filters.remove number).remove (number + 1) }
  (added.map unfiltered.deregisterThemeDirectory).getD unfiltered

theorem filters_registered (added : Option Path) (h : Host) :
    ((added.map h.registerThemeDirectory).getD h).filters = h.filters := by
  cases added <;> rfl

theorem runIn_prepare (theme : String) (directory : Option Path) (world : World) :
    (prepare theme directory).runIn world =
      (.ok (.of "use_minimal_theme"
          (.onHost (undo (missing directory world.host) world.host.filters.nextId))),
        { world with host := themed theme (missing directory world.host) world.host }) := by
  have numbers := filters_registered (missing directory world.host) world.host
  unfold prepare
  rw [Act.runIn_eq]
  change (Except.ok (Cleanup.of "use_minimal_theme" (.onHost (undo (missing directory world.host)
    ((missing directory world.host).map world.host.registerThemeDirectory |>.getD
      world.host).filters.nextId))), _) = _
  rw [numbers]
  rfl

theorem lawful_themed {h : Host} (lawful : h.Lawful) (theme : String) (added : Option Path) :
    (themed theme added h).Lawful := by
  have registered : ((added.map h.registerThemeDirectory).getD h).Lawful := by
    cases added with
    | none => exact lawful
    | some directory => exact lawful.registerThemeDirectory directory
  exact (registered.addFilter .template _).addFilter .stylesheet _

theorem siteState_themed (theme : String) (added : Option Path) (h : Host) :
    (themed theme added h).siteState =
      { h.siteState with
        filters := h.filters.entries ++
          [⟨h.filters.nextId, .template, fun _ => .text theme⟩,
            ⟨h.filters.nextId + 1, .stylesheet, fun _ => .text theme⟩]
        themeDirectories := (added.map fun d =>
          SortedList.insert Path.less d h.themeDirectories).getD h.themeDirectories } := by
  cases added <;>
    simp [themed, Host.siteState, Filters.add, Host.registerThemeDirectory]

/-- Using the minimal theme can be undone. -/
theorem reversible (theme : String) (directory : Option Path) :
    Preparation.Reversible (prepare theme directory) := by
  intro state world standing
  obtain ⟨lawful, deletes, rfl⟩ := standing
  rw [runIn_prepare]
  refine ⟨_, ⟨lawful_themed lawful theme _, ?_, rfl⟩, ?_⟩
  · cases missing directory world.host <;> exact deletes
  · -- whatever happened meanwhile, the cleanup meets the state that was made here
    intro later later_standing
    obtain ⟨laterLawful, laterDeletes, same⟩ := later_standing
    rw [siteState_themed] at same
    obtain ⟨prefixes, entries, directories, posts⟩ := Host.siteState_eq_iff.mp same
    simp only [Host.siteState] at entries directories prefixes posts
    -- the two filters are the only ones with their numbers, so taking them out leaves the others
    have older := lawful.filters
    have remaining : ((later.host.filters.remove world.host.filters.nextId).remove
        (world.host.filters.nextId + 1)).entries = world.host.filters.entries := by
      simp [Filters.remove, entries, Filters.filter_older older le_rfl,
        Filters.filter_older older (Nat.le_succ _)]
    simp only [Cleanup.run_of, Act.runIn_onHost, undo]
    have unfiltered := (laterLawful.removeFilter world.host.filters.nextId).removeFilter
      (world.host.filters.nextId + 1)
    cases absent : missing directory world.host with
    | none =>
      refine ⟨unfiltered, laterDeletes, ?_⟩
      simp only [absent, Option.map_none, Option.getD_none] at directories
      simp [Host.siteState, remaining, directories, prefixes, posts]
    | some d =>
      refine ⟨unfiltered.deregisterThemeDirectory d, laterDeletes, ?_⟩
      have new : world.host.hasThemeDirectory d = false := by
        simpa using (Option.filter_eq_some_iff.mp absent).2
      simp only [absent, Option.map_some, Option.getD_some] at directories
      simp [Host.siteState, Host.deregisterThemeDirectory, remaining, directories, prefixes, posts,
        Host.themeDirectories_deregister_register new]

end MinimalTheme

/-! ## The only active plugin -/

namespace SinglePlugin

/-- The site while a plugin is forced to be the only active one. -/
def forcing (target : String) (tool : Option String) (installed : InstalledPlugins) (h : Host) :
    Host :=
  { h with filters := (h.filters.add .activePlugins (force target (forced installed target tool))).1 }

/-- Forcing an installed plugin succeeds and adds a filter; a plugin that is not
installed is not forced. -/
theorem runIn_prepare (target : String) (tool : Option String) (world : World) :
    (∃ installed, world.host.installedPlugins world.disk = .ok installed ∧
        Assoc.contains target installed ∧
        (prepare target tool).runIn world =
          (.ok (.of "force_single_plugin" (.onHost fun host =>
              { host with filters := host.filters.remove world.host.filters.nextId })),
            { world with host := forcing target tool installed world.host })) ∨
      ∃ e, (prepare target tool).runIn world = (.error e, world) := by
  unfold prepare
  rw [Act.runIn_eq]
  cases found : world.host.installedPlugins world.disk with
  | error e => exact .inr ⟨e, rfl⟩
  | ok installed =>
    by_cases present : Assoc.contains target installed
    · exact .inl ⟨installed, rfl, present, by simp only [present]; rfl⟩
    · exact .inr ⟨_, by simp only [present]; rfl⟩

/-- Forcing a plugin can be undone. -/
theorem reversible (target : String) (tool : Option String) :
    Preparation.Reversible (prepare target tool) := by
  intro state world standing
  obtain ⟨installed, -, -, ran⟩ | ⟨e, ran⟩ := runIn_prepare target tool world
  · rw [ran]
    obtain ⟨lawful, deletes, rfl⟩ := standing
    refine ⟨_, ⟨lawful.addFilter .activePlugins _, deletes, rfl⟩, ?_⟩
    intro later laterStanding
    obtain ⟨laterLawful, laterDeletes, same⟩ := laterStanding
    refine ⟨laterLawful.removeFilter _, laterDeletes, ?_⟩
    obtain ⟨prefixes, entries, directories, posts⟩ := Host.siteState_eq_iff.mp same
    simp only [Host.siteState, forcing, Filters.add] at entries directories prefixes posts
    simp [Host.siteState, Act.runIn_onHost, Filters.remove, entries, directories, prefixes, posts,
      Filters.filter_older lawful.filters le_rfl]
  · rw [ran]
    exact standing

end SinglePlugin

namespace UniversalPreparation

/-- What every runtime check needs can be undone, also where its second part
fails. -/
theorem reversible (target : String) (tool : Option String) (directory : Option Path) :
    Preparation.Reversible (prepare target tool directory) := by
  intro state world standing
  have first := MinimalTheme.reversible MinimalTheme.standard directory state world standing
  unfold prepare
  rw [Act.runIn_bind]
  cases themeMade : (MinimalTheme.prepare MinimalTheme.standard directory).runIn world with
  | mk outcome themed =>
    rw [themeMade] at first
    cases outcome with
    | error e => exact first
    | ok theme =>
      obtain ⟨middle, themedStanding, themeUndone⟩ := first
      have second := SinglePlugin.reversible target tool middle themed themedStanding
      dsimp only
      rw [Act.runIn_eq]
      cases pluginMade : (SinglePlugin.prepare target tool).runIn themed with
      | mk outcome forced =>
        rw [pluginMade] at second
        cases outcome with
        | error e => exact themeUndone _ second
        | ok plugin =>
          obtain ⟨changed, forcedStanding, pluginUndone⟩ := second
          exact ⟨changed, forcedStanding, .chain_pair themeUndone pluginUndone⟩

end UniversalPreparation

/-! ## Demo posts -/

theorem Host.refusesDeletions_insertPost (h : Host) (post : Post) :
    (h.insertPost post).1.refusesDeletions = h.refusesDeletions := by
  unfold insertPost
  split
  · rfl
  · rename_i simulation behind
    have same : h.refusesDeletions = simulation.failsDeletions := by simp [refusesDeletions, behind]
    rw [same]
    split <;> rfl

namespace DemoPosts

/-- A state with further posts. -/
def withPosts (state : SiteState) (added : List (Nat × StoredPost)) : SiteState :=
  { state with posts := state.posts ++ added }

theorem standing_deletePost {id : Nat} {stored : StoredPost} {rest : List (Nat × StoredPost)}
    (standing : Standing (withPosts state ((id, stored) :: rest)) world)
    (new : Assoc.get? id state.posts = none) :
    ∃ host, world.host.deletePost id = .ok host ∧
      Standing (withPosts state rest) { world with host } := by
  obtain ⟨lawful, deletes, same⟩ := standing
  obtain ⟨prefixes, entries, directories, posts⟩ := Host.siteState_eq_iff.mp same
  dsimp only [withPosts] at prefixes entries directories posts
  have present : Assoc.contains id world.host.posts := by
    simp [Assoc.contains, posts, Assoc.get?_append_right new, Assoc.get?]
  have deleted : world.host.deletePost id =
      .ok { world.host with posts := Assoc.erase id world.host.posts } := by
    simp [Host.deletePost, deletes, present]
  refine ⟨_, deleted, lawful.deletePost deleted, deletes, ?_⟩
  have remaining := Assoc.erase_append_cons new stored rest
  simp [Host.siteState, withPosts, posts, remaining, directories, prefixes, entries]

/-- Deleting the posts that were added leads back, whatever their number. -/
theorem deleteAll_leads (added : List (Nat × StoredPost))
    (new : ∀ entry ∈ added, Assoc.get? entry.1 state.posts = none)
    (standing : Standing (withPosts state added) world) :
    Standing state ((deleteAll (added.map Prod.fst)).runIn world).2 := by
  induction added generalizing world with
  | nil => simpa [withPosts, deleteAll] using standing
  | cons entry rest inductionHypothesis =>
    obtain ⟨host, deleted, left⟩ := standing_deletePost standing (new entry List.mem_cons_self)
    have others := inductionHypothesis
      (fun other member => new other (List.mem_cons_of_mem entry member)) left
    simp only [List.map_cons, deleteAll]
    rw [Act.runIn_eq]
    simp only [Act.runIn_tryHost, deleted]
    exact others

/-- An insertion stores the post behind all others, or changes nothing that
counts. -/
theorem standing_insertPost (standing : Standing state world) (post : Post) :
    (∃ id stored, (world.host.insertPost post).2 = .ok id ∧
        Assoc.get? id state.posts = none ∧
        Standing (withPosts state [(id, stored)])
          { world with host := (world.host.insertPost post).1 }) ∨
      ∃ e, (world.host.insertPost post).2 = .error e ∧
        Standing state { world with host := (world.host.insertPost post).1 } := by
  obtain ⟨lawful, deletes, rfl⟩ := standing
  have lawfulAfter := lawful.insertPost post
  have deletesAfter := (world.host.refusesDeletions_insertPost post).trans deletes
  have new : Assoc.get? world.host.nextPost world.host.posts = none :=
    Assoc.get?_eq_none.mpr fun entry member => (lawful.posts entry member).ne
  -- on a lawful site the next number is behind all others, so the post is stored last
  rcases answered : (world.host.insertPost post).2 with e | id
  · refine .inr ⟨e, rfl, lawfulAfter, deletesAfter, ?_⟩
    rw [Host.insertPost_eq_error answered]
    rfl
  · obtain ⟨rfl, stored⟩ := Host.insertPost_eq_ok lawful.posts answered
    refine .inl ⟨_, ⟨world.host.tablePrefix, post⟩, rfl, new, lawfulAfter, deletesAfter, ?_⟩
    rw [stored]
    rfl

/-- Inserting posts behind those inserted already ends with all of them, which
are new, or with none of them. -/
theorem insertAll_spec (posts : List Post) (added : List (Nat × StoredPost))
    (new : ∀ entry ∈ added, Assoc.get? entry.1 state.posts = none)
    (standing : Standing (withPosts state added) world) :
    match (insertAll (added.map Prod.fst) posts).runIn world with
    | (.ok ids, after) => ∃ all, ids = all.map Prod.fst ∧
        (∀ entry ∈ all, Assoc.get? entry.1 state.posts = none) ∧
        Standing (withPosts state all) after
    | (.error _, after) => Standing state after := by
  induction posts generalizing added world with
  | nil => exact ⟨added, rfl, new, standing⟩
  | cons post rest inductionHypothesis =>
    simp only [insertAll]
    rw [Act.runIn_eq]
    simp only [Act.runIn_askHost]
    rcases standing_insertPost standing post with
      ⟨id, stored, inserted, idNew, after⟩ | ⟨e, refused, after⟩
    · -- the post joins those that were added, which stay new
      rw [inserted]
      have appended : withPosts (withPosts state added) [(id, stored)] =
          withPosts state (added ++ [(id, stored)]) := by simp [withPosts]
      rw [appended] at after
      have idNewBefore : Assoc.get? id state.posts = none := by
        refine Assoc.get?_eq_none.mpr fun entry member => ?_
        exact Assoc.get?_eq_none.mp idNew entry (List.mem_append_left added member)
      have allNew : ∀ entry ∈ added ++ [(id, stored)], Assoc.get? entry.1 state.posts = none := by
        intro entry member
        rcases List.mem_append.mp member with member | member
        · exact new entry member
        · rw [List.mem_singleton.mp member]
          exact idNewBefore
      have others := inductionHypothesis (added ++ [(id, stored)]) allNew after
      rw [List.map_append] at others
      exact others
    · -- what was inserted so far is deleted again
      rw [refused]
      exact deleteAll_leads added new after

/-- Demo posts can be taken away again, and where an insertion fails those that
were inserted before are taken away at once. -/
theorem reversible (posts : List Post) : Preparation.Reversible (prepare posts) := by
  intro state world standing
  have start : Standing (withPosts state []) world := by simpa [withPosts] using standing
  have inserted := insertAll_spec posts [] (by simp) start
  unfold prepare
  rw [Act.runIn_bind]
  simp only [List.map_nil] at inserted
  cases ran : (insertAll [] posts).runIn world with
  | mk outcome after =>
    rw [ran] at inserted
    cases outcome with
    | error e => exact inserted
    | ok ids =>
      obtain ⟨all, rfl, new, standing⟩ := inserted
      exact ⟨withPosts state all, standing, fun _ later => deleteAll_leads all new later⟩

theorem request_reversible (arguments : Text.Json) :
    Preparation.Reversible (request arguments).prepare := by
  intro state world standing
  unfold SharedPreparation.prepare request ofArguments
  simp only [Act.runIn_bind]
  cases postsOfJson arguments with
  | ok posts => exact reversible posts state world standing
  | error e => exact standing

end DemoPosts

end PluginAudit
