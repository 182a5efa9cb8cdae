import Mathlib.Data.Finset.Sort
import Mathlib.Data.Finset.Max
import PluginAudit.Proofs.Host.Tables
import PluginAudit.Proofs.Path
import PluginAudit.Proofs.Preparation.DemoPosts

/-!
# Sites that are kept in no order

A simulated site can keep its tables, stored active plugins, theme directories and posts in
sets and maps without an order.  What a question needs in order is sorted for its answer, and
the latest post is the one with the greatest number.  Such a site answers as one that keeps
everything in order; so does an installation, except for what it has no runtime for.
-/

namespace PluginAudit

open PluginAudit.Text

/-! ## Sets and maps -/

namespace Path

/-- The components of the paths in a list, as a set: paths with the same components are one. -/
def componentSet (paths : List Path) : Finset (List Component) := (paths.map components).toFinset

theorem componentSet_insert (directory : Path) (paths : List Path) :
    componentSet (SortedList.insert less directory paths) = insert directory.components (componentSet paths) := by
  induction paths with
  | nil => rfl
  | cons path rest inductionHypothesis =>
    simp only [SortedList.insert]
    split
    · simp [componentSet]
    · split
      · simp only [componentSet, List.map_cons, List.toFinset_cons] at inductionHypothesis ⊢
        rw [inductionHypothesis, Finset.insert_comm]
      · rename_i notBefore notBehind
        have same : directory.components = path.components := componentsOrder.eq_of_not notBefore notBehind
        simp [componentSet, same]

end Path

/-- A list of texts in order is its set, sorted. -/
theorem sort_toFinset {texts : List String} (ascending : texts.Pairwise (textLess · ·)) :
    texts.toFinset.sort (· ≤ ·) = texts := by
  have before : texts.Pairwise (· < ·) := ascending.imp fun less => by simpa [textLess] using less
  have distinct : texts.Nodup := before.imp fun less => less.ne
  exact (List.toFinset_sort _ distinct).mpr (before.imp fun less => less.le)

/-- The last of the numbers in order is the greatest. -/
theorem max_toFinset {numbers : List Nat} (ascending : numbers.Pairwise (natLess · ·)) :
    numbers.toFinset.max = numbers.getLast? := by
  rcases List.eq_nil_or_concat numbers with rfl | ⟨init, last, rfl⟩
  · rfl
  · rw [List.concat_eq_append] at ascending ⊢
    obtain ⟨-, -, behind⟩ := List.pairwise_append.mp ascending
    rw [List.getLast?_concat]
    refine le_antisymm (Finset.max_le fun number member => ?_) (Finset.le_max (by simp))
    simp only [List.mem_toFinset, List.mem_append, List.mem_singleton] at member
    cases member with
    | inl earlier =>
      have less := behind number earlier last (List.mem_singleton_self last)
      exact WithBot.coe_le_coe.mpr (le_of_lt (by simpa [natLess] using less))
    | inr isLast => rw [isLast]; rfl

/-- Of entries in order none but one has the key that is erased. -/
theorem Assoc.erase_eq_filter {κ α : Type} [BEq κ] [LawfulBEq κ] {less : κ → κ → Bool} (order : KeyOrder less)
    (key : κ) {entries : List (κ × α)} (ascending : Ascending less entries) :
    erase key entries = entries.filter (·.1 != key) := by
  induction entries with
  | nil => rfl
  | cons entry rest inductionHypothesis =>
    obtain ⟨first, others⟩ := List.pairwise_cons.mp ascending
    by_cases same : entry.1 = key
    · have kept : rest.filter (·.1 != key) = rest :=
        List.filter_eq_self.mpr fun other member => by
          simpa using (order.ne (same ▸ first other member)).symm
      simp [erase, same, kept]
    · simp [erase, same, inductionHypothesis others]

/-! ## The site -/

/-- A simulated site that is kept in no order. -/
structure UnorderedHost where
  homeAddress : String
  theme : String
  filters : Filters
  tablePrefix : String
  tables : Finset String
  /-- The active plugins that are stored under a prefix. -/
  active : String → Option (List String)
  /-- The theme directories by their components. -/
  themeDirectories : Finset (List Path.Component)
  posts : Finset (Nat × StoredPost)
  nextPost : Nat
  simulation : Simulation

namespace UnorderedHost

variable (u : UnorderedHost)

def activePlugins : List String := u.filters.applyList .activePlugins ((u.active u.tablePrefix).getD [])

def tablesUnder (pre : String) : Finset String := u.tables.filter (· ∈ Host.coreTables.map (pre ++ ·))

def install : UnorderedHost :=
  { u with
    tables := u.tables ∪ (Host.coreTables.map (u.tablePrefix ++ ·)).toFinset
    active := Function.update u.active u.tablePrefix (some ((u.active u.tablePrefix).getD [])) }

/-- With a table of options go the active plugins of its prefix. -/
def dropTable (table : String) : UnorderedHost :=
  { u with
    tables := u.tables.erase table
    active := fun pre => if pre ++ "options" = table then none else u.active pre }

def hasPost (id : Nat) : Prop := ∃ entry ∈ u.posts, entry.1 = id

instance (id : Nat) : Decidable (u.hasPost id) := inferInstanceAs (Decidable (∃ entry ∈ u.posts, _))

def insertPost (post : Post) : Except Error Nat × UnorderedHost :=
  let counted := { u with simulation.insertions := u.simulation.insertions + 1 }
  if u.simulation.failingInsertion = some u.simulation.insertions then
    (.error (.host ("could not insert " ++ post.postType ++ " post")), counted)
  else
    (.ok u.nextPost,
      { counted with
        posts := insert (u.nextPost, ⟨u.tablePrefix, post⟩) (u.posts.filter (·.1 ≠ u.nextPost))
        nextPost := u.nextPost + 1 })

def deletePost (id : Nat) : Except Error UnorderedHost :=
  if u.simulation.failsDeletions then .error (.host s!"could not delete post {id}")
  else if u.hasPost id then .ok { u with posts := u.posts.filter (·.1 ≠ id) }
  else .error (.host s!"post {id} does not exist")

/-- The greatest number of a post that visitors see. -/
def findPost (postType : String) : Option Nat :=
  ((u.posts.filter fun entry => entry.2.tablePrefix = u.tablePrefix ∧ entry.2.post.postType = postType ∧
    entry.2.post.status = "publish").image Prod.fst).max

def dispatch (address : String) : Except Error (List Asset) × UnorderedHost :=
  if u.simulation.answersRequests then
    (.ok (Host.loadedAssets u.simulation u.activePlugins address),
      { u with simulation.requested := u.simulation.requested ++ [address] })
  else (.error (.host "request simulation is disabled"), u)

def perform : HostCall → HostAnswer × UnorderedHost
  | .tablePrefix => (.text u.tablePrefix, u)
  | .useTablePrefix pre =>
      if Host.isTablePrefix pre then (.text u.tablePrefix, { u with tablePrefix := pre })
      else (.failure (.host ("invalid table prefix: " ++ quoted pre)), u)
  | .tables pre => (.texts ((u.tablesUnder pre).sort (· ≤ ·)), u)
  | .install => (.done, u.install)
  | .dropTable table => (.done, u.dropTable table)
  | .storedActivePlugins => (.texts ((u.active u.tablePrefix).getD []), u)
  | .storeActivePlugins plugins =>
      if u.tablePrefix ++ "options" ∈ u.tables then
        (.done, { u with active := Function.update u.active u.tablePrefix (some plugins) })
      else (.failure (.host ("no options table under prefix " ++ u.tablePrefix)), u)
  | .activePlugins => (.texts u.activePlugins, u)
  | .template => (.text (u.filters.applyText .template u.theme), u)
  | .stylesheet => (.text (u.filters.applyText .stylesheet u.theme), u)
  | .registerThemeDirectory directory =>
      (.truth (decide (directory.components ∉ u.themeDirectories)),
        { u with themeDirectories := insert directory.components u.themeDirectories })
  | .deregisterThemeDirectory directory =>
      (.done, { u with themeDirectories := u.themeDirectories.erase directory.components })
  | .addFilter hook change => (.number u.filters.nextId, { u with filters := (u.filters.add hook change).1 })
  | .removeFilter id => (.truth (u.filters.contains id), { u with filters := u.filters.remove id })
  | .applyFilters hook value => (.ofValue (u.filters.apply hook value), u)
  | .filterText hook text => (.text (u.filters.applyText hook text), u)
  | .filterList hook items => (.texts (u.filters.applyList hook items), u)
  | .countFilters hook => (.number (u.filters.count hook), u)
  | .insertPost post => (.ofOutcome .number (u.insertPost post).1, (u.insertPost post).2)
  | .deletePost id =>
      match u.deletePost id with
      | .ok changed => (.done, changed)
      | .error e => (.failure e, u)
  | .findPost postType =>
      match u.findPost postType with
      | some id => (.number id, u)
      | none => (.missing, u)
  | .permalink id =>
      if u.hasPost id then (.text (u.homeAddress ++ s!"/?p={id}"), u)
      else (.failure (.host s!"post {id} does not exist"), u)
  | .publicPostTypes => (.texts u.simulation.postTypes, u)
  | .dispatch address => (.ofOutcome .assets (u.dispatch address).1, (u.dispatch address).2)
  | .acceptsNonce nonce action => (.truth (decide ((action, nonce) ∈ u.simulation.nonces)), u)

def performAll (u : UnorderedHost) : List HostCall → List HostAnswer × UnorderedHost
  | [] => ([], u)
  | call :: rest => ((u.perform call).1 :: (performAll (u.perform call).2 rest).1, (performAll (u.perform call).2 rest).2)

end UnorderedHost

/-! ## Keeping in order -/

/-- A call that does not depend on what stands behind a site. -/
def HostCall.IsShared : HostCall → Prop
  | .publicPostTypes | .dispatch _ | .acceptsNonce _ _ => False
  | _ => True

namespace Host

/-- What stands behind a site is the simulation, or an installation beside one that refuses nothing. -/
def StandsFor (runtime : Runtime) (simulation : Simulation) : Prop :=
  runtime = .simulated simulation ∨
    (∃ root, runtime = .installed root) ∧ simulation.failingInsertion = none ∧ simulation.failsDeletions = false

/-- A site in order is the same as one that is kept in no order. -/
structure Matches (h : Host) (u : UnorderedHost) : Prop where
  homeAddress : h.homeAddress = u.homeAddress
  theme : h.theme = u.theme
  filters : h.filters = u.filters
  tablePrefix : h.tablePrefix = u.tablePrefix
  sorted : h.tables.Pairwise (textLess · ·)
  tables : ∀ table, table ∈ h.tables ↔ table ∈ u.tables
  ascending : Assoc.Ascending textLess h.active
  active : ∀ pre, Assoc.get? pre h.active = u.active pre
  themeDirectories : Path.componentSet h.themeDirectories = u.themeDirectories
  numbered : Assoc.Ascending natLess h.posts
  older : ∀ entry ∈ h.posts, entry.1 < h.nextPost
  posts : ∀ entry, entry ∈ h.posts ↔ entry ∈ u.posts
  nextPost : h.nextPost = u.nextPost
  behind : StandsFor h.runtime u.simulation

namespace Matches

variable {h : Host} {u : UnorderedHost}

-- the tables must not be spelled out to see which ones a site has
attribute [local irreducible] coreTablesUnder

/-! ### Tables -/

theorem tablesUnder (same : h.Matches u) (pre : String) : (u.tablesUnder pre).sort (· ≤ ·) = h.tablesUnder pre := by
  have found : (h.tablesUnder pre).toFinset = u.tablesUnder pre := by
    ext table
    simp [tablesUnder_eq_filter, UnorderedHost.tablesUnder, coreTablesUnder, same.tables]
  rw [← found, sort_toFinset]
  rw [tablesUnder_eq_filter]
  exact same.sorted.sublist List.filter_sublist

theorem useTablePrefix (same : h.Matches u) (pre : String) :
    ({ h with tablePrefix := pre } : Host).Matches { u with tablePrefix := pre } :=
  { same with tablePrefix := rfl }

theorem install (same : h.Matches u) : h.install.Matches u.install :=
  { same with
    sorted := SortedList.pairwise_foldl_insert .text _ same.sorted
    tables := by
      intro table
      rw [mem_tables_install, same.tables, same.tablePrefix]
      simp [UnorderedHost.install, coreTablesUnder, or_comm]
    ascending := Assoc.ascending_update .text _ _ _ same.ascending
    active := by
      intro pre
      simp only [Host.install, UnorderedHost.install, same.tablePrefix]
      by_cases inUse : pre = u.tablePrefix
      · rw [inUse, Assoc.get?_update_self .text _ _ _ same.ascending, same.active]
        simp
      · rw [Assoc.get?_update_other .text inUse, same.active, Function.update_of_ne inUse] }

theorem storeActivePlugins (same : h.Matches u) (plugins : List String) :
    ({ h with active := Assoc.put textLess h.tablePrefix plugins h.active } : Host).Matches
      { u with active := Function.update u.active u.tablePrefix (some plugins) } :=
  { same with
    ascending := Assoc.ascending_put .text _ _ same.ascending
    active := by
      intro pre
      by_cases inUse : pre = u.tablePrefix
      · simp [inUse, same.tablePrefix, Assoc.get?_put_self .text]
      · simp [inUse, same.tablePrefix, Assoc.get?_put_other .text inUse, same.active] }

theorem dropTable (same : h.Matches u) (table : String) : (h.dropTable table).Matches (u.dropTable table) :=
  { same with
    sorted := same.sorted.sublist List.filter_sublist
    tables := by
      intro other
      simp [Host.dropTable, UnorderedHost.dropTable, same.tables, and_comm]
    ascending := by
      simp only [Host.dropTable]
      split
      · exact same.ascending.sublist (Assoc.erase_sublist _ _)
      · exact same.ascending
    active := by
      intro pre
      simp only [Host.dropTable, UnorderedHost.dropTable]
      -- the prefix that a table of options stands under is what is left without its ending
      split
      · rename_i front cut
        have isOptions : String.ofList front ++ "options" = table :=
          String.toList_injective (by simpa using (before?_eq_some.mp cut).symm)
        by_cases own : pre = String.ofList front
        · rw [own, Assoc.get?_erase_self .text _ same.ascending, if_pos isOptions]
        · have other : pre ++ "options" ≠ table := fun equal => own (append_right_cancel (equal.trans isOptions.symm))
          rw [Assoc.get?_erase_other own, same.active, if_neg other]
      · rename_i noCut
        have other : pre ++ "options" ≠ table := by
          rintro rfl
          have cut := before?_eq_some.mpr (String.toList_append (s := pre) (t := "options"))
          rw [cut] at noCut
          cases noCut
        rw [same.active, if_neg other] }

/-! ### Plugins and themes -/

theorem activePlugins (same : h.Matches u) : h.activePlugins = u.activePlugins := by
  rw [Host.activePlugins, storedActivePlugins, same.filters, same.tablePrefix, same.active,
    UnorderedHost.activePlugins]

theorem hasThemeDirectory (same : h.Matches u) (directory : Path) :
    h.hasThemeDirectory directory = decide (directory.components ∈ u.themeDirectories) := by
  rw [Bool.eq_iff_iff, ← same.themeDirectories]
  simp only [Host.hasThemeDirectory, Path.componentSet, Path.same, List.any_eq_true, beq_iff_eq, decide_eq_true_iff,
    List.mem_toFinset, List.mem_map]
  exact exists_congr fun path => and_congr_right fun _ => eq_comm

theorem registerThemeDirectory (same : h.Matches u) (directory : Path) :
    (h.registerThemeDirectory directory).Matches
      { u with themeDirectories := insert directory.components u.themeDirectories } :=
  { same with
    themeDirectories := by
      rw [Host.registerThemeDirectory, Path.componentSet_insert, same.themeDirectories] }

theorem deregisterThemeDirectory (same : h.Matches u) (directory : Path) :
    (h.deregisterThemeDirectory directory).Matches
      { u with themeDirectories := u.themeDirectories.erase directory.components } :=
  { same with
    themeDirectories := by
      ext components
      simp only [← same.themeDirectories, Host.deregisterThemeDirectory, Path.componentSet, Path.same,
        List.mem_toFinset, List.mem_map, List.mem_filter, Finset.mem_erase, Bool.not_eq_true', beq_eq_false_iff_ne]
      constructor
      · rintro ⟨path, ⟨member, different⟩, rfl⟩
        exact ⟨different.symm, path, member, rfl⟩
      · rintro ⟨different, path, member, rfl⟩
        exact ⟨path, ⟨member, different.symm⟩, rfl⟩ }

/-! ### Posts -/

theorem contains (same : h.Matches u) (id : Nat) : Assoc.contains id h.posts = decide (u.hasPost id) := by
  rw [Bool.eq_iff_iff, Assoc.contains_iff, decide_eq_true_iff, UnorderedHost.hasPost]
  constructor
  · rintro ⟨stored, member⟩
    exact ⟨_, (same.posts _).mp member, rfl⟩
  · rintro ⟨⟨_, stored⟩, member, rfl⟩
    exact ⟨stored, (same.posts _).mpr member⟩

theorem findPost (same : h.Matches u) (postType : String) : u.findPost postType = h.findPost postType := by
  have ascending : ((h.posts.filter fun entry => h.shows postType entry.2).map Prod.fst).Pairwise (natLess · ·) :=
    List.pairwise_map.mpr (same.numbered.sublist List.filter_sublist)
  rw [Host.findPost, ← max_toFinset ascending, UnorderedHost.findPost]
  congr 1
  ext id
  simp [same.posts, shows, same.tablePrefix, and_assoc]

theorem refusesDeletions (same : h.Matches u) : h.refusesDeletions = u.simulation.failsDeletions := by
  rcases same.behind with simulated | ⟨⟨root, installed⟩, -, deletes⟩
  · simp [Host.refusesDeletions, simulated]
  · simp [Host.refusesDeletions, installed, deletes]

theorem deletePost (same : h.Matches u) (id : Nat) :
    (∃ changed after, h.deletePost id = .ok changed ∧ u.deletePost id = .ok after ∧ changed.Matches after) ∨
      ∃ e, h.deletePost id = .error e ∧ u.deletePost id = .error e := by
  simp only [Host.deletePost, UnorderedHost.deletePost, same.refusesDeletions, same.contains]
  by_cases refused : u.simulation.failsDeletions
  · exact .inr ⟨.host s!"could not delete post {id}", by rw [if_pos refused], by rw [if_pos refused]⟩
  · by_cases present : u.hasPost id
    · rw [if_neg refused, if_neg refused, if_pos (decide_eq_true present), if_pos present]
      refine .inl ⟨_, _, rfl, rfl, ?_⟩
      exact
        { same with
          numbered := same.numbered.sublist (Assoc.erase_sublist id h.posts)
          older := fun entry member => same.older entry ((Assoc.erase_sublist id h.posts).subset member)
          posts := by
            intro entry
            rw [Assoc.erase_eq_filter .number id same.numbered]
            simp [same.posts] }
    · rw [if_neg refused, if_neg refused, if_neg (by simpa using present), if_neg present]
      exact .inr ⟨_, rfl, rfl⟩

/-- The post that is stored is the last one of each. -/
theorem storing (same : h.Matches u) (post : Post) :
    (h.storing [post]).Matches
      { u with
        simulation.insertions := u.simulation.insertions + 1
        posts := insert (u.nextPost, ⟨u.tablePrefix, post⟩) (u.posts.filter (·.1 ≠ u.nextPost))
        nextPost := u.nextPost + 1 } :=
  { same with
    numbered := by
      refine List.pairwise_append.mpr ⟨same.numbered, List.pairwise_singleton _ _, fun entry member new isNew => ?_⟩
      simp only [Host.numbered, List.zipIdx_singleton, List.map_singleton, List.mem_singleton] at isNew
      simpa [isNew, natLess] using same.older entry member
    older := older_storing same.older
    posts := by
      intro entry
      have notNext (member : entry ∈ u.posts) : entry.1 ≠ u.nextPost :=
        (same.nextPost ▸ same.older entry ((same.posts entry).mpr member)).ne
      simp only [Host.storing, Host.numbered, List.mem_append, same.posts, List.zipIdx_singleton, List.map_singleton,
        List.mem_singleton, Finset.mem_insert, Finset.mem_filter, same.nextPost, same.tablePrefix]
      tauto
    nextPost := by simp [Host.storing, same.nextPost]
    behind := by
      rcases same.behind with simulated | ⟨⟨root, installed⟩, accepts⟩
      · exact .inl (by simp [Host.storing, Runtime.counting, simulated])
      · exact .inr ⟨⟨root, by simp [Host.storing, Runtime.counting, installed]⟩, accepts⟩ }

/-- An insertion is refused by both or accepted by both. -/
theorem insertPost (same : h.Matches u) (post : Post) :
    (h.insertPost post).2 = (u.insertPost post).1 ∧ (h.insertPost post).1.Matches (u.insertPost post).2 := by
  have accepted (notFailing : u.simulation.failingInsertion ≠ some u.simulation.insertions)
      (inserted : (h.insertPost post).2 = .ok h.nextPost) :
      (h.insertPost post).2 = (u.insertPost post).1 ∧ (h.insertPost post).1.Matches (u.insertPost post).2 := by
    rw [inserted, (insertPost_eq_ok same.older inserted).2, UnorderedHost.insertPost, if_neg notFailing]
    exact ⟨by rw [same.nextPost], same.storing post⟩
  rcases same.behind with simulated | ⟨⟨root, installed⟩, accepts, -⟩
  · by_cases failing : u.simulation.failingInsertion = some u.simulation.insertions
    · simp only [Host.insertPost, UnorderedHost.insertPost, simulated, failing, beq_self_eq_true, if_true]
      exact ⟨trivial, { same with behind := .inl rfl }⟩
    · exact accepted failing (by simp [Host.insertPost, simulated, failing, storePost])
  · exact accepted (by simp [accepts]) (by simp [Host.insertPost, installed, storePost])

/-! ### Calls -/

/-- What stands behind a site is asked for by calls that are not shared. -/
theorem dispatch (same : h.Matches u) (simulated : h.runtime = .simulated u.simulation) (address : String) :
    (h.dispatch address).2 = (u.dispatch address).1 ∧ (h.dispatch address).1.Matches (u.dispatch address).2 := by
  by_cases answers : u.simulation.answersRequests
  · have loaded := congrArg (loadedAssets u.simulation · address) same.activePlugins
    simp only [Host.dispatch, UnorderedHost.dispatch, simulated, answers, Bool.not_true, Bool.false_eq_true, if_false,
      if_true]
    exact ⟨congrArg Except.ok loaded, { same with behind := .inl rfl }⟩
  · simp only [Host.dispatch, UnorderedHost.dispatch, simulated, answers, Bool.not_false, if_true]
    exact ⟨rfl, same⟩

theorem perform (same : h.Matches u) {call : HostCall}
    (answers : h.runtime = .simulated u.simulation ∨ call.IsShared) :
    (call.perform h).1 = (u.perform call).1 ∧ (call.perform h).2.Matches (u.perform call).2 := by
  cases call with
  | tablePrefix => exact ⟨by simp [HostCall.perform, UnorderedHost.perform, same.tablePrefix], same⟩
  | useTablePrefix pre =>
    by_cases wellFormed : isTablePrefix pre
    · simp only [HostCall.perform, HostCall.change, Host.useTablePrefix, UnorderedHost.perform, wellFormed, if_true]
      exact ⟨by rw [same.tablePrefix], same.useTablePrefix pre⟩
    · simp only [HostCall.perform, HostCall.change, Host.useTablePrefix, UnorderedHost.perform, wellFormed]
      exact ⟨rfl, same⟩
  | tables pre => exact ⟨by simp [HostCall.perform, UnorderedHost.perform, same.tablesUnder], same⟩
  | install => exact ⟨rfl, same.install⟩
  | dropTable table => exact ⟨rfl, same.dropTable table⟩
  | storedActivePlugins =>
    have stored : h.storedActivePlugins = (u.active u.tablePrefix).getD [] := by
      rw [Host.storedActivePlugins, same.tablePrefix, same.active]
    exact ⟨congrArg HostAnswer.texts stored, same⟩
  | storeActivePlugins plugins =>
    have listed := same.tables (u.tablePrefix ++ "options")
    by_cases present : u.tablePrefix ++ "options" ∈ u.tables
    · simp only [HostCall.perform, HostCall.change, Host.storeActivePlugins, UnorderedHost.perform, same.tablePrefix,
        List.contains_iff_mem, listed, present, if_true]
      exact ⟨trivial, same.tablePrefix ▸ same.storeActivePlugins plugins⟩
    · simp only [HostCall.perform, HostCall.change, Host.storeActivePlugins, UnorderedHost.perform, same.tablePrefix,
        List.contains_iff_mem, listed, present, if_false]
      exact ⟨trivial, same⟩
  | activePlugins => exact ⟨congrArg HostAnswer.texts same.activePlugins, same⟩
  | template => exact ⟨by simp [HostCall.perform, UnorderedHost.perform, Host.template, same.filters, same.theme], same⟩
  | stylesheet =>
    exact ⟨by simp [HostCall.perform, UnorderedHost.perform, Host.stylesheet, same.filters, same.theme], same⟩
  | registerThemeDirectory directory =>
    exact ⟨by simp [HostCall.perform, UnorderedHost.perform, same.hasThemeDirectory],
      same.registerThemeDirectory directory⟩
  | deregisterThemeDirectory directory => exact ⟨rfl, same.deregisterThemeDirectory directory⟩
  | addFilter hook change =>
    simp only [HostCall.perform, UnorderedHost.perform, Filters.add, same.filters]
    exact ⟨trivial, { same with filters := rfl }⟩
  | removeFilter id =>
    simp only [HostCall.perform, UnorderedHost.perform, same.filters]
    exact ⟨trivial, { same with filters := rfl }⟩
  | applyFilters hook value => exact ⟨by simp [HostCall.perform, UnorderedHost.perform, same.filters], same⟩
  | filterText hook text => exact ⟨by simp [HostCall.perform, UnorderedHost.perform, same.filters], same⟩
  | filterList hook items => exact ⟨by simp [HostCall.perform, UnorderedHost.perform, same.filters], same⟩
  | countFilters hook => exact ⟨by simp [HostCall.perform, UnorderedHost.perform, same.filters], same⟩
  | insertPost post => exact ⟨congrArg (HostAnswer.ofOutcome .number) (same.insertPost post).1, (same.insertPost post).2⟩
  | deletePost id =>
    rcases same.deletePost id with ⟨changed, after, deleted, deletedToo, matching⟩ | ⟨e, refused, refusedToo⟩
    · simp [HostCall.perform, HostCall.change, UnorderedHost.perform, deleted, deletedToo, matching]
    · simp [HostCall.perform, HostCall.change, UnorderedHost.perform, refused, refusedToo, same]
  | findPost postType =>
    simp only [HostCall.perform, UnorderedHost.perform, same.findPost]
    cases h.findPost postType <;> exact ⟨rfl, same⟩
  | permalink id =>
    have there := same.contains id
    by_cases present : u.hasPost id
    · simp only [HostCall.perform, UnorderedHost.perform, Host.permalink, there, present, decide_true, if_true,
        same.homeAddress]
      exact ⟨rfl, same⟩
    · simp only [HostCall.perform, UnorderedHost.perform, Host.permalink, there, present, decide_false]
      exact ⟨rfl, same⟩
  | publicPostTypes =>
    have simulated := answers.resolve_right id
    exact ⟨by simp [HostCall.perform, UnorderedHost.perform, Host.publicPostTypes, simulated], same⟩
  | dispatch address =>
    have simulated := answers.resolve_right id
    exact ⟨congrArg (HostAnswer.ofOutcome .assets) (same.dispatch simulated address).1,
      (same.dispatch simulated address).2⟩
  | acceptsNonce nonce action =>
    have simulated := answers.resolve_right id
    exact ⟨by simp [HostCall.perform, UnorderedHost.perform, Host.acceptsNonce, simulated], same⟩

/-- A simulation stays one whatever is done with the site. -/
theorem simulated_perform {simulation : Simulation} (simulated : h.runtime = .simulated simulation) (call : HostCall) :
    ∃ after, (call.perform h).2.runtime = .simulated after := by
  have change (answer : HostAnswer) {outcome : Except Error Host}
      (kept : ∀ changed, outcome = .ok changed → changed.runtime = h.runtime) :
      ∃ after, (HostCall.change h answer outcome).2.runtime = .simulated after := by
    cases outcome with
    | ok changed => exact ⟨simulation, (kept changed rfl).trans simulated⟩
    | error e => exact ⟨simulation, simulated⟩
  cases call with
  | useTablePrefix pre =>
    refine change _ fun changed used => ?_
    simp only [Host.useTablePrefix] at used
    split at used <;> cases used
    rfl
  | storeActivePlugins plugins =>
    refine change _ fun changed stored => ?_
    simp only [Host.storeActivePlugins] at stored
    split at stored <;> cases stored
    rfl
  | deletePost id =>
    refine change _ fun changed deleted => ?_
    simp only [Host.deletePost] at deleted
    split at deleted
    · cases deleted
    · split at deleted <;> cases deleted
      rfl
  | insertPost post =>
    simp only [HostCall.perform, Host.insertPost, simulated]
    split <;> exact ⟨_, rfl⟩
  | dispatch address =>
    simp only [HostCall.perform, Host.dispatch, simulated]
    split
    · exact ⟨_, simulated⟩
    · exact ⟨_, rfl⟩
  | _ => exact ⟨simulation, simulated⟩

/-- A site that is kept in no order answers like one in order, an installation as far as it is
not asked for what stands behind it. -/
theorem performAll (same : h.Matches u) {calls : List HostCall}
    (answers : (∃ simulation, h.runtime = .simulated simulation) ∨ ∀ call ∈ calls, call.IsShared) :
    (HostCall.performAll h calls).1 = (u.performAll calls).1 := by
  induction calls generalizing h u with
  | nil => rfl
  | cons call rest inductionHypothesis =>
    have first : h.runtime = .simulated u.simulation ∨ call.IsShared := by
      rcases same.behind with simulated | ⟨⟨root, installed⟩, -⟩
      · exact .inl simulated
      · rcases answers with ⟨simulation, simulated⟩ | shared
        · rw [installed] at simulated
          cases simulated
        · exact .inr (shared call List.mem_cons_self)
    obtain ⟨answer, after⟩ := same.perform first
    have others := inductionHypothesis after <| answers.imp
      (fun ⟨_, simulated⟩ => simulated_perform simulated call) fun shared => List.forall_mem_of_forall_mem_cons shared
    simp only [HostCall.performAll, UnorderedHost.performAll, answer, others]

end Matches

end Host

end PluginAudit
