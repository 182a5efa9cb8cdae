import PluginAudit.Proofs.Run.Alike
import PluginAudit.Proofs.Run.Lifecycle

/-!
# Runs of modest checks

Checks that read files ask for nothing, and checks that visit pages all ask for the demo posts,
which the first of them has inserted.  So a run of such checks comes to the same on sites that are
alike, and one that reads files only comes to the same wherever the files of its plugin are the
same.
-/

namespace PluginAudit

open EnqueuedAssets (demoPosts)

variable {one other : World}

/-! ## Shared preparations -/

namespace Shared

variable {entries : List (String × Check)} {shared : Shared} {world : World}

/-- Checks that read files ask for nothing, and others for what was made already. -/
theorem serve_seen (modest : ∀ entry ∈ entries, entry.2.Modest)
    (seen : shared.seen.contains (demoPosts world.host).key ∨ ∀ entry ∈ entries, entry.2.ReadsFiles) :
    (shared.serve entries).runIn world = (.ok shared, world) := by
  induction entries with
  | nil => rfl
  | cons entry rest inductionHypothesis =>
    have others := inductionHypothesis (fun later member => modest later (List.mem_cons_of_mem entry member))
      (seen.imp_right fun reads later member => reads later (List.mem_cons_of_mem entry member))
    have granted : (shared.grant (entry.2.sharedPreparations world.host)).runIn world = (.ok shared, world) := by
      by_cases reads : entry.2.ReadsFiles
      · rw [reads.unasking]
        rfl
      · have visits := (modest entry List.mem_cons_self).resolve_left reads
        have old := seen.resolve_right fun all => reads (all entry List.mem_cons_self)
        rw [visits.asking, grant, if_pos old]
        rfl
    rw [serve, Act.runIn_eq]
    simp only [granted]
    exact others

/-- The first check that visits pages has the demo posts inserted for all. -/
theorem serve_pages (modest : ∀ entry ∈ entries, entry.2.Modest)
    (visits : ∃ entry ∈ entries, entry.2.VisitsPages) :
    (serve {} entries).runIn world =
      match (DemoPosts.prepare (world.host.publicPostTypes.map Post.demo)).runIn world with
      | (.ok cleanup, after) => (.ok ⟨[(demoPosts world.host).key], [cleanup]⟩, after)
      | (.error e, after) => (.error e, after) := by
  induction entries with
  | nil =>
    obtain ⟨entry, member, -⟩ := visits
    cases member
  | cons entry rest inductionHypothesis =>
    have restModest := fun later member => modest later (List.mem_cons_of_mem entry member)
    rw [serve, Act.runIn_eq]
    rcases modest entry List.mem_cons_self with reads | visiting
    · obtain ⟨other, member, visiting⟩ := visits
      have later : other ∈ rest := by
        refine (List.mem_cons.mp member).resolve_left ?_
        rintro rfl
        cases (reads.unasking world.host).symm.trans (visiting.asking world.host)
      rw [reads.unasking, grant, Act.runIn_pure]
      exact inductionHypothesis restModest ⟨other, later, visiting⟩
    · have types := DemoPosts.spares_postTypes (demoPosts world.host).arguments world
      have prepared : (demoPosts world.host).prepare =
          DemoPosts.prepare (world.host.publicPostTypes.map Post.demo) := DemoPosts.prepare_shared _
      have asked : (DemoPosts.request (demoPosts world.host).arguments).prepare = (demoPosts world.host).prepare := rfl
      rw [asked, prepared] at types
      rw [visiting.asking, grant, if_neg (by simp), Act.runIn_eq, prepared]
      revert types
      generalize (DemoPosts.prepare (world.host.publicPostTypes.map Post.demo)).runIn world = made
      rcases made with ⟨e | cleanup, after⟩
      · exact fun _ => rfl
      · intro types
        have same : demoPosts after.host = demoPosts world.host := EnqueuedAssets.demoPosts_congr types
        exact serve_seen restModest (.inl (by simp [same]))

theorem prepareAll_files {checks : CheckCollection} (reads : ∀ entry ∈ checks.entries, entry.2.ReadsFiles)
    (world : World) : (prepareAll checks).runIn world = (.ok (combined []), world) := by
  unfold prepareAll
  rw [Act.runIn_bind, serve_seen (fun entry member => .inl (reads entry member)) (.inr reads)]
  rfl

theorem prepareAll_pages {checks : CheckCollection} (modest : ∀ entry ∈ checks.entries, entry.2.Modest)
    (visits : ∃ entry ∈ checks.entries, entry.2.VisitsPages) (world : World) :
    (prepareAll checks).runIn world =
      match (DemoPosts.prepare (world.host.publicPostTypes.map Post.demo)).runIn world with
      | (.ok cleanup, after) => (.ok (combined [cleanup]), after)
      | (.error e, after) => (.error e, after) := by
  unfold prepareAll
  rw [Act.runIn_bind, serve_pages modest visits]
  rcases (DemoPosts.prepare (world.host.publicPostTypes.map Post.demo)).runIn world with ⟨_ | _, _⟩ <;> rfl

theorem runIn_combined_single (c : Cleanup) (world : World) :
    (combined [c]).run.runIn world = c.run.runIn world := by
  show (Cleanup.runAll [c]).runIn world = c.run.runIn world
  rw [Cleanup.runIn_runAll_cons]
  rcases c.run.runIn world with ⟨_ | _, _⟩ <;> rfl

end Shared

namespace Run

variable {r : Run} {target : RunTarget} {world : World}

/-- Checks that read files are run without any shared preparation. -/
theorem runIn_runShared_files (reads : ∀ entry ∈ target.selected.entries, entry.2.ReadsFiles) (world : World) :
    (runShared target).runIn world = (runChecks target).runIn world := by
  unfold runShared
  rw [Act.runIn_eq, Shared.prepareAll_files reads]
  dsimp only
  rw [Cleanup.runIn_guarded]
  rcases (runChecks target).runIn world with ⟨_ | _, _⟩ <;> rfl

/-- Where some checks visit pages, all are run with demo posts on the site. -/
theorem runIn_runShared_pages (modest : ∀ entry ∈ target.selected.entries, entry.2.Modest)
    (visits : ∃ entry ∈ target.selected.entries, entry.2.VisitsPages) (world : World) :
    (runShared target).runIn world =
      match (DemoPosts.prepare (world.host.publicPostTypes.map Post.demo)).runIn world with
      | (.ok cleanup, after) => (cleanup.guarded (runChecks target)).runIn after
      | (.error e, after) => (.error e, after) := by
  unfold runShared
  rw [Act.runIn_eq, Shared.prepareAll_pages modest visits]
  rcases (DemoPosts.prepare (world.host.publicPostTypes.map Post.demo)).runIn world with ⟨e | cleanup, after⟩
  · rfl
  · dsimp only
    rw [Cleanup.runIn_guarded, Cleanup.runIn_guarded, Shared.runIn_combined_single]

/-! ## What checks come to -/

theorem forall_selected {property : Check → Prop} (known : target.Known (CheckCollection.All property)) :
    ∀ entry ∈ target.selected.entries, property entry.2 := by
  obtain ⟨all, -, holds, among⟩ := known.available
  exact fun entry member => holds entry (among.subset member)

theorem runChecks_quiet (modest : target.Known (CheckCollection.All Check.Modest)) :
    Act.Spares World.quiet (runChecks target) := by
  obtain ⟨all, available, holds, among⟩ := modest.available
  exact runChecks_spares ⟨all, available, fun entry member => (holds entry member).spares, among⟩

/-- Checks come to the same in two worlds if each of them does, whatever records were left. -/
theorem outcome_runChecks_congr (distinct : target.Known CheckCollection.Distinct)
    (modest : target.Known (CheckCollection.All Check.Modest))
    (outcome : ∀ entry ∈ target.selected.entries, ∀ {here there : World}, here.quiet = one.quiet →
      there.quiet = other.quiet →
        (entry.2.run target.audit.context here).1 = (entry.2.run target.audit.context there).1) :
    ((runChecks target).runIn one).1 = ((runChecks target).runIn other).1 := by
  have selected := forall_selected modest
  have same := @Audit.runEntries_congr one other target.selected.entries (.none target.audit.context)
    (fun entry member => (selected entry member).unprepared) (fun entry member => (selected entry member).spares) outcome
  simp only [runIn_runChecks_known distinct, same]

/-- Checks that read files come to the same where the files of the plugin are the same. -/
theorem outcome_runChecks_files (distinct : target.Known CheckCollection.Distinct)
    (modest : target.Known (CheckCollection.All Check.Modest))
    (reads : ∀ entry ∈ target.selected.entries, entry.2.ReadsFiles)
    (files : target.audit.context.SameFiles one.disk other.disk) (path : other.searchPath = one.searchPath) :
    ((runChecks target).runIn other).1 = ((runChecks target).runIn one).1 := by
  refine outcome_runChecks_congr distinct modest fun entry member {here there} same same' => ?_
  obtain ⟨disk, searched⟩ := World.files_of_quiet same
  obtain ⟨disk', searched'⟩ := World.files_of_quiet same'
  exact (reads entry member).outcome (by rwa [disk, disk']) (by rw [searched, searched', path])

/-- Modest checks come to the same where everything looks the same. -/
theorem outcome_runChecks_outlook (distinct : target.Known CheckCollection.Distinct)
    (modest : target.Known (CheckCollection.All Check.Modest)) (outlook : one.outlook = other.outlook) :
    ((runChecks target).runIn one).1 = ((runChecks target).runIn other).1 := by
  refine outcome_runChecks_congr distinct modest fun entry member {here there} same same' => ?_
  have looks : here.outlook = there.outlook := by
    rw [← here.outlook_quiet, same, one.outlook_quiet, outlook, ← other.outlook_quiet, ← same', there.outlook_quiet]
  rcases forall_selected modest entry member with reads | visits
  · have disk : here.disk = there.disk := congrArg World.Outlook.disk looks
    exact reads.outcome (.inl disk) (congrArg World.Outlook.searchPath looks)
  · exact visits.outcome target.audit.context looks

/-! ## What runs come to -/

/-- Deleting demo posts comes to the same after checks that have left the posts as they were. -/
theorem outcome_deleteAll_quiet (alike : World.Alike one other) (posts : List Post) {here there : World}
    (same : here.quiet = World.quiet { one with host := one.host.storing posts })
    (same' : there.quiet = World.quiet { other with host := other.host.storing posts }) :
    ((DemoPosts.deleteAll ((one.host.numbered posts).map Prod.fst)).runIn here).1 =
      ((DemoPosts.deleteAll ((one.host.numbered posts).map Prod.fst)).runIn there).1 := by
  have alikeThere : World.Alike here there := (alike.storing posts).quiet same same'
  have stored : here.host.posts = (one.host.storing posts).posts := congrArg (fun world => world.host.posts) same
  have stored' : there.host.posts = (other.host.storing posts).posts := congrArg (fun world => world.host.posts) same'
  have created : one.host.numbered posts = other.host.numbered posts := by
    simp only [Host.numbered, alike.nextPost, alike.congr Host.tablePrefix fun _ => rfl]
  refine DemoPosts.outcome_deleteAll (DemoPosts.nodup_numbered _ _) alikeThere.refusesDeletions fun id member => ?_
  rw [stored, stored', DemoPosts.contains_storing _ _ id member, DemoPosts.contains_storing _ _ id (created ▸ member)]

theorem outcome_runShared_alike (alike : World.Alike one other) (distinct : target.Known CheckCollection.Distinct)
    (modest : target.Known (CheckCollection.All Check.Modest)) :
    ((runShared target).runIn one).1 = ((runShared target).runIn other).1 := by
  have selected := forall_selected modest
  by_cases visits : ∃ entry ∈ target.selected.entries, entry.2.VisitsPages
  · have answered := DemoPosts.outcome_prepare alike (one.host.publicPostTypes.map Post.demo)
    have outlook := alike.outlook_storing
    rw [runIn_runShared_pages selected visits, runIn_runShared_pages selected visits, ← alike.publicPostTypes]
    rcases made : (DemoPosts.prepare (one.host.publicPostTypes.map Post.demo)).runIn one with ⟨outcome, after⟩
    rcases made' : (DemoPosts.prepare (one.host.publicPostTypes.map Post.demo)).runIn other with ⟨outcome', after'⟩
    rw [made, made'] at answered
    obtain rfl : outcome = outcome' := answered
    cases outcome with
    | error e => rfl
    | ok cleanup =>
      obtain ⟨rfl, rfl⟩ := DemoPosts.runIn_prepare_inv alike.older made
      obtain ⟨-, rfl⟩ := DemoPosts.runIn_prepare_inv alike.older' made'
      have checked := outcome_runChecks_outlook distinct modest outlook
      have undone := outcome_deleteAll_quiet alike (one.host.publicPostTypes.map Post.demo)
        (runChecks_quiet modest _) (runChecks_quiet modest _)
      dsimp only
      rw [Cleanup.runIn_guarded, Cleanup.runIn_guarded, checked, Cleanup.run_of, undone]
  · have reads : ∀ entry ∈ target.selected.entries, entry.2.ReadsFiles := fun entry member =>
      (selected entry member).resolve_right fun visiting => visits ⟨entry, member, visiting⟩
    rw [runIn_runShared_files reads, runIn_runShared_files reads]
    exact (outcome_runChecks_files distinct modest reads (.inl alike.disk.symm) alike.searchPath.symm).symm

/-- On sites that are alike, carrying out a run of modest checks comes to the same. -/
theorem outcome_carryOut_alike (alike : World.Alike one other) (unmanaged : r.request.managesEnvironment = false)
    (inUse : Host.isTablePrefix one.host.tablePrefix) (distinct : target.Known CheckCollection.Distinct)
    (modest : target.Known (CheckCollection.All Check.Modest)) :
    ((r.carryOut target).runIn one).1 = ((r.carryOut target).runIn other).1 := by
  have prepared := prepareSite_madeAlike alike unmanaged inUse target
  rw [runIn_carryOut, runIn_carryOut]
  revert prepared
  generalize (r.prepareSite target).runIn one = made
  generalize (r.prepareSite target).runIn other = made'
  rintro (⟨e, here, there⟩ | @⟨c, c', here, there, alikeThere, undone, undone'⟩)
  · rfl
  · have shared := outcome_runShared_alike alikeThere distinct modest
    dsimp only
    simp only [Cleanup.runIn_guarded, shared, undone _, undone' _]

/-- Where a run selects no runtime checks, all of them read files, and carrying it out is running them. -/
theorem runIn_carryOut_files (modest : target.Known (CheckCollection.All Check.Modest))
    (static : target.selected.hasRuntime = false) (world : World) :
    (∀ entry ∈ target.selected.entries, entry.2.ReadsFiles) ∧
      (r.carryOut target).runIn world = (runChecks target).runIn world := by
  have reads : ∀ entry ∈ target.selected.entries, entry.2.ReadsFiles := by
    intro entry member
    refine (forall_selected modest entry member).resolve_right fun visits => ?_
    have isStatic := List.any_eq_false.mp static entry member
    exact isStatic visits.isRuntime
  have prepared : (r.prepareSite target).runIn world = (.ok .noop, world) := by
    rw [prepareSite, if_neg (by simp [static]), Act.runIn_pure]
  rw [runIn_carryOut, prepared]
  refine ⟨reads, ?_⟩
  dsimp only
  rw [Cleanup.runIn_guarded, runIn_runShared_files reads]
  rcases (runChecks target).runIn world with ⟨_ | _, _⟩ <;> rfl

/-- A run that selects no runtime checks leaves nothing behind but records. -/
theorem quiet_carryOut (modest : target.Known (CheckCollection.All Check.Modest))
    (static : target.selected.hasRuntime = false) (world : World) :
    ((r.carryOut target).runIn world).2.quiet = world.quiet := by
  rw [(runIn_carryOut_files modest static world).2]
  exact runChecks_quiet modest world

end Run

/-! ## The age of posts -/

/-- All posts are older than the next one, which does not come before a number. -/
structure World.Aged (number : Nat) (world : World) : Prop where
  older : ∀ entry ∈ world.host.posts, entry.1 < world.host.nextPost
  later : number ≤ world.host.nextPost

/-- The posts of a site and the number of the next one. -/
def World.numbers (world : World) : List (Nat × StoredPost) × Nat := (world.host.posts, world.host.nextPost)

theorem World.numbers_of_quiet {here there : World} (same : here.quiet = there.quiet) :
    here.numbers = there.numbers := by
  have numbers := congrArg World.numbers same
  exact numbers

section Aging

variable {number : Nat} {world after : World} {r : Run} {target : RunTarget}

theorem World.Aged.spared (aged : world.Aged number) (same : after.numbers = world.numbers) : after.Aged number := by
  obtain ⟨posts, nextPost⟩ := Prod.mk.inj same
  exact ⟨by rw [posts, nextPost]; exact aged.older, nextPost ▸ aged.later⟩

namespace DemoPosts

theorem aged_deleteAll (aged : world.Aged number) (ids : List Nat) : ((deleteAll ids).runIn world).2.Aged number := by
  induction ids generalizing world with
  | nil => exact aged
  | cons id rest inductionHypothesis =>
    rw [runIn_deleteAll_cons]
    split
    · rename_i deleted
      unfold Host.deletePost at deleted
      split at deleted
      · cases deleted
      · split at deleted <;> cases deleted
        exact inductionHypothesis
          ⟨fun entry member => aged.older entry ((Assoc.erase_sublist id _).subset member), aged.later⟩
    · exact inductionHypothesis aged

theorem aged_insertAll (aged : world.Aged number) (inserted : List Nat) (posts : List Post) :
    ((insertAll inserted posts).runIn world).2.Aged number := by
  induction posts generalizing inserted world with
  | nil => exact aged
  | cons post rest inductionHypothesis =>
    rw [runIn_insertAll_cons]
    dsimp only
    split
    · rename_i answered
      rw [(Host.insertPost_eq_ok aged.older answered).2]
      exact inductionHypothesis ⟨Host.older_storing aged.older, Nat.le_add_right_of_le aged.later⟩ _
    · -- a refused insertion is counted, and no post gets a number
      rename_i refused
      rw [Host.insertPost_eq_error refused]
      have counted : World.Aged number { world with host := { world.host with runtime := world.host.runtime.counting 1 } } :=
        ⟨aged.older, aged.later⟩
      exact aged_deleteAll counted inserted

theorem aged_prepare (aged : world.Aged number) (posts : List Post) : ((prepare posts).runIn world).2.Aged number := by
  have inserted := aged_insertAll aged [] posts
  unfold prepare
  rw [Act.runIn_bind]
  revert inserted
  generalize (insertAll [] posts).runIn world = ran
  rcases ran with ⟨_ | _, _⟩ <;> exact id

end DemoPosts

namespace Run

theorem aged_runShared (modest : target.Known (CheckCollection.All Check.Modest)) (aged : world.Aged number) :
    ((runShared target).runIn world).2.Aged number := by
  have selected := forall_selected modest
  have checked {world : World} (aged : world.Aged number) : ((runChecks target).runIn world).2.Aged number :=
    aged.spared (World.numbers_of_quiet (runChecks_quiet modest world))
  by_cases visits : ∃ entry ∈ target.selected.entries, entry.2.VisitsPages
  · have stored := DemoPosts.aged_prepare aged (world.host.publicPostTypes.map Post.demo)
    rw [runIn_runShared_pages selected visits]
    rcases made : (DemoPosts.prepare (world.host.publicPostTypes.map Post.demo)).runIn world with ⟨e | cleanup, after⟩ <;>
      rw [made] at stored
    · exact stored
    · obtain ⟨rfl, -⟩ := DemoPosts.runIn_prepare_inv aged.older made
      dsimp only
      rw [Cleanup.runIn_guarded]
      exact DemoPosts.aged_deleteAll (checked stored) _
  · have reads : ∀ entry ∈ target.selected.entries, entry.2.ReadsFiles := fun entry member =>
      (selected entry member).resolve_right fun visiting => visits ⟨entry, member, visiting⟩
    rw [runIn_runShared_files reads]
    exact checked aged

/-- However a run of modest checks comes out, posts stay older than the next one. -/
theorem aged_carryOut (modest : target.Known (CheckCollection.All Check.Modest))
    (unmanaged : r.request.managesEnvironment = false) (aged : world.Aged number) :
    ((r.carryOut target).runIn world).2.Aged number := by
  have sparing : Preparation.Spares World.numbers (r.prepareSite target) :=
    prepareSite_spares (fun _ _ _ => rfl) (fun _ _ => rfl) (by simp [unmanaged]) target
  have prepared := aged.spared (sparing.making world)
  rw [runIn_carryOut]
  rcases made : (r.prepareSite target).runIn world with ⟨e | cleanup, after⟩ <;> rw [made] at prepared
  · exact prepared
  · dsimp only
    rw [Cleanup.runIn_guarded]
    exact (aged_runShared modest prepared).spared (sparing.undoing made _)

end Run

end Aging

end PluginAudit
