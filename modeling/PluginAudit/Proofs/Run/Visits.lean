import PluginAudit.Proofs.Checks.EnqueuedAssets
import PluginAudit.Proofs.Run.Requests
import PluginAudit.Proofs.Run.Sparing

/-!
# What checks of assets visit

Checks of assets share one request for demo posts, which is granted once the
testing prefix is in use and before any check starts.  So every one of them makes
the same tour, of demo posts and of nothing that was on the site before.
-/

namespace PluginAudit

open EnqueuedAssets (IsAssetCheck Tour demoPosts addresses)
open RunEvent (Happen Happens)

/-- A check that does not touch the site.  It may ask for demo posts as checks of
assets do, but not for anything else that would pass for them. -/
structure Check.Quiet (check : Check) : Prop where
  spares : check.Spares World.host
  requests : ∀ host, ∀ request ∈ check.sharedPreparations host,
    request = demoPosts host ∨ request.Spares World.host ∧ request.key ≠ (demoPosts host).key

/-- Checks of which some look at assets, while the others do not touch the site. -/
structure CheckCollection.LooksAtAssets (checks : CheckCollection) : Prop where
  some : ∃ entry ∈ checks.entries, IsAssetCheck entry.2
  others : ∀ entry ∈ checks.entries, IsAssetCheck entry.2 ∨ entry.2.Quiet

/-- The addresses that checks request when they are run in order: each check of assets
makes the whole tour, and no other check requests anything. -/
inductive Visits (visits : List String) : List (String × Check) → List String → Prop
  | none : Visits visits [] []
  | asset {slug check rest visited} : IsAssetCheck check → Visits visits rest visited →
      Visits visits ((slug, check) :: rest) (visits ++ visited)
  | other {slug check rest visited} : ¬ IsAssetCheck check → Visits visits rest visited →
      Visits visits ((slug, check) :: rest) visited

variable {γ : Type} {view : World → γ} {context : PluginContext} {world start after : World}

/-! ## Checks -/

/-- A check without a preparation of its own is just run. -/
theorem Attempt.events_of_plain {slug : String} {check : Check} {events : List RunEvent}
    {found : List Finding} {failure : Option Error}
    (attempt : Attempt slug check events found failure) (plain : check.preparation = none) :
    ∃ outcome, events = [.ran slug check outcome] := by
  cases attempt with
  | plain outcome _ => exact ⟨outcome, rfl⟩
  | unprepared e own => cases own.symm.trans plain
  | between cleanup outcome undone own => cases own.symm.trans plain

/-- A check that was run in an attempt without failure did not break. -/
theorem Attempt.failure_of_ran {slug slug' : String} {check check' : Check} {events : List RunEvent}
    {found : List Finding} {failure : Option Error} {outcome : CheckOutcome}
    (attempt : Attempt slug check events found failure) (success : failure = none)
    (ran : .ran slug' check' outcome ∈ events) : outcome.failure = none := by
  cases attempt with
  | plain outcome' _ =>
    simp only [List.mem_singleton, RunEvent.ran.injEq] at ran
    obtain ⟨-, -, rfl⟩ := ran
    simpa using success
  | unprepared e _ => simp at ran
  | between cleanup outcome' undone _ =>
    simp only [List.mem_cons, List.not_mem_nil, RunEvent.ran.injEq, reduceCtorEq, or_false, false_or] at ran
    obtain ⟨-, -, rfl⟩ := ran
    simpa using (Option.or_eq_none_iff.mp success).1

theorem Checking.failure_of_ran {entries : List (String × Check)} {events : List RunEvent}
    {found : List Finding} {failure : Option Error} {slug : String} {check : Check} {outcome : CheckOutcome}
    (checking : Checking entries events found failure) (success : failure = none)
    (ran : .ran slug check outcome ∈ events) : outcome.failure = none := by
  induction checking with
  | done => cases ran
  | next attempt _ inductionHypothesis =>
    rcases List.mem_append.mp ran with first | later
    · exact attempt.failure_of_ran rfl first
    · exact inductionHypothesis success later
  | broken _ => cases success

theorem EnqueuedAssets.IsAssetCheck.host_of_ran {slug : String} {check : Check}
    {outcome : CheckOutcome} {visits : List String} (isAsset : IsAssetCheck check)
    (tour : addresses world.host = .ok visits) (answers : world.host.answersRequests)
    (ran : Happens context world after (.ran slug check outcome)) (succeeded : outcome.failure = none) :
    after.host = world.host.requesting visits := by
  have ran : check.run context world = (outcome, after) := ran
  have requested := @IsAssetCheck.run _ isAsset context _ _ tour answers (by rw [ran]; exact succeeded)
  rw [ran] at requested
  exact congrArg World.host requested

/-- Checks that are run where there are addresses to visit request all of these, once
for each check of assets, and nothing else. -/
theorem Checking.exists_visits {entries : List (String × Check)} {events : List RunEvent}
    {found : List Finding} {visits : List String} (checking : Checking entries events found none)
    (happen : Happen context world events after)
    (others : ∀ entry ∈ entries, IsAssetCheck entry.2 ∨ entry.2.Quiet)
    (tour : addresses world.host = .ok visits) (answers : world.host.answersRequests) :
    ∃ visited, Visits visits entries visited ∧ after.host = world.host.requesting visited := by
  generalize success : (none : Option Error) = failure at checking
  induction checking generalizing world with
  | done =>
    cases happen
    exact ⟨[], .none, (Host.requesting_nil _).symm⟩
  | @next slug check rest events later found more failure attempt _ inductionHypothesis =>
    obtain ⟨middle, first, second⟩ := happen.append_inv
    have laterOthers := fun entry member => others entry (List.mem_cons_of_mem (slug, check) member)
    by_cases isAsset : IsAssetCheck check
    · -- a tour leaves the addresses as they are, so the other checks make the same one
      obtain ⟨outcome, rfl⟩ := attempt.events_of_plain isAsset.preparation
      rcases first with _ | ⟨ran, ⟨⟩⟩
      have toured : middle.host = world.host.requesting visits :=
        isAsset.host_of_ran tour answers ran (attempt.failure_of_ran rfl List.mem_cons_self)
      obtain ⟨visited, isVisited, requested⟩ := inductionHypothesis second laterOthers
        (by rw [toured, EnqueuedAssets.addresses_requesting, tour])
        (by rwa [toured, Host.answersRequests_requesting]) success
      exact ⟨_, .asset isAsset isVisited, by rw [requested, toured, Host.requesting_requesting]⟩
    · have quiet := (others _ List.mem_cons_self).resolve_left isAsset
      have kept : middle.host = world.host := (attempt.keptBy quiet.spares).kept first
      obtain ⟨visited, isVisited, requested⟩ := inductionHypothesis second laterOthers
        (by rw [kept, tour]) (by rwa [kept]) success
      exact ⟨visited, .other isAsset isVisited, by rw [requested, kept]⟩
  | broken _ => cases success

/-- What a check of assets finds on a site before it requests anything. -/
def World.sights (world : World) : Except Error (List String) × Bool × List (Nat × StoredPost) :=
  (addresses world.host, world.host.answersRequests, world.host.posts)

theorem World.unrequested_sights : Unrequested sights := by
  intro world visited
  simp only [sights, EnqueuedAssets.addresses_requesting, Host.answersRequests_requesting]
  rfl

/-- Whenever a check is run, a check of assets would find the same. -/
theorem Checking.kept_sights {entries : List (String × Check)} {events : List RunEvent}
    {found : List Finding} {failure : Option Error} (checking : Checking entries events found failure)
    (others : ∀ entry ∈ entries, IsAssetCheck entry.2 ∨ entry.2.Quiet) :
    KeptBy World.sights context events := by
  refine checking.keptBy fun entry member => ?_
  rcases others entry member with isAsset | quiet
  · exact isAsset.spares World.unrequested_sights
  · exact quiet.spares.coarsen fun same => by rw [World.sights, World.sights, same]

/-! ## Lifecycles -/

theorem CheckCollection.LooksAtAssets.hasRuntime {checks : CheckCollection}
    (looks : checks.LooksAtAssets) : checks.hasRuntime := by
  obtain ⟨entry, selected, isAsset⟩ := looks.some
  exact List.any_eq_true.mpr ⟨entry, selected, isAsset.isRuntime⟩

/-- The post types that visitors see have a part in the request for demo posts, and nothing
else of a site. -/
def World.postTypes (world : World) : List String := world.host.publicPostTypes

theorem EnqueuedAssets.demoPosts_congr {one other : World} (same : one.postTypes = other.postTypes) :
    demoPosts one.host = demoPosts other.host :=
  congrArg (fun types : List String => DemoPosts.shared (types.map Post.demo)) same

theorem DemoPosts.spares_postTypes (arguments : Text.Json) :
    Act.Spares World.postTypes (request arguments).prepare := by
  refine (DemoPosts.request_spares (fun world _ _ more => ?_) arguments).prepare.making
  simp only [World.postTypes, Host.publicPostTypes]
  cases world.host.runtime <;> rfl

/-- The demo posts are asked for, and what else is asked for spares the site. -/
theorem CheckCollection.LooksAtAssets.standsOut {checks : CheckCollection} (looks : checks.LooksAtAssets) :
    (demoPosts world.host).StandsOut World.host World.postTypes world checks.entries where
  coarse same := congrArg Host.publicPostTypes same
  granting := DemoPosts.spares_postTypes _
  others entry member site same other asked := by
    rw [← EnqueuedAssets.demoPosts_congr same]
    rcases looks.others entry member with isAsset | quiet
    · rw [isAsset.sharedPreparations] at asked
      exact .inl (List.mem_singleton.mp asked)
    · exact quiet.requests site.host other asked

theorem CheckCollection.LooksAtAssets.exists_asking {checks : CheckCollection} (looks : checks.LooksAtAssets) :
    ∃ entry ∈ checks.entries, ∀ site : World, site.postTypes = world.postTypes →
      demoPosts world.host ∈ entry.2.sharedPreparations site.host := by
  obtain ⟨entry, selected, isAsset⟩ := looks.some
  refine ⟨entry, selected, fun site same => ?_⟩
  rw [isAsset.sharedPreparations, EnqueuedAssets.demoPosts_congr same]
  exact List.mem_singleton.mpr rfl

/-- What becomes of demo posts between preparing a site and cleaning it up: they are
there when a check starts, each check of assets makes the same tour of them, and they
are gone in the end. -/
theorem Lifecycle.exists_visits {checks : CheckCollection} {events : List RunEvent}
    {found : List Finding}
    (lifecycle : Lifecycle checks.entries events found none)
    (happen : Happen context world events after) (looks : checks.LooksAtAssets)
    (older : ∀ entry ∈ world.host.posts, entry.1 < world.host.nextPost)
    (answers : world.host.answersRequests) :
    let posts := world.host.publicPostTypes.map Post.demo
    let created := world.host.numbered posts
    ∃ visits visited,
      Tour world.host.homeAddress world.host.tablePrefix created world.host.publicPostTypes visits ∧
      Visits visits checks.entries visited ∧
      after.host = { (world.host.storing posts).requesting visited with posts := world.host.posts } ∧
      ∀ before slug check outcome later start ended,
        events = before ++ .ran slug check outcome :: later →
        Happen context world before start →
        Happens context start ended (.ran slug check outcome) →
          start.host.posts = world.host.posts ++ created ∧
          (IsAssetCheck check → ended.host = start.host.requesting visits) := by
  intro posts created
  obtain ⟨shared, made, checked, undone, rfl, sharing, checking, undoing⟩ := lifecycle.checked_inv
  obtain ⟨checkedWorld, firstHappen, undoneHappen⟩ := happen.append_inv
  obtain ⟨sharedWorld, sharedHappen, checkedHappen⟩ := firstHappen.append_inv
  -- the demo posts are inserted on the site as it was prepared
  obtain ⟨cleanup, before, behind, asked, granted, rfl, cleanups, granting, askedHost, sharedHost⟩ :=
    sharing.around sharedHappen Bool.false_ne_true (List.forall_mem_nil _) looks.standsOut rfl
      (.inr looks.exists_asking)
  rw [demoPosts, DemoPosts.prepare_shared] at granting
  obtain ⟨rfl, deleting⟩ := DemoPosts.runIn_prepare_ok (by rwa [askedHost]) granting
  have furnished : sharedWorld.host = world.host.storing posts := by rw [sharedHost, askedHost]
  obtain ⟨visits, tour, addresses_eq⟩ := EnqueuedAssets.exists_tour world.host
  have found : addresses sharedWorld.host = .ok visits := by rw [furnished, addresses_eq]
  have answering : sharedWorld.host.answersRequests := by
    rwa [furnished, Host.answersRequests_storing]
  obtain ⟨visited, isVisited, visitedHost⟩ :=
    checking.exists_visits checkedHappen looks.others found answering
  refine ⟨visits, visited, tour, isVisited, ?_, ?_⟩
  · -- of the cleanups only the one that deletes the demo posts touches the site
    rw [List.reverse_append, List.reverse_cons, List.append_assoc, List.singleton_append] at undoing
    obtain ⟨full, deleted, ran, fullHost, afterHost⟩ := undoing.around undoneHappen fun entry member => by
      refine cleanups entry ?_
      simpa [or_comm] using member
    rw [afterHost, deleting full deleted (by rw [fullHost, visitedHost, sharedHost]; rfl) ran, fullHost,
      visitedHost, furnished, askedHost]
  · -- what a check of assets finds is kept from the last shared preparation on
    intro before slug check outcome later start ended split startHappen ran
    obtain ⟨front, rfl, isPrefix⟩ := exists_prefix_of_ran sharing undoing split
    obtain ⟨middle, middleHappen, startHappen⟩ := startHappen.append_inv
    obtain rfl := middleHappen.deterministic sharedHappen
    have kept := checking.kept_sights looks.others front isPrefix _ _ startHappen
    obtain ⟨sameAddresses, kept⟩ := Prod.mk.inj kept
    obtain ⟨sameAnswers, samePosts⟩ := Prod.mk.inj kept
    have happened : .ran slug check outcome ∈ shared ++ checked ++ undone := by simp [split]
    have succeeded : outcome.failure = none := by
      simp only [List.mem_append, sharing.not_ran, undoing.not_ran, false_or, or_false] at happened
      exact checking.failure_of_ran rfl happened
    refine ⟨by rw [samePosts, furnished]; rfl, fun isAsset => ?_⟩
    exact isAsset.host_of_ran (sameAddresses.trans found) (sameAnswers.trans answering) ran succeeded

/-! ## Executions -/

/-- What of a site has a part in visiting its pages, apart from the prefix in use. -/
structure Pages where
  homeAddress : String
  posts : List (Nat × StoredPost)
  nextPost : Nat
  runtime : Runtime

/-- What of a site has a part in visiting its pages, apart from the prefix in use. -/
def World.pages (world : World) : Pages :=
  ⟨world.host.homeAddress, world.host.posts, world.host.nextPost, world.host.runtime⟩

namespace Run

variable {r : Run}

/-- Preparing a site for runtime checks has no part in its pages. -/
theorem prepareSite_spares_pages (r : Run) (target : RunTarget) :
    Preparation.Spares World.pages (r.prepareSite target) :=
  prepareSite_spares (fun _ _ _ => rfl) (fun _ _ => rfl)
    (fun _ => RuntimeEnvironment.Unstored.spares (fun _ _ _ _ _ => rfl) _) target

/-- An execution that succeeds has prepared the site. -/
theorem prepare_of_execute {findings : Findings}
    (executed : (r.execute world).outcome = .ok findings) : (r.prepare world).outcome = .ok () := by
  unfold execute at executed
  split at executed
  · cases executed
  · rename_i ran
    rw [ran]

/-- A site that is prepared for runtime checks is under the testing prefix, and neither
preparing nor cleaning it up has a part in its pages. -/
theorem prepare_pages {target : RunTarget} {simulation : Simulation}
    (sparing : ∀ extension ∈ r.extensions, extension.Spares World.host)
    (simulated : world.host.runtime = .simulated simulation)
    (prepared : (r.prepare world).outcome = .ok ())
    (resolved : (r.resolve world).outcome = .ok target) (hasRuntime : target.selected.hasRuntime) :
    (r.prepare world).world.pages = world.pages ∧
      (r.prepare world).world.host.tablePrefix = r.settings.testingPrefix ∧
      Act.Spares World.pages ((r.prepare world).run.cleanup.getD .noop).run := by
  have sameHost : (r.resolve world).world.host = world.host := resolve_spares sparing world
  rcases ran : r.prepare world with ⟨outcome, ready, after⟩
  rw [ran] at prepared
  obtain rfl : outcome = .ok () := prepared
  obtain ⟨target', cleanup, resolved', made, rfl⟩ := exists_of_prepare_ok ran
  obtain rfl : target' = target := Except.ok.inj (resolved'.symm.trans resolved)
  have spares := r.prepareSite_spares_pages target'
  refine ⟨?_, ?_, spares.undoing made⟩
  · have kept := spares.making.of_runIn made
    rwa [World.pages, World.pages, sameHost] at kept
  · rw [prepareSite, if_pos hasRuntime] at made
    exact (prepareRuntime_surroundings (sameHost ▸ simulated) made).1

/-- The demo posts of all post types as an execution on a simulated site inserts them. -/
def demoEntries (r : Run) (host : Host) (simulation : Simulation) : List (Nat × StoredPost) :=
  ({ host with tablePrefix := r.settings.testingPrefix } : Host).numbered
    (simulation.postTypes.map Post.demo)

/-- An execution on a simulated site in which checks of assets visit demo posts: all of
them make the tour `visits`, and `visited` is what is requested in all. -/
structure VisitsDemoPosts (r : Run) (world : World) (simulation : Simulation) (target : RunTarget)
    (events : List RunEvent) (visits visited : List String) : Prop where
  executes : r.Executes world target events
  /-- The tour goes to the home page and to new posts under the testing prefix. -/
  tour : Tour world.host.homeAddress r.settings.testingPrefix (r.demoEntries world.host simulation)
    simulation.postTypes visits
  /-- No page of a post that was there before is on the tour. -/
  avoids : ∀ id address, world.host.permalink id = .ok address → address ∉ visits
  /-- Whenever a check starts, the demo posts are there, and a check of assets requests
  the pages of the tour in order. -/
  started : ∀ before slug check outcome later start ended,
    events = before ++ .ran slug check outcome :: later →
    Happen target.audit.context (r.prepare world).world before start →
    Happens target.audit.context start ended (.ran slug check outcome) →
      start.host.posts = world.host.posts ++ r.demoEntries world.host simulation ∧
      (IsAssetCheck check → ended.host = start.host.requesting visits)
  requests : Visits visits target.selected.entries visited
  posts : (r.execute world).world.host.posts = world.host.posts
  /-- The demo posts were inserted once, and nothing but the tours was requested. -/
  runtime : (r.execute world).world.host.runtime = .simulated { simulation with
    insertions := simulation.insertions + simulation.postTypes.length
    requested := simulation.requested ++ visited }

/-- The tour of the demo posts does not lead to older ones. -/
theorem permalink_not_mem {host : Host} {simulation : Simulation} {visits : List String}
    (older : ∀ entry ∈ host.posts, entry.1 < host.nextPost)
    (tour : Tour host.homeAddress r.settings.testingPrefix (r.demoEntries host simulation)
      simulation.postTypes visits)
    {id : Nat} {address : String} (page : host.permalink id = .ok address) : address ∉ visits := by
  obtain ⟨⟨stored, member⟩, rfl⟩ := EnqueuedAssets.permalink_eq_ok.mp page
  refine tour.pageOf_not_mem fun entry new => ?_
  have behind := Host.nextPost_le_of_mem_numbered
    (h := { host with tablePrefix := r.settings.testingPrefix }) new
  exact (older _ member).trans_le behind

theorem exists_visitsDemoPosts {simulation : Simulation} {findings : Findings}
    (admits : r.Admits CheckCollection.Distinct)
    (sparing : ∀ extension ∈ r.extensions, extension.Spares World.host)
    (simulated : world.host.runtime = .simulated simulation) (answers : simulation.answersRequests)
    (older : ∀ entry ∈ world.host.posts, entry.1 < world.host.nextPost)
    (looking : ∀ target, (r.resolve world).outcome = .ok target → target.selected.LooksAtAssets)
    (executed : (r.execute world).outcome = .ok findings) :
    ∃ target events visits visited,
      r.VisitsDemoPosts world simulation target events visits visited := by
  have prepared := prepare_of_execute executed
  obtain ⟨target, events, resolved, executes⟩ := exists_executes admits prepared
  have looks := looking target resolved
  obtain ⟨samePages, inUse, cleaning⟩ :=
    prepare_pages sparing simulated prepared resolved looks.hasRuntime
  obtain ⟨-, found, failure, checked, lifecycle, happen, executedWorld, given⟩ := id executes
  set ready := (r.prepare world).world
  obtain ⟨sameHome, samePosts, sameNext, sameRuntime⟩ := Pages.mk.inj samePages
  have postTypes : ready.host.publicPostTypes = simulation.postTypes := by
    simp [Host.publicPostTypes, sameRuntime, simulated]
  have new : ready.host.numbered (simulation.postTypes.map Post.demo) =
      r.demoEntries world.host simulation := by
    simp [Host.numbered, demoEntries, sameNext, inUse]
  obtain rfl : failure = none := by
    cases failure with
    | none => rfl
    | some e => cases given.symm.trans executed
  obtain ⟨visits, visited, tour, isVisited, checkedHost, started⟩ :=
    lifecycle.exists_visits happen looks (by rwa [samePosts, sameNext])
      (by simpa [Host.answersRequests, sameRuntime, simulated] using answers)
  rw [postTypes, new, sameHome, inUse] at tour
  rw [postTypes] at checkedHost
  have donePages : (r.execute world).world.pages = checked.pages := by
    rw [executedWorld]
    exact cleaning checked
  obtain ⟨-, donePosts, -, doneRuntime⟩ := Pages.mk.inj donePages
  refine ⟨target, events, visits, visited, {
    executes, tour
    avoids := fun id address page => permalink_not_mem older tour page
    started := ?_
    requests := isVisited
    posts := ?_
    runtime := ?_ }⟩
  · rwa [postTypes, new, samePosts] at started
  · rw [donePosts, checkedHost, ← samePosts]
  · rw [doneRuntime, checkedHost]
    simp [Host.requesting, Host.storing, sameRuntime, simulated, Runtime.counting, Runtime.requesting]

/-- After every history of calls, an execution with checks of assets that succeeds on a
simulated site has each of them visit the home page and its own demo posts, inserts
these once, and leaves the posts that were there before. -/
theorem execute_visits (repository : CheckRepository) (request : RunRequest)
    (settings : RunSettings) (extensions : List Extension) (world : World) (calls : List RunCall)
    (distinct : ((repository.staticChecks ++ repository.runtimeChecks).map Prod.fst).Nodup)
    (keeping : ∀ extension ∈ extensions, extension.Keeps CheckCollection.Distinct)
    (sparing : ∀ extension ∈ extensions, extension.Spares World.host) :
    let s := (RunCall.performAll
      ⟨Run.ofRequest repository request settings extensions, world⟩ calls).2
    ∀ simulation findings, s.world.host.runtime = .simulated simulation →
      simulation.answersRequests → s.world.host.Lawful →
      (∀ target, (s.run.resolve s.world).outcome = .ok target → target.selected.LooksAtAssets) →
      (s.run.execute s.world).outcome = .ok findings →
      s.run.settings = settings ∧ ∃ target events visits visited,
        s.run.VisitsDemoPosts s.world simulation target events visits visited := by
  intro s simulation findings simulated answers lawful looking executed
  have admits := admits_performAll CheckCollection.hereditary_distinct distinct keeping request
    settings world calls
  obtain ⟨sameSettings, sameExtensions⟩ := (invariant_inherited settings extensions).performAll
    (s := ⟨Run.ofRequest repository request settings extensions, world⟩) ⟨rfl, rfl⟩ calls
  have spares := fun extension member => sparing extension (sameExtensions ▸ member)
  exact ⟨sameSettings, exists_visitsDemoPosts admits spares simulated answers lawful.posts looking executed⟩

end Run

namespace Rehearsal

/-- A static check that does not touch the site, and two checks of assets. -/
def assetChecks : CheckRepository where
  staticChecks := [("files", { categories := [.general], run := fun _ => run "files" none false })]
  runtimeChecks :=
    [("scripts_size", EnqueuedAssets.sizeCheck .script 0),
      ("styles_size", EnqueuedAssets.sizeCheck .style 0)]

/-- A simulated site with a post of its own and a page under the testing prefix. -/
def postedSite : World where
  disk := .empty
  host := (HostCall.performAll (.simulated ⟨"site"⟩ { plugins := busyPlugins })
    [.insertPost (.demo "post"), .useTablePrefix "wppc_", .insertPost (.demo "page"),
      .useTablePrefix "wp_"]).2

theorem assetChecks_look :
    (CheckCollection.mk (assetChecks.staticChecks ++ assetChecks.runtimeChecks)).LooksAtAssets where
  some := ⟨_, List.mem_cons_of_mem _ List.mem_cons_self, .size .script 0⟩
  others := by
    intro entry member
    simp only [assetChecks, List.singleton_append, List.mem_cons, List.not_mem_nil, or_false] at member
    rcases member with rfl | rfl | rfl
    · refine .inr ⟨⟨fun _ _ => rfl, fun own => ?_⟩, fun _ => List.forall_mem_nil _⟩
      cases own
    · exact .inl (.size .script 0)
    · exact .inl (.size .style 0)

end Rehearsal

/-- Two checks of assets behind a static check, on a site with older pages under its own
prefix and under the testing prefix. -/
theorem Run.execute_visits_postedSite :
    let s := (RunCall.performAll
      ⟨Run.ofRequest Rehearsal.assetChecks Rehearsal.visitRequest, Rehearsal.postedSite⟩
      [.checksToRun]).2
    s.run.settings = {} ∧ ∃ target events visits visited,
      s.run.VisitsDemoPosts s.world { plugins := Rehearsal.busyPlugins, insertions := 2 } target events
        visits visited := by
  intro s
  have succeeds : (s.run.execute s.world).outcome.isOk := by decide +kernel
  obtain ⟨findings, executed⟩ := Rehearsal.exists_of_isOk succeeds
  have lawful : s.world.host.Lawful := (Host.Lawful.simulated _ _).performAll _
  refine Run.execute_visits Rehearsal.assetChecks Rehearsal.visitRequest {} [] Rehearsal.postedSite
    [.checksToRun] (by decide) (by simp) (by simp) _ findings rfl rfl lawful ?_ executed
  intro target resolved
  cases resolved
  exact Rehearsal.assetChecks_look

end PluginAudit
