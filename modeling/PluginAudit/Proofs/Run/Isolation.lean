import PluginAudit.Proofs.Host.Filters
import PluginAudit.Proofs.Preparation.Reversal
import PluginAudit.Proofs.Preparation.Sparing
import PluginAudit.Proofs.Rehearsal
import PluginAudit.Proofs.Run.Lifecycle

/-!
# What a check finds around it

When a check starts, the site is as it was prepared: under the testing prefix,
with the minimal theme and the plugin under test as the only active one, if a
runtime check is selected, and as before the execution otherwise.
-/

namespace PluginAudit

/-- What checks find on a site apart from its data. -/
structure Surroundings where
  tablePrefix : String
  filters : Filters
  themeDirectories : List Path

/-- What checks find on a site apart from its data. -/
def World.surroundings (world : World) : Surroundings :=
  ⟨world.host.tablePrefix, world.host.filters, world.host.themeDirectories⟩

/-- A check that leaves its surroundings alone.  Demo posts may be requested. -/
structure Check.LeavesSurroundings (check : Check) : Prop where
  spares : check.Spares World.surroundings
  requests : ∀ host, ∀ request ∈ check.sharedPreparations host,
    (∃ arguments, request = DemoPosts.request arguments) ∨
      Act.Spares World.surroundings request.prepare

variable {γ : Type} {view : World → γ} {context : PluginContext} {world start after : World}

theorem Check.LeavesSurroundings.prepare_spares {check : Check} (leaves : check.LeavesSurroundings)
    {host : Host} {request : SharedPreparation}
    (requested : request ∈ check.sharedPreparations host) :
    Act.Spares World.surroundings request.prepare := by
  rcases leaves.requests host request requested with ⟨arguments, rfl⟩ | spares
  · exact (DemoPosts.request_spares (fun _ _ _ _ => rfl) arguments).prepare.making
  · exact spares

/-! ## Events before a check starts -/

open RunEvent (Happen Happens)

/-- However far some events have come, what they led to looks the same. -/
def KeptBy (view : World → γ) (context : PluginContext) (events : List RunEvent) : Prop :=
  ∀ front, front <+: events → ∀ world after, Happen context world front after →
    view after = view world

namespace KeptBy

theorem nil : KeptBy view context [] := by
  intro front isPrefix world after happen
  rw [List.prefix_nil.mp isPrefix] at happen
  cases happen
  rfl

theorem cons {event : RunEvent} {events : List RunEvent}
    (first : ∀ world after, Happens context world after event → view after = view world)
    (rest : ∀ world after, Happens context world after event → KeptBy view context events) :
    KeptBy view context (event :: events) := by
  intro front isPrefix world after happen
  rcases List.prefix_cons_iff.mp isPrefix with rfl | ⟨others, rfl, othersPrefix⟩
  · cases happen
    rfl
  · cases happen with
    | cons happens later =>
      exact (rest _ _ happens others othersPrefix _ _ later).trans (first _ _ happens)

theorem append {events later : List RunEvent} (first : KeptBy view context events)
    (second : KeptBy view context later) : KeptBy view context (events ++ later) := by
  intro front isPrefix world after happen
  rcases List.prefix_or_prefix_of_prefix isPrefix (List.prefix_append events later) with
    inside | ⟨others, rfl⟩
  · exact first front inside world after happen
  · obtain ⟨middle, before, behind⟩ := happen.append_inv
    have othersPrefix := (List.prefix_append_right_inj events).mp isPrefix
    exact (second others othersPrefix _ _ behind).trans (first events (List.prefix_refl _) _ _ before)

/-- Once all of the events have happened, the view is the same, too. -/
theorem kept {events : List RunEvent} (keptBy : KeptBy view context events)
    (happen : Happen context world events after) : view after = view world :=
  keptBy events (List.prefix_refl events) world after happen

end KeptBy

theorem Sharing.keptBy {seen requests : List SharedPreparation} {entries : List (String × Check)}
    {events : List RunEvent} {made : List (SharedPreparation × Cleanup)} {failure : Option Error}
    (sharing : Sharing seen requests entries events made failure)
    (spares : ∀ request ∈ requests, Act.Spares view request.prepare)
    (later : ∀ entry ∈ entries, ∀ host, ∀ request ∈ entry.2.sharedPreparations host,
      Act.Spares view request.prepare) : KeptBy view context events := by
  induction sharing with
  | done => exact .nil
  | @asked _ slug check _ _ _ _ _ _ inductionHypothesis =>
    have others := fun entry member => later entry (List.mem_cons_of_mem _ member)
    refine .cons (fun _ _ happens => by rw [happens.2]) fun asking _ happens => ?_
    exact inductionHypothesis
      (happens.1 ▸ later (slug, check) List.mem_cons_self asking.host) others
  | known _ _ inductionHypothesis =>
    exact inductionHypothesis (fun other member => spares other (List.mem_cons_of_mem _ member)) later
  | made cleanup _ _ inductionHypothesis =>
    have others := inductionHypothesis
      (fun other member => spares other (List.mem_cons_of_mem _ member)) later
    exact .cons (fun _ _ happens => (spares _ List.mem_cons_self).of_runIn happens)
      fun _ _ _ => others
  | failed e _ =>
    exact .cons (fun _ _ happens => (spares _ List.mem_cons_self).of_runIn happens)
      fun _ _ _ => .nil

theorem Attempt.keptBy {slug : String} {check : Check} {events : List RunEvent}
    {found : List Finding} {failure : Option Error}
    (attempt : Attempt slug check events found failure) (spares : check.Spares view) :
    KeptBy view context events := by
  have running (outcome : CheckOutcome) (world after : World)
      (happens : Happens context world after (.ran slug check outcome)) :
      view after = view world := by
    have kept := spares.running context world
    rwa [show check.run context world = (outcome, after) from happens] at kept
  cases attempt with
  | plain outcome _ => exact .cons (running outcome) fun _ _ _ => .nil
  | unprepared e own =>
    exact .cons (fun _ _ happens => (spares.own own).making.of_runIn happens) fun _ _ _ => .nil
  | between cleanup outcome undone own =>
    -- that undoing spares the view is known only once the preparation was made
    refine .cons (fun _ _ happens => (spares.own own).making.of_runIn happens) fun _ _ made => ?_
    refine .cons (running outcome) fun _ _ _ => ?_
    exact .cons (fun _ _ happens => ((spares.own own).undoing made).of_runIn happens)
      fun _ _ _ => .nil

theorem Checking.keptBy {entries : List (String × Check)} {events : List RunEvent}
    {found : List Finding} {failure : Option Error}
    (checking : Checking entries events found failure)
    (spares : ∀ entry ∈ entries, entry.2.Spares view) : KeptBy view context events := by
  induction checking with
  | done => exact .nil
  | next attempt _ inductionHypothesis =>
    have others := inductionHypothesis fun other member => spares other (List.mem_cons_of_mem _ member)
    exact .append (attempt.keptBy (spares _ List.mem_cons_self)) others
  | broken attempt => exact attempt.keptBy (spares _ List.mem_cons_self)

theorem Sharing.not_ran {seen requests : List SharedPreparation} {entries : List (String × Check)}
    {events : List RunEvent} {made : List (SharedPreparation × Cleanup)} {failure : Option Error}
    (sharing : Sharing seen requests entries events made failure) (slug : String) (check : Check)
    (outcome : CheckOutcome) : .ran slug check outcome ∉ events := by
  induction sharing <;> simp_all

theorem Undoing.not_ran {made : List (SharedPreparation × Cleanup)} {events : List RunEvent}
    {failure : Option Error} (undoing : Undoing made events failure) (slug : String) (check : Check)
    (outcome : CheckOutcome) : .ran slug check outcome ∉ events := by
  induction undoing <;> simp_all

/-- A check is run behind all shared preparations and before any of them is undone. -/
theorem exists_prefix_of_ran {seen requests : List SharedPreparation} {entries : List (String × Check)}
    {made undoing : List (SharedPreparation × Cleanup)}
    {shared checked undone before later : List RunEvent} {failure undoFailure : Option Error}
    {slug : String} {check : Check} {outcome : CheckOutcome}
    (sharing : Sharing seen requests entries shared made failure) (undoes : Undoing undoing undone undoFailure)
    (split : shared ++ checked ++ undone = before ++ .ran slug check outcome :: later) :
    ∃ front, before = shared ++ front ∧ front <+: checked := by
  rw [List.append_assoc] at split
  rcases List.append_eq_append_iff.mp split with ⟨front, rfl, rest⟩ | ⟨front, inShared, rest_eq⟩
  · rcases List.append_eq_append_iff.mp rest with ⟨more, -, inUndone⟩ | ⟨more, rfl, -⟩
    · exact absurd (by simp [inUndone]) (undoes.not_ran slug check outcome)
    · exact ⟨front, rfl, more, rfl⟩
  · cases front with
    | nil => exact ⟨[], by simpa using inShared.symm, List.nil_prefix⟩
    | cons first rest =>
      obtain ⟨rfl, -⟩ := List.cons.inj rest_eq
      exact absurd (by simp [inShared]) (sharing.not_ran slug check outcome)

/-- What the shared preparations and the checks spare is the same whenever a
check starts. -/
theorem Lifecycle.kept_when_started {entries : List (String × Check)}
    {events before later : List RunEvent} {found : List Finding}
    {failure : Option Error} {slug : String} {check : Check} {outcome : CheckOutcome}
    (lifecycle : Lifecycle entries events found failure)
    (sharedSpares : ∀ entry ∈ entries, ∀ host, ∀ request ∈ entry.2.sharedPreparations host,
      Act.Spares view request.prepare)
    (spares : ∀ entry ∈ entries, entry.2.Spares view)
    (split : events = before ++ .ran slug check outcome :: later)
    (happen : Happen context world before start) : view start = view world := by
  cases lifecycle with
  | @unshared shared _ undone _ _ sharing undoing =>
    have member : .ran slug check outcome ∈ shared ++ undone := by simp [split]
    rcases List.mem_append.mp member with inShared | inUndone
    · exact absurd inShared (sharing.not_ran slug check outcome)
    · exact absurd inUndone (undoing.not_ran slug check outcome)
  | @checked shared _ checked _ _ _ _ sharing checking undoing =>
    obtain ⟨front, rfl, isPrefix⟩ := exists_prefix_of_ran sharing undoing split
    have kept : KeptBy view context (shared ++ checked) :=
      (sharing.keptBy (List.forall_mem_nil _) sharedSpares).append (checking.keptBy spares)
    exact kept _ ((List.prefix_append_right_inj _).mpr isPrefix) world start happen

/-! ## The site when it is prepared -/

/-- What stands behind a site and its filters. -/
def World.equipment (world : World) : Filters × Runtime := (world.host.filters, world.host.runtime)

/-- The filters that are added for runtime checks behind those that are there. -/
def isolatingFilters (prior : Filters) (target : String) (plugins : List String) : Filters :=
  let useTheme : FilterValue → FilterValue := fun _ => .text MinimalTheme.standard
  (((prior.add .template useTheme).1.add .stylesheet useTheme).1.add .activePlugins
    (SinglePlugin.force target plugins)).1

theorem UniversalPreparation.filters_prepare {target : String} {tool : Option String}
    {directory : Option Path} {simulation : Simulation} {cleanup : Cleanup}
    (simulated : world.host.runtime = .simulated simulation)
    (made : (prepare target tool directory).runIn world = (.ok cleanup, after)) :
    after.host.filters = isolatingFilters world.host.filters target
      (SinglePlugin.forced simulation.plugins target tool) := by
  unfold prepare at made
  rw [Act.runIn_bind, MinimalTheme.runIn_prepare] at made
  dsimp only at made
  rw [Act.runIn_eq] at made
  set themed : World := { world with
    host := MinimalTheme.themed MinimalTheme.standard (MinimalTheme.missing directory world.host)
      world.host } with themed_eq
  have themedFilters : themed.host.filters =
      ((world.host.filters.add .template fun _ => .text MinimalTheme.standard).1.add .stylesheet
        fun _ => .text MinimalTheme.standard).1 := by
    rw [themed_eq]
    dsimp only [MinimalTheme.themed]
    rw [MinimalTheme.filters_registered]
  have themedPlugins : themed.host.installedPlugins themed.disk = .ok simulation.plugins := by
    have behind : themed.host.runtime = .simulated simulation := by
      rw [themed_eq, ← simulated]
      cases MinimalTheme.missing directory world.host <;> rfl
    simp [Host.installedPlugins, behind]
  rcases SinglePlugin.runIn_prepare target tool themed with
    ⟨installed, found, -, ran⟩ | ⟨e, ran⟩ <;> rw [ran] at made <;> cases made
  -- the plugins that are looked at are those of the simulation, the theme being in use already
  rw [themedPlugins] at found
  cases found
  dsimp only [SinglePlugin.forcing]
  rw [themedFilters]
  rfl

namespace Run

variable {r : Run}

theorem switchPrefix_surroundings {parts : List Cleanup} {cleanup : Cleanup}
    (made : (r.switchPrefix parts).runIn world = (.ok cleanup, after)) :
    after.host.tablePrefix = r.settings.testingPrefix ∧
      after.host.filters = world.host.filters := by
  unfold switchPrefix at made
  rw [Act.runIn_eq] at made
  simp only [Act.runIn_tryHost] at made
  by_cases wellFormed : Host.isTablePrefix r.settings.testingPrefix
  · rw [RuntimeEnvironment.useTablePrefix_of_isTablePrefix _ wellFormed] at made
    cases made
    exact ⟨rfl, rfl⟩
  · rw [RuntimeEnvironment.useTablePrefix_of_not_isTablePrefix _ wellFormed] at made
    cases made

theorem isolate_surroundings {basename : String} {simulation : Simulation} {parts : List Cleanup}
    {cleanup : Cleanup} (simulated : world.host.runtime = .simulated simulation)
    (made : (r.isolate basename parts).runIn world = (.ok cleanup, after)) :
    after.host.tablePrefix = r.settings.testingPrefix ∧
      after.host.filters = isolatingFilters world.host.filters basename
        (SinglePlugin.forced simulation.plugins basename r.settings.tool) := by
  unfold isolate at made
  rw [Act.runIn_eq] at made
  dsimp only at made
  split at made
  · cases made
  · rename_i universal
    obtain ⟨tablePrefix, filters⟩ := switchPrefix_surroundings made
    exact ⟨tablePrefix, filters.trans (UniversalPreparation.filters_prepare simulated universal)⟩

/-- What checks find once the site is prepared for a runtime check. -/
theorem prepareRuntime_surroundings {basename : String} {simulation : Simulation}
    {cleanup : Cleanup} (simulated : world.host.runtime = .simulated simulation)
    (made : (r.prepareRuntime basename).runIn world = (.ok cleanup, after)) :
    after.host.tablePrefix = r.settings.testingPrefix ∧
      after.host.filters = isolatingFilters world.host.filters basename
        (SinglePlugin.forced simulation.plugins basename r.settings.tool) := by
  unfold prepareRuntime at made
  rw [Act.runIn_eq] at made
  split at made
  · -- setting up touches neither the filters nor the simulation, so isolating starts from the same
    have unstored : RuntimeEnvironment.Unstored World.equipment := fun _ _ _ _ _ => rfl
    have same := (unstored.spares r.settings.testingPrefix).setUp world
    dsimp only at made
    split at made
    · cases made
    · rename_i equipped
      rw [equipped] at same
      obtain ⟨sameFilters, sameRuntime⟩ := Prod.mk.inj same
      rw [← sameFilters]
      exact isolate_surroundings (sameRuntime.trans simulated) made
  · exact isolate_surroundings simulated made

end Run

/-- A site as runtime checks are to find it: under the testing prefix, with the
minimal theme, and with the plugin under test as the only active one beside the
tool, if it was active under the testing prefix. -/
structure Host.Isolated (h : Host) (prior : Filters) (settings : RunSettings)
    (installed : InstalledPlugins) (basename : String) : Prop where
  tablePrefix : h.tablePrefix = settings.testingPrefix
  template : h.template = "wp-empty-theme"
  stylesheet : h.stylesheet = "wp-empty-theme"
  /-- The plugin under test is active beside the tool alone. -/
  activePlugins : basename ∈ prior.applyList .activePlugins h.storedActivePlugins →
    h.activePlugins =
      (settings.tool.filter fun tool =>
        Assoc.contains tool installed && tool != basename).toList ++ [basename]

theorem Host.isolated_of_filters {h : Host} {prior : Filters} {settings : RunSettings}
    {installed : InstalledPlugins} {basename : String} (answering : prior.AnswerLists)
    (tablePrefix : h.tablePrefix = settings.testingPrefix)
    (filters : h.filters = isolatingFilters prior basename
      (SinglePlugin.forced installed basename settings.tool)) :
    h.Isolated prior settings installed basename where
  tablePrefix := tablePrefix
  -- of the three filters the first is asked for the parent theme
  template := by
    rw [Host.template, filters]
    refine Filters.applyText_of_apply (fun value => ?_) h.theme
    simp only [isolatingFilters]
    rw [Filters.apply_add_other _ (by decide), Filters.apply_add_other _ (by decide),
      Filters.apply_add_same]
    rfl
  stylesheet := by
    rw [Host.stylesheet, filters]
    refine Filters.applyText_of_apply (fun value => ?_) h.theme
    simp only [isolatingFilters]
    rw [Filters.apply_add_other _ (by decide), Filters.apply_add_same]
    rfl
  -- the filters that were there before are asked first, and their answer is what is forced
  activePlugins active := by
    have forced : SinglePlugin.forced installed basename settings.tool =
        (settings.tool.filter fun tool =>
          Assoc.contains tool installed && tool != basename).toList ++ [basename] := by
      unfold SinglePlugin.forced
      cases settings.tool with
      | none => rfl
      | some tool =>
        by_cases kept : Assoc.contains tool installed && tool != basename <;>
          simp [Option.filter, kept]
    have applied : h.filters.apply .activePlugins (.list h.storedActivePlugins) =
        .list (SinglePlugin.forced installed basename settings.tool) := by
      rw [filters]
      simp only [isolatingFilters]
      rw [Filters.apply_add_same, Filters.apply_add_other _ (by decide),
        Filters.apply_add_other _ (by decide), answering.apply]
      simp [SinglePlugin.force, active]
    rw [Host.activePlugins, Filters.applyList, applied, ← forced]

/-! ## Executions -/

namespace Rehearsal

def switchingBack : Cleanup := .of "table_prefix" (.tryHost fun host => host.useTablePrefix "wp_")

/-- A request for another table prefix while checks are run. -/
def switching : SharedPreparation where
  name := "table_prefix"
  arguments := .text "spare_"
  build _ := pure do
    Act.tryHost fun host => host.useTablePrefix "spare_"
    return switchingBack

/-- A check that changes nothing of the site itself, but asks for another table prefix. -/
def switcher : Check where
  categories := [.general]
  sharedPreparations _ := [switching]
  run _ := run "switched" none false

end Rehearsal

namespace Run

variable {r : Run}

/-- What a check finds when it starts, seen from the site before the execution. -/
def Surrounds (prior start : Host) (settings : RunSettings) (installed : InstalledPlugins)
    (target : RunTarget) : Prop :=
  if target.selected.hasRuntime then
    start.Isolated prior.filters settings installed target.basename
  else
    start.tablePrefix = prior.tablePrefix ∧ start.filters = prior.filters ∧
      start.themeDirectories = prior.themeDirectories

/-- Preparing the site makes the surroundings that checks are to find. -/
theorem surrounds_prepareSite {target : RunTarget} {simulation : Simulation} {cleanup : Cleanup}
    (simulated : world.host.runtime = .simulated simulation)
    (answering : world.host.filters.AnswerLists)
    (made : (r.prepareSite target).runIn world = (.ok cleanup, after))
    (same : start.surroundings = after.surroundings) :
    Surrounds world.host start.host r.settings simulation.plugins target := by
  obtain ⟨tablePrefix, filters, themeDirectories⟩ := Surroundings.mk.inj same
  unfold prepareSite at made
  unfold Surrounds
  split at made
  · rename_i hasRuntime
    obtain ⟨testing, isolating⟩ := prepareRuntime_surroundings simulated made
    rw [if_pos hasRuntime]
    exact Host.isolated_of_filters answering (tablePrefix.trans testing) (filters.trans isolating)
  · rename_i noRuntime
    cases made
    rw [if_neg noRuntime]
    exact ⟨tablePrefix, filters, themeDirectories⟩

/-- After every history of calls, an execution on a simulated site that gets past
preparing it runs each check in the surroundings that it is to find. -/
theorem execute_surrounds (repository : CheckRepository) (request : RunRequest)
    (settings : RunSettings) (extensions : List Extension) (world : World) (calls : List RunCall)
    (distinct : ((repository.staticChecks ++ repository.runtimeChecks).map Prod.fst).Nodup)
    (keeping : ∀ extension ∈ extensions, extension.Keeps CheckCollection.Distinct)
    (sparing : ∀ extension ∈ extensions, extension.Spares World.host) :
    let s := (RunCall.performAll
      ⟨Run.ofRequest repository request settings extensions, world⟩ calls).2
    ∀ simulation, s.world.host.runtime = .simulated simulation →
      s.world.host.filters.AnswerLists →
      (∀ target, (s.run.resolve s.world).outcome = .ok target →
        ∀ entry ∈ target.selected.entries, entry.2.LeavesSurroundings) →
      (s.run.prepare s.world).outcome = .ok () →
      ∃ target events, s.run.Executes s.world target events ∧
        ∀ before slug check outcome later start,
          events = before ++ .ran slug check outcome :: later →
          Happen target.audit.context (s.run.prepare s.world).world before start →
          Surrounds s.world.host start.host settings simulation.plugins target := by
  intro s simulation simulated answering leaving prepared
  have admits := admits_performAll CheckCollection.hereditary_distinct distinct keeping request
    settings world calls
  obtain ⟨target, events, resolved, executes⟩ := exists_executes admits prepared
  refine ⟨target, events, executes, fun before slug check outcome later start split happen => ?_⟩
  obtain ⟨sameSettings, sameExtensions⟩ := (invariant_inherited settings extensions).performAll
    (s := ⟨Run.ofRequest repository request settings extensions, world⟩) ⟨rfl, rfl⟩ calls
  have sameHost : (s.run.resolve s.world).world.host = s.world.host :=
    resolve_spares (sameExtensions ▸ sparing) s.world
  obtain ⟨-, found, failure, checked, lifecycle, -⟩ := executes
  have kept : start.surroundings = (s.run.prepare s.world).world.surroundings := by
    have leaves := leaving target resolved
    exact lifecycle.kept_when_started
      (fun entry member host request => (leaves entry member).prepare_spares)
      (fun entry member => (leaves entry member).spares) split happen
  -- of the ways that preparing can take, only the last one succeeds
  rcases prepare_cases s.run s.world with ⟨e, -, ran⟩ | ⟨e, -, -, ran⟩ |
    ⟨target', e, after, -, -, -, ran⟩ | ⟨target', cleanup, after, -, found, made, ran⟩
  · simp [ran] at prepared
  · simp [ran] at prepared
  · simp [ran] at prepared
  · obtain rfl : target' = target := Except.ok.inj (found.symm.trans resolved)
    rw [ran] at kept
    rw [← sameHost, ← sameSettings]
    exact surrounds_prepareSite (sameHost ▸ simulated) (sameHost ▸ answering) made kept

/-- A run of a static and a runtime check. -/
theorem execute_surrounds_visitors :
    let s := (RunCall.performAll
      ⟨Run.ofRequest Rehearsal.visits Rehearsal.visitRequest, Rehearsal.busySite⟩ [.checksToRun]).2
    ∃ target events, s.run.Executes s.world target events ∧
      ∀ before slug check outcome later start,
        events = before ++ .ran slug check outcome :: later →
        Happen target.audit.context (s.run.prepare s.world).world before start →
        Surrounds s.world.host start.host {} Rehearsal.busyPlugins target := by
  refine execute_surrounds Rehearsal.visits Rehearsal.visitRequest {} [] Rehearsal.busySite
    [.checksToRun] (by decide) (by simp) (by simp) _ rfl ?_ ?_ (Rehearsal.eq_ok_of_isOk (by rfl))
  · intro entry member _ items
    obtain rfl := List.mem_singleton.mp member
    exact ⟨items, rfl⟩
  · intro target resolved entry member
    have leaves (slug : String) (mode : ExecutionMode) :
        (Rehearsal.visitor slug mode).LeavesSurroundings :=
      { spares := Rehearsal.visitor_spares (fun _ _ => rfl) slug mode
        requests := fun _ _ member => .inl ⟨_, List.mem_singleton.mp member⟩ }
    cases resolved
    have selected : entry ∈ [("files", Rehearsal.visitor "files" .static),
      ("front", Rehearsal.visitor "front" .runtime)] := member
    simp only [List.mem_cons, List.not_mem_nil, or_false] at selected
    rcases selected with rfl | rfl <;> exact leaves _ _

/-- Checks and private preparations that leave the site alone are not enough: a check whose
shared preparation switches the table prefix is run under that prefix. -/
theorem surroundings_switched :
    let r := Run.ofRequest ⟨[("switched", Rehearsal.switcher)], []⟩ Rehearsal.visitRequest
    let world := Rehearsal.busySite
    (∀ target, (r.resolve world).outcome = .ok target →
      ∀ entry ∈ target.selected.entries, entry.2.Spares World.host) ∧
    (r.prepare world).outcome = .ok () ∧
    ∃ target events before slug check outcome later start, r.Executes world target events ∧
      events = before ++ .ran slug check outcome :: later ∧
      Happen target.audit.context (r.prepare world).world before start ∧
      ¬ Surrounds world.host start.host {} Rehearsal.busyPlugins target := by
  intro r world
  have lifecycle : Lifecycle [("switched", Rehearsal.switcher)]
      (([.asked "switched" Rehearsal.switcher [Rehearsal.switching],
        .prepared Rehearsal.switching (.ok Rehearsal.switchingBack)] ++
        ([.ran "switched" Rehearsal.switcher (.found [Rehearsal.standardFinding "switched"])] ++ [])) ++
        [.undone Rehearsal.switching Rehearsal.switchingBack (.ok ())])
      ([Rehearsal.standardFinding "switched"] ++ []) none :=
    .checked (.asked (.made _ (by decide) .done)) (.next (.plain _ rfl) .done) (.next _ .done)
  refine ⟨fun target resolved entry member => ?_, Rehearsal.eq_ok_of_isOk (by rfl), _, _, [_, _], _, _, _, _, _,
    ⟨rfl, _, _, _, lifecycle, .cons ⟨rfl, rfl⟩ (.cons rfl (.cons rfl (.cons rfl .nil))), rfl, rfl⟩, rfl,
    .cons ⟨rfl, rfl⟩ (.cons rfl .nil), fun surrounds => ?_⟩
  · cases resolved
    obtain rfl : entry = ("switched", Rehearsal.switcher) := List.mem_singleton.mp member
    exact ⟨fun _ _ => rfl, nofun⟩
  · rw [Surrounds, if_neg (by decide)] at surrounds
    exact absurd surrounds.1 (by decide)

end Run

end PluginAudit
