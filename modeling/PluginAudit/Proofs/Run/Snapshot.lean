import PluginAudit.Proofs.Rehearsal
import PluginAudit.Proofs.Run.Target

/-!
# A run keeps to what it was made for

A run that was made for the checks of a plugin remembers what was asked for then.
Whatever is set or asked for later, a call either is about that plugin and those
checks, or it is refused and changes nothing.
-/

namespace PluginAudit

open PluginAudit.Text

namespace Run

variable {r : Run} {world : World} {plugin : String} {checks : List String}

/-- The plugin that is asked for, which may be missing or blank. -/
def wishedPlugin (r : Run) : Option String := r.overrides.plugin.or r.request.plugin

theorem requestedPlugin_eq_ok {named : String} :
    r.requestedPlugin = .ok named ↔ r.wishedPlugin = some named ∧ isBlankText named.toList = false := by
  unfold requestedPlugin wishedPlugin
  cases r.overrides.plugin.or r.request.plugin with
  | none => simp
  | some wished =>
    cases blank : isBlankText wished.toList <;> simp [blank] <;> (rintro rfl; exact blank)

/-- No plugin is asked for if none is named, or one with a blank name. -/
theorem requestedPlugin_eq_error {e : Error} (missing : r.requestedPlugin = .error e) :
    e = .invalidPlugin "no plugin given" ∧
      ∀ named, r.wishedPlugin = some named → isBlankText named.toList := by
  unfold requestedPlugin at missing
  unfold wishedPlugin
  generalize r.overrides.plugin.or r.request.plugin = wished at *
  cases wished with
  | none => simp_all
  | some wished => cases blank : isBlankText wished.toList <;> simp_all

/-- Why a wish that differs from the first one is refused.  The plugin is looked at
before the checks. -/
inductive Refuses (r : Run) (plugin : String) : Error → Prop
  | missing : (∀ named, r.wishedPlugin = some named → isBlankText named.toList) →
      Refuses r plugin (.invalidPlugin "no plugin given")
  | plugin {named : String} : r.wishedPlugin = some named → named ≠ plugin →
      Refuses r plugin
        (.invalidPlugin ("the plugin to check changed from " ++ plugin ++ " to " ++ named))
  | checks : r.wishedPlugin = some plugin →
      Refuses r plugin (.invalidChecks "the checks to run changed since the run started")

/-- What is confirmed is what was asked for at first. -/
theorem eq_of_confirmedPlugin (made : r.snapshot = some ⟨some plugin, checks⟩) {named : String}
    (confirmed : r.confirmedPlugin = .ok named) : named = plugin ∧ r.requestedChecks = checks := by
  unfold confirmedPlugin refuseChange at confirmed
  rw [made] at confirmed
  cases requested : r.requestedPlugin with
  | error e => simp [requested] at confirmed
  | ok wished =>
    by_cases samePlugin : plugin = wished <;> by_cases sameChecks : checks = r.requestedChecks <;>
      simp_all [Except.map]

/-- What differs from what was asked for at first is refused. -/
theorem refuses_of_changed (made : r.snapshot = some ⟨some plugin, checks⟩)
    (changed : r.wishedPlugin ≠ some plugin ∨ r.requestedChecks ≠ checks) :
    ∃ e, r.confirmedPlugin = .error e ∧ r.Refuses plugin e := by
  unfold confirmedPlugin refuseChange
  rw [made]
  cases requested : r.requestedPlugin with
  | error e =>
    obtain ⟨rfl, blank⟩ := requestedPlugin_eq_error requested
    exact ⟨_, rfl, .missing blank⟩
  | ok wished =>
    obtain ⟨isWished, -⟩ := requestedPlugin_eq_ok.mp requested
    by_cases same : plugin = wished
    · obtain rfl := same
      have others : checks ≠ r.requestedChecks := by
        rcases changed with otherPlugin | otherChecks
        · exact absurd isWished otherPlugin
        · exact otherChecks.symm
      refine ⟨_, ?_, .checks isWished⟩
      simp [others, Except.map]
    · refine ⟨_, ?_, .plugin isWished (Ne.symm same)⟩
      simp [same, Except.map]

/-! ## Calls that are refused -/

theorem prepare_of_busy (busy : r.state ≠ .idle) (world : World) :
    ∃ failure, r.prepare world = ⟨.error failure, r, world⟩ := by
  rcases prepare_cases r world with ⟨e, -, refused⟩ | ⟨e, idle, -⟩ | ⟨target, e, after, idle, -⟩ |
    ⟨target, cleanup, after, idle, -⟩
  · exact ⟨e, refused⟩
  all_goals exact absurd idle busy

theorem runPrepared_of_refused {e : Error} (refused : r.confirmedPlugin = .error e) :
    r.runPrepared world = ⟨.error e, r, world⟩ := by
  simp [runPrepared, refused]

end Run

namespace RunCall

open Run

variable {s : Scene} {call : RunCall}

/-- Whether a call, made in a state, comes to the test that what is asked for is what
was asked for at first. -/
def meetsTest : RunCall → RunState → Bool
  | checksToRun, _ => true
  | prepare, state | execute, state => state = .idle
  | run, state => state = .idle ∨ state = .prepared
  | _, _ => false

/-- Without confirmation a call fails and leaves all as it is. -/
theorem perform_of_refused {e : Error} (refused : s.run.confirmedPlugin = .error e)
    (needs : call.needsTarget) :
    ∃ failure, call.perform s = (.failure failure, s) ∧ (call.meetsTest s.run.state → failure = e) := by
  obtain ⟨r, world⟩ := s
  dsimp only at refused
  cases call with
  | setPlugin _ | setChecks _ | setExcluded _ | setCategories _ | setExperimental _
  | setRequest _ | pluginBasename | cleanUp => cases needs
  | checksToRun =>
    refine ⟨e, ?_, fun _ => rfl⟩
    simp [perform, after, Run.checksToRun, resolve_of_refused refused, Except.map, RunAnswer.ofOutcome]
  | prepare =>
    by_cases idle : r.state = .idle
    · refine ⟨e, ?_, fun _ => rfl⟩
      simp [perform, after, prepare_of_refused refused idle, RunAnswer.ofOutcome]
    · obtain ⟨failure, busy⟩ := prepare_of_busy idle world
      refine ⟨failure, ?_, fun meets => absurd (of_decide_eq_true meets) idle⟩
      simp [perform, after, busy, RunAnswer.ofOutcome]
  | run =>
    cases state : r.state with
    | idle =>
      refine ⟨e, ?_, fun _ => rfl⟩
      simp [perform, after, Run.run, state, prepare_of_refused refused state, RunAnswer.ofOutcome]
    | prepared =>
      refine ⟨e, ?_, fun _ => rfl⟩
      simp [perform, after, Run.run, state, runPrepared_of_refused refused, RunAnswer.ofOutcome]
    | ran | cleanedUp =>
      refine ⟨.internal ("cannot run a runner in state " ++ r.state.name), ?_, fun meets => ?_⟩
      · simp [perform, after, Run.run, state, RunAnswer.ofOutcome]
      · simp [meetsTest] at meets
  | execute =>
    by_cases idle : r.state = .idle
    · refine ⟨e, ?_, fun _ => rfl⟩
      simp [perform, after, Run.execute, prepare_of_refused refused idle, RunAnswer.ofOutcome]
    · obtain ⟨failure, busy⟩ := prepare_of_busy idle world
      refine ⟨failure, ?_, fun meets => absurd (of_decide_eq_true meets) idle⟩
      simp [perform, after, Run.execute, busy, RunAnswer.ofOutcome]

end RunCall

/-! ## Histories -/

namespace Run

/-- What a run is made with and never changes. -/
def made (r : Run) : CheckRepository × RunSettings × List Extension × Option RunSnapshot :=
  (r.repository, r.settings, r.extensions, r.snapshot)

theorem invariant_made (start : Run) : Invariant fun r _ => r.made = start.made where
  wishes _ _ kept := kept
  resolve {r world} kept := by
    rw [run_resolve]
    split <;> exact kept
  prepare {r world} kept := by
    rcases prepare_cases r world with ⟨e, -, ran⟩ | ⟨e, -, -, ran⟩ |
      ⟨target, e, after, -, -, -, ran⟩ | ⟨target, cleanup, after, -, -, -, ran⟩ <;>
      rw [ran] <;> exact kept
  runPrepared {r world} _ kept := by
    rcases runPrepared_cases r world with ⟨e, ran⟩ | ⟨target, e, after, -, -, ran⟩ |
      ⟨target, findings, after, -, -, ran⟩ <;> rw [ran] <;> exact kept
  cleanUp kept := kept

theorem made_of_leads {start s : RunCall.Scene} (leads : RunCall.Leads start s) :
    s.run.made = start.run.made := by
  induction leads with
  | refl => rfl
  | tail _ step kept =>
    cases step with
    | call call => exact (invariant_made start.run).perform kept call
    | elsewhere world => exact kept

/-- A run that was made for the checks of a plugin is not led to others, whatever is
set, asked for or changed later.  What succeeds is about the plugin that was named
when the run was made, as it was installed when the target was found, and about
checks selected by the slugs that were listed then.  Where the plugin or the slugs
that are asked for differ, what needs the target is refused and nothing is done. -/
theorem request_kept (repository : CheckRepository) (request : RunRequest) (settings : RunSettings)
    (extensions : List Extension) (world : World) (plugin : String)
    (isPluginCheck : request.isPluginCheck = true) (named : request.plugin = some plugin)
    (s : RunCall.Scene)
    (leads : RunCall.Leads ⟨Run.ofRequest repository request settings extensions, world⟩ s)
    (call : RunCall) (needs : call.needsTarget = true) :
    ((call.perform s).1.succeeds = true → ∃ target origin,
      (call.perform s).2.run.target = some target ∧ (call.perform s).1.IsAbout target ∧
      RunCall.Scene.Origin ⟨Run.ofRequest repository request settings extensions, world⟩
        (call.perform s).2 target origin ∧
      origin.run.repository = repository ∧ origin.run.extensions = extensions ∧
      origin.run.selection.checks = request.checks ∧
      origin.run.Finds origin.world plugin target) ∧
    (s.run.wishedPlugin ≠ some plugin ∨ s.run.requestedChecks ≠ request.checks →
      ∃ e, call.perform s = (.failure e, s) ∧
        (call.meetsTest s.run.state = true → s.run.Refuses plugin e)) := by
  have snapshot {later : RunCall.Scene}
      (reached : RunCall.Leads ⟨Run.ofRequest repository request settings extensions, world⟩ later) :
      later.run.made = (repository, settings, extensions, some ⟨some plugin, request.checks⟩) := by
    rw [made_of_leads reached]
    simp [made, ofRequest, isPluginCheck, named]
  constructor
  · intro succeeds
    obtain ⟨target, known, about, -⟩ := RunCall.exists_target_of_succeeds needs succeeds
    obtain ⟨origin, confirmed, at_, isConfirmed, finds⟩ :=
      RunCall.exists_origin rfl (leads.tail (.call s call)) known
    have madeSame := snapshot at_.reached
    simp only [made, Prod.mk.injEq] at madeSame
    obtain ⟨sameRepository, -, sameExtensions, sameSnapshot⟩ := madeSame
    obtain ⟨rfl, sameChecks⟩ := eq_of_confirmedPlugin sameSnapshot isConfirmed
    exact ⟨target, origin, known, about, at_, sameRepository, sameExtensions, sameChecks, finds⟩
  · intro changed
    have madeSame := snapshot leads
    simp only [made, Prod.mk.injEq] at madeSame
    obtain ⟨-, -, -, sameSnapshot⟩ := madeSame
    obtain ⟨e, refused, refuses⟩ := refuses_of_changed sameSnapshot changed
    obtain ⟨failure, performed, meets⟩ := RunCall.perform_of_refused refused needs
    exact ⟨failure, performed, fun met => meets met ▸ refuses⟩

/-- On a site that is prepared for a plugin its checks are run, and after the plugin
was changed the run is refused. -/
theorem request_kept_visits :
    let start : RunCall.Scene :=
      ⟨Run.ofRequest Rehearsal.visits Rehearsal.visitRequest {} [], Rehearsal.busySite⟩
    let prepared := (RunCall.performAll start [.prepare]).2
    let changed := (RunCall.performAll start [.prepare, .setPlugin "plugin-check"]).2
    (∃ target origin, (RunCall.run.perform prepared).2.run.target = some target ∧
      (RunCall.run.perform prepared).1.IsAbout target ∧
      RunCall.Scene.Origin start (RunCall.run.perform prepared).2 target origin ∧
      origin.run.Finds origin.world "foo/foo.php" target) ∧
    ∃ e, RunCall.run.perform changed = (.failure e, changed) ∧
      changed.run.Refuses "foo/foo.php" e := by
  intro start prepared changed
  have kept (calls : List RunCall) :=
    request_kept Rehearsal.visits Rehearsal.visitRequest {} [] Rehearsal.busySite "foo/foo.php" rfl
      rfl _ (RunCall.leads_performAll start calls) .run rfl
  constructor
  · obtain ⟨target, origin, known, about, at_, -, -, -, finds⟩ := (kept [.prepare]).1 (by decide +kernel)
    exact ⟨target, origin, known, about, at_, finds⟩
  · obtain ⟨e, performed, refuses⟩ := (kept [.prepare, .setPlugin "plugin-check"]).2 (.inl (by decide))
    exact ⟨e, performed, refuses (by decide +kernel)⟩

end Run

end PluginAudit
