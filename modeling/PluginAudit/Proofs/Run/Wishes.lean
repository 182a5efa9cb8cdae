import PluginAudit.Proofs.Rehearsal
import PluginAudit.Proofs.Run.Target

/-!
# Until when wishes count

Before a run is prepared its wishes may be set and its checks asked for, in any
order.  The first answer about the checks settles them: a run is prepared for what
was wished then, and what is set afterwards is not looked at.  Without such an
answer it is what is wished when the site is prepared.
-/

namespace PluginAudit

namespace RunCall

open Run

/-- Whether a call sets a wish or asks what would be checked. -/
def isTentative : RunCall → Bool
  | setPlugin _ | setChecks _ | setExcluded _ | setCategories _ | setExperimental _ => true
  | checksToRun | pluginBasename => true
  | _ => false

/-- Whether a call, made in a scene, is answered with the checks. -/
def settles (s : Scene) : RunCall → Bool
  | checksToRun => (checksToRun.perform s).1.succeeds
  | _ => false

/-- The scene at which the checks are told first, or else the last one. -/
def settled (s : Scene) : List RunCall → Scene
  | [] => s
  | call :: rest => if call.settles s then s else settled (call.perform s).2 rest

variable {s : Scene} {call : RunCall} {calls : List RunCall} {target : RunTarget} {first : Run}

theorem settled_of_none {s : Scene} (none : ∀ front call rest, calls = front ++ call :: rest →
    call.settles (performAll s front).2 = false) : settled s calls = (performAll s calls).2 := by
  induction calls generalizing s with
  | nil => rfl
  | cons call rest inductionHypothesis =>
    have here : call.settles s = false := none [] call rest rfl
    have later : settled (call.perform s).2 rest = (performAll (call.perform s).2 rest).2 :=
      inductionHypothesis fun front other back split => none (call :: front) other back (by rw [split]; rfl)
    simp [settled, here, later, performAll]

/-- A scene whose run is as it was made, but for its wishes. -/
def Scene.Undecided (first : Run) (s : Scene) : Prop :=
  s.run = { first with overrides := s.run.overrides }

theorem perform_unsettled (undecided : s.Undecided first) (tentative : call.isTentative)
    (unsettled : call.settles s = false) : (call.perform s).2.Undecided first := by
  unfold Scene.Undecided at *
  cases call with
  | setRequest _ | prepare | run | execute | cleanUp => cases tentative
  | pluginBasename => exact undecided
  | setPlugin _ | setChecks _ | setExcluded _ | setCategories _ | setExperimental _ =>
    change ({ s.run with overrides := _ } : Run) = _
    rw [undecided]
    rfl
  | checksToRun =>
    -- without an answer nothing is kept
    change (s.run.resolve s.world).run = { first with overrides := (s.run.resolve s.world).run.overrides }
    have failed : ∃ e, (s.run.resolve s.world).outcome = .error e := by
      cases outcome : (s.run.resolve s.world).outcome with
      | error e => exact ⟨e, rfl⟩
      | ok target =>
        simp [settles, perform, after, Run.checksToRun, outcome, Except.map, RunAnswer.ofOutcome,
          RunAnswer.succeeds] at unsettled
    obtain ⟨e, failed⟩ := failed
    rw [run_resolve, failed]
    exact undecided

theorem performAll_known (known : s.run.target = some target) (calls : List RunCall) :
    (performAll s calls).2.run.target = some target := by
  induction calls generalizing s with
  | nil => exact known
  | cons call rest inductionHypothesis =>
    exact inductionHypothesis (target_perform_known known call)

/-- Tentative calls lead to a scene where nothing is decided, or where the target is
known that was found out when the checks were told. -/
theorem performAll_tentative (undecided : s.Undecided first) (fresh : first.target = none)
    (tentative : ∀ call ∈ calls, call.isTentative = true) :
    (settled s calls).Undecided first ∧
      (settled s calls = (performAll s calls).2 ∨
        ∃ target, (performAll s calls).2.run.target = some target ∧
          ((settled s calls).run.resolve (settled s calls).world).outcome = .ok target) := by
  induction calls generalizing s with
  | nil => exact ⟨undecided, .inl rfl⟩
  | cons call rest inductionHypothesis =>
    obtain ⟨isTentative, others⟩ := List.forall_mem_cons.mp tentative
    simp only [settled, performAll]
    cases settling : call.settles s with
    | false =>
      exact inductionHypothesis (perform_unsettled undecided isTentative settling) others
    | true =>
      refine ⟨undecided, .inr ?_⟩
      obtain rfl : call = checksToRun := by cases call <;> simp_all [settles]
      obtain ⟨target, known, -⟩ := exists_target_of_succeeds rfl settling
      refine ⟨target, performAll_known known rest, ?_⟩
      rcases target_perform s .checksToRun with kept | ⟨found, resolved, isFound⟩
      · have unknown : s.run.target = none := by rw [undecided, fresh]
        simp [kept, unknown] at known
      · rwa [Option.some.inj (isFound.symm.trans known)] at resolved

/-- Calls that need the target and succeed are all about the target found where the
checks were settled. -/
theorem performAll_about (known : s.run.target = some target) {calls : List RunCall}
    (needs : ∀ call ∈ calls, call.needsTarget = true)
    (succeed : ∀ answer ∈ (performAll s calls).1, answer.succeeds = true) :
    ∀ answer ∈ (performAll s calls).1, answer.IsAbout target := by
  induction calls generalizing s with
  | nil => simp [performAll]
  | cons call rest inductionHypothesis =>
    obtain ⟨needsTarget, others⟩ := List.forall_mem_cons.mp needs
    simp only [performAll, List.forall_mem_cons] at succeed ⊢
    have still := target_perform_known known call
    obtain ⟨found, isFound, about, -⟩ := exists_target_of_succeeds needsTarget succeed.1
    obtain rfl : found = target := Option.some.inj (isFound.symm.trans still)
    exact ⟨about, inductionHypothesis still others succeed.2⟩

end RunCall

namespace Run

open RunCall

theorem pluginBasename_of_resolve {r : Run} {world : World} {target : RunTarget}
    (unknown : r.target = none) (resolved : (r.resolve world).outcome = .ok target) :
    r.pluginBasename world = .ok target.basename := by
  obtain ⟨plugin, confirmed, finds⟩ := finds_of_resolve unknown resolved
  unfold confirmedPlugin at confirmed
  unfold pluginBasename
  cases requested : r.requestedPlugin with
  | error e => simp [requested] at confirmed
  | ok named =>
    obtain rfl : named = plugin := by
      cases refused : r.refuseChange named r.requestedChecks <;>
        simp_all [Except.map]
    exact finds.basename

/-- A run that was only wished for and asked about, and then is prepared and run, is
about what a run made anew with the wishes of one scene finds there: the scene at
which the checks were told first, and only if they never were, the last one. -/
theorem target_settled (repository : CheckRepository) (request : RunRequest)
    (settings : RunSettings) (extensions : List Extension) (world : World) (calls : List RunCall)
    (tentative : ∀ call ∈ calls, call.isTentative = true) (ending : List RunCall)
    (nonempty : ending ≠ []) (needs : ∀ call ∈ ending, call.needsTarget = true)
    (succeed : ∀ answer ∈ (performAll (performAll
      ⟨Run.ofRequest repository request settings extensions, world⟩ calls).2 ending).1,
        answer.succeeds = true) :
    let start : Scene := ⟨Run.ofRequest repository request settings extensions, world⟩
    let s := (performAll start calls).2
    let origin := settled start calls
    let fresh : Run := { Run.ofRequest repository request settings extensions with
      overrides := origin.run.overrides }
    (∃ target, (fresh.resolve origin.world).outcome = .ok target ∧
      fresh.pluginBasename origin.world = .ok target.basename ∧
      (performAll s ending).2.run.target = some target ∧
      ∀ answer ∈ (performAll s ending).1, answer.IsAbout target) ∧
    ((∀ front call back, calls = front ++ call :: back →
        call.settles (performAll start front).2 = false) → origin = s) := by
  intro start s origin fresh
  refine ⟨?_, settled_of_none⟩
  have asWished : start.Undecided start.run := rfl
  obtain ⟨undecided, found⟩ := performAll_tentative asWished rfl tentative
  have unknown : origin.run.target = none := by rw [undecided]; rfl
  cases ending with
  | nil => exact absurd rfl nonempty
  | cons call rest =>
    obtain ⟨needsTarget, others⟩ := List.forall_mem_cons.mp needs
    simp only [performAll, List.forall_mem_cons] at succeed ⊢
    obtain ⟨target, known, about, -⟩ := exists_target_of_succeeds needsTarget succeed.1
    have resolved : (origin.run.resolve origin.world).outcome = .ok target := by
      rcases found with last | ⟨told, isTold, resolved⟩
      · -- nothing was found out before, so the first call of the ending did it
        have last : origin = s := last
        rw [last] at unknown ⊢
        rcases target_perform s call with kept | ⟨other, resolved, isOther⟩
        · cases unknown.symm.trans (kept.symm.trans known)
        · rwa [Option.some.inj (isOther.symm.trans known)] at resolved
      · have still := target_perform_known isTold call
        rwa [Option.some.inj (still.symm.trans known)] at resolved
    have basename := pluginBasename_of_resolve unknown resolved
    rw [undecided] at resolved basename
    exact ⟨target, resolved, basename, performAll_known known rest, about,
      performAll_about known others succeed.2⟩

/-- A run that told the checks of one plugin is about that plugin, although another
one is set afterwards. -/
theorem target_settled_visits :
    let start : Scene :=
      ⟨Run.ofRequest Rehearsal.visits { isPluginCheck := false } {} [], Rehearsal.busySite⟩
    let s := (performAll start [.setPlugin "foo", .checksToRun, .setPlugin "plugin-check"]).2
    ∃ target, (performAll s [.prepare, .run]).2.run.target = some target ∧
      target.basename = "foo/foo.php" ∧
      ∀ answer ∈ (performAll s [.prepare, .run]).1, answer.IsAbout target := by
  intro start s
  let calls : List RunCall := [.setPlugin "foo", .checksToRun, .setPlugin "plugin-check"]
  have named : ({ Run.ofRequest Rehearsal.visits { isPluginCheck := false } {} [] with
      overrides := (settled start calls).run.overrides } : Run).pluginBasename
        (settled start calls).world = .ok "foo/foo.php" := by
    decide +kernel
  obtain ⟨⟨target, -, basename, known, about⟩, -⟩ :=
    target_settled Rehearsal.visits { isPluginCheck := false } {} [] Rehearsal.busySite calls
      (by decide) [.prepare, .run] (by decide) (by decide) (by decide +kernel)
  exact ⟨target, known, Except.ok.inj (basename.symm.trans named), about⟩

/-- The plugin that is set last is the one that the run names and that a run made anew
would check, and not the one that is checked. -/
theorem wish_passed_over_visits :
    let start : Scene :=
      ⟨Run.ofRequest Rehearsal.visits { isPluginCheck := false } {} [], Rehearsal.busySite⟩
    let s := (performAll start [.setPlugin "foo", .checksToRun, .setPlugin "plugin-check"]).2
    let fresh : Run := { Run.ofRequest Rehearsal.visits { isPluginCheck := false } {} [] with
      overrides := s.run.overrides }
    s.run.pluginBasename s.world = .ok "plugin-check/plugin.php" ∧
      (fresh.resolve s.world).outcome.map RunTarget.basename = .ok "plugin-check/plugin.php" ∧
      (RunCall.execute.perform s).1.succeeds = true ∧
      (RunCall.execute.perform s).2.run.target.map RunTarget.basename = some "foo/foo.php" := by
  decide +kernel

end Run

end PluginAudit
