import PluginAudit.Proofs.Administration
import PluginAudit.Proofs.Run.Agreement
import PluginAudit.Proofs.Run.Residue

/-!
# The two stages of a site

While requests of the administration page are answered, the site is with an environment or without
one, apart from a residue of the runs.  Which clients have an environment set up and removed is
the same at both stages, and running checks leads from neither to the other.
-/

namespace PluginAudit

open RuntimeEnvironment

variable {start world : World}

/-! ## The site with an environment -/

/-- The world once an environment was set up in it. -/
def World.housed (pre : String) (world : World) : World := ((setUp pre).runIn world).2

/-- A check that can run or not whether there is an environment or not, and whatever was left
behind. -/
structure Check.Steady (pre : String) (start : World) (check : Check) : Prop where
  bare : ∀ left, check.unavailability (start.withResidue left) = check.unavailability start
  housed : ∀ left, check.unavailability ((start.housed pre).withResidue left) = check.unavailability start

theorem World.housed_spares {γ : Type} {view : World → γ} (unstored : Unstored view) (pre : String)
    (start : World) : view (start.housed pre) = view start :=
  (unstored.spares pre).setUp start

theorem RuntimeEnvironment.lawful_housed (lawful : start.host.Lawful) (pre : String) :
    (start.housed pre).host.Lawful := by
  unfold World.housed
  by_cases wellFormed : Host.isTablePrefix pre
  · rw [runIn_setUp lawful.tablePrefix wellFormed, host_writeDropIn]
    exact equipped_lawful lawful wellFormed
  · obtain ⟨e, refused⟩ := runIn_setUp_refused wellFormed start
    rwa [refused]

namespace Administration

variable {a : Administration} {q : AdminRequest}

/-- The two states of a site that clients share. -/
def stage (a : Administration) (start : World) : Bool → World
  | true => start.housed a.settings.testingPrefix
  | false => start

theorem stage_spares {γ : Type} (view : World → γ) (unstored : Unstored view) (a : Administration)
    (start : World) (stands : Bool) : view (a.stage start stands) = view start := by
  cases stands with
  | false => rfl
  | true => exact World.housed_spares unstored _ start

theorem runtime_stage (a : Administration) (start : World) (stands : Bool) :
    (a.stage start stands).host.runtime = start.host.runtime :=
  stage_spares (fun world => world.host.runtime) (fun _ _ _ _ _ => rfl) a start stands

/-- What clients of a site can rely on: checks have names of their own, read files or visit pages,
and can run whether there is an environment or not. -/
structure Sound (a : Administration) (start : World) : Prop where
  lawful : start.host.Lawful
  distinct : ((a.repository.staticChecks ++ a.repository.runtimeChecks).map Prod.fst).Nodup
  modest : ∀ entry ∈ a.repository.staticChecks ++ a.repository.runtimeChecks, entry.2.Modest
  steady : ∀ entry ∈ a.repository.staticChecks ++ a.repository.runtimeChecks,
    entry.2.Steady a.settings.testingPrefix start

theorem Sound.lawful_stage (sound : a.Sound start) (stands : Bool) : (a.stage start stands).host.Lawful := by
  cases stands with
  | false => exact sound.lawful
  | true => exact lawful_housed sound.lawful _

end Administration

/-! ## What a request does -/

/-- The request of a client for an action. -/
def AdminRequest.asking (q : AdminRequest) (action : AdminAction) : AdminRequest :=
  { q with action := action.name }

theorem AdminAction.named?_name (action : AdminAction) : named? action.name = some action := by
  cases action <;> decide

namespace Administration

variable {a : Administration} {q : AdminRequest}

/-- The run behind each of the requests of a client. -/
def clientRun (a : Administration) (q : AdminRequest) (host : Host) : Run :=
  a.runOf (q.asking .runChecks) host

/-- Whether a client is let in and there are runtime checks among those it selects. -/
def selectsRuntime (a : Administration) (q : AdminRequest) (world : World) : Bool :=
  world.host.acceptsNonce q.nonce AdminAction.nonceAction &&
    match ((a.clientRun q world.host).resolve world).outcome with
    | .ok target => target.selected.hasRuntime
    | .error _ => false

/-- A client with a valid nonce gets an action carried out for its run, and any other nothing. -/
theorem runIn_dispatch_asking (a : Administration) (q : AdminRequest) (action : AdminAction) (world : World) :
    (a.dispatch (q.asking action)).runIn world =
      if world.host.acceptsNonce q.nonce AdminAction.nonceAction then
        (a.act (a.clientRun q world.host) action).runIn world
      else (.error (.argument "invalid nonce"), world) := by
  have named (action : AdminAction) : AdminAction.named? (q.asking action).action = some action :=
    action.named?_name
  have request : (q.asking action).toRunRequest world.host = (q.asking .runChecks).toRunRequest world.host := by
    simp only [AdminRequest.toRunRequest, AdminRequest.isAuthorized, named]
    rfl
  have authorized : ((q.asking .runChecks).toRunRequest world.host).isPluginCheck =
      world.host.acceptsNonce q.nonce AdminAction.nonceAction := by
    simp only [AdminRequest.toRunRequest, AdminRequest.isAuthorized, named]
    rfl
  unfold dispatch
  rw [Act.runIn_eq, named]
  dsimp only
  rw [request, authorized]
  rfl

/-- Setting up or removing the environment is done for clients that select runtime checks. -/
theorem runIn_ifRuntime_asking (change : Act Unit) (done skipped : String)
    (accepted : world.host.acceptsNonce q.nonce AdminAction.nonceAction) :
    ((ifRuntime (a.clientRun q world.host) change done skipped).runIn world).2 =
      if a.selectsRuntime q world then (change.runIn world).2 else world := by
  have spares : ∀ extension ∈ (a.clientRun q world.host).extensions, extension.Spares id :=
    List.forall_mem_nil _
  have unchanged : ((a.clientRun q world.host).resolve world).world = world := Run.resolve_spares spares world
  unfold ifRuntime Run.checksToRun selectsRuntime
  rw [Act.runIn_eq, accepted, Bool.true_and]
  rcases resolved : (a.clientRun q world.host).resolve world with ⟨e | target, run, after⟩ <;>
    obtain rfl : after = world := by simpa [resolved] using unchanged
  · rfl
  · dsimp only [Except.map]
    split
    · rcases change.runIn after with ⟨_ | _, _⟩ <;> rfl
    · rfl

theorem world_answerChecks (accepted : Run) (unextended : accepted.extensions = []) (world : World) :
    ((answerChecks accepted).runIn world).2 = world := by
  have spares : ∀ extension ∈ accepted.extensions, extension.Spares id := by simp [unextended]
  have unchanged : (accepted.resolve world).world = world := Run.resolve_spares spares world
  unfold answerChecks Run.checksToRun
  rw [Act.runIn_eq]
  rcases resolved : accepted.resolve world with ⟨e | target, run, after⟩ <;> rw [resolved] at unchanged
  · exact unchanged
  · dsimp only [Except.map] at unchanged ⊢
    split <;> exact unchanged

theorem runIn_answerFindings (run : Run) (world : World) :
    (answerFindings run).runIn world =
      ((run.execute world).outcome.map fun findings => .object
          [("message", .text "Checks run successfully."), ("errors", findings.errors.toJson),
            ("warnings", findings.warnings.toJson)],
        (run.execute world).run.release (run.execute world).world) := by
  unfold answerFindings
  rw [Act.runIn_eq]
  rcases run.execute world with ⟨_ | _, ran, after⟩ <;> rfl

theorem selectsRuntime_refused (refused : world.host.acceptsNonce q.nonce AdminAction.nonceAction = false) :
    a.selectsRuntime q world = false := by
  simp [selectsRuntime, refused]

/-- What the request of a client makes of the world. -/
theorem world_handle_asking (a : Administration) (q : AdminRequest) (action : AdminAction) (world : World) :
    (a.handle (q.asking action) world).2 =
      match action with
      | .setUpEnvironment =>
          if a.selectsRuntime q world then ((setUp a.settings.testingPrefix).runIn world).2 else world
      | .listChecks => world
      | .runChecks =>
          if world.host.acceptsNonce q.nonce AdminAction.nonceAction then
            ((a.clientRun q world.host).execute world).run.release ((a.clientRun q world.host).execute world).world
          else world
      | .cleanUpEnvironment =>
          if a.selectsRuntime q world then ((cleanUp a.settings.testingPrefix).runIn world).2 else world := by
  rw [handle_eq, runIn_dispatch_asking]
  by_cases accepted : world.host.acceptsNonce q.nonce AdminAction.nonceAction
  · rw [if_pos accepted]
    cases action with
    | setUpEnvironment => exact runIn_ifRuntime_asking _ _ _ accepted
    | listChecks => exact world_answerChecks _ rfl world
    | runChecks =>
      rw [if_pos accepted]
      exact congrArg Prod.snd (runIn_answerFindings _ world)
    | cleanUpEnvironment => exact runIn_ifRuntime_asking _ _ _ accepted
  · have refused : a.selectsRuntime q world = false := selectsRuntime_refused (by simpa using accepted)
    rw [if_neg accepted]
    cases action <;> simp [refused, accepted]

/-! ## Requests at the two stages -/

/-- Steady checks can run or not at both stages as at the start. -/
theorem obstacle_stage {check : Check} (steady : check.Steady a.settings.testingPrefix start) (stands : Bool)
    (left : Residue) : check.obstacle ((a.stage start stands).withResidue left) = check.obstacle start := by
  have answers : ((a.stage start stands).withResidue left).host.answersRequests = start.host.answersRequests := by
    simp only [World.withResidue, Host.withResidue, Host.answersRequests, runtime_stage]
    cases start.host.runtime <;> rfl
  have unavailability : check.unavailability ((a.stage start stands).withResidue left) =
      check.unavailability start := by
    cases stands with
    | false => exact steady.bare left
    | true => exact steady.housed left
  simp only [Check.obstacle, unavailability, answers]

/-- The run behind a client that is let in comes to the same checks at both stages. -/
theorem agree_stage (sound : a.Sound start)
    (accepted : start.host.acceptsNonce q.nonce AdminAction.nonceAction) (host : Host) (stands : Bool)
    (left : Residue) : (a.clientRun q host).Agree ((a.stage start stands).withResidue left) start where
  installed := by
    -- only simulated sites let anyone in, and these know their plugins without looking at files
    unfold Host.acceptsNonce at accepted
    split at accepted
    · rename_i simulated
      simp [Host.installedPlugins, World.withResidue, Host.withResidue, runtime_stage, simulated, Runtime.recording]
    · cases accepted
  places basename := stage_spares (fun world => Run.contextOf basename world.host) (fun _ _ _ _ _ => rfl) a start stands
  obstacles entry member := obstacle_stage (sound.steady entry member) stands left

theorem acceptsNonce_stage (a : Administration) (start : World) (stands : Bool) (left : Residue)
    (nonce action : String) : ((a.stage start stands).withResidue left).host.acceptsNonce nonce action =
      start.host.acceptsNonce nonce action := by
  simp only [World.withResidue, Host.withResidue, Host.acceptsNonce, runtime_stage]
  cases start.host.runtime <;> rfl

theorem clientRun_stage (a : Administration) (q : AdminRequest) (start : World) (stands : Bool) (left : Residue) :
    a.clientRun q ((a.stage start stands).withResidue left).host = a.clientRun q start.host := by
  unfold clientRun runOf AdminRequest.toRunRequest AdminRequest.isAuthorized
  rw [acceptsNonce_stage]

/-- Whether a client selects runtime checks does not change while requests are answered. -/
theorem selectsRuntime_stage (sound : a.Sound start) (q : AdminRequest) (stands : Bool) (left : Residue) :
    a.selectsRuntime q ((a.stage start stands).withResidue left) = a.selectsRuntime q start := by
  by_cases accepted : start.host.acceptsNonce q.nonce AdminAction.nonceAction
  · unfold selectsRuntime
    rw [acceptsNonce_stage, clientRun_stage, (agree_stage sound accepted start.host stands left).resolve rfl]
  · have refused : start.host.acceptsNonce q.nonce AdminAction.nonceAction = false := by simpa using accepted
    rw [selectsRuntime_refused refused, selectsRuntime_refused (by rwa [acceptsNonce_stage])]

theorem unstored_residue : Unstored World.residue := fun _ _ _ _ _ => rfl

theorem unstored_filters : Unstored fun world => world.host.filters := fun _ _ _ _ _ => rfl

theorem intact_setUp (sound : a.Sound start) {stands : Bool} (intact : Intact (a.stage start stands) world) :
    Intact (a.stage start true) ((setUp a.settings.testingPrefix).runIn world).2 := by
  have kept : ((setUp a.settings.testingPrefix).runIn world).2.host.filters = world.host.filters :=
    (unstored_filters.spares _).setUp world
  have again : ((setUp a.settings.testingPrefix).runIn (a.stage start stands)).2 = a.stage start true := by
    cases stands with
    | false => rfl
    | true => exact setUp_setUp sound.lawful
  refine .of_eq (?_ : _ = (a.stage start true).withResidue world.residue) (kept ▸ intact.filters)
  rw [← again, ← setUp_withResidue (sound.lawful_stage stands).tablePrefix, ← intact.same]

/-- Where there was no environment at the start, removing one leads back there. -/
theorem intact_cleanUp (sound : a.Sound start) (bare : Bare a.settings.testingPrefix start) {stands : Bool}
    (intact : Intact (a.stage start stands) world) :
    Intact (a.stage start false) ((cleanUp a.settings.testingPrefix).runIn world).2 := by
  have kept : ((cleanUp a.settings.testingPrefix).runIn world).2.host.filters = world.host.filters :=
    (unstored_filters.spares _).cleanUp world
  have back : ((cleanUp a.settings.testingPrefix).runIn (a.stage start stands)).2 = start := by
    cases stands with
    | false => exact bare.cleanUp sound.lawful
    | true => exact bare.cleanUp_setUp sound.lawful
  have lawful := sound.lawful_stage stands
  refine .of_eq (?_ : _ = start.withResidue world.residue) (kept ▸ intact.filters)
  conv_rhs => rw [← back]
  rw [← cleanUp_withResidue lawful.tablePrefix lawful.sitePrefix, ← intact.same]

/-- Running the checks of a client leaves the stage as it is. -/
theorem intact_run (sound : a.Sound start) {stands : Bool} (intact : Intact (a.stage start stands) world)
    (q : AdminRequest) :
    Intact (a.stage start stands) (((a.clientRun q world.host).execute world).run.release
      ((a.clientRun q world.host).execute world).world) := by
  have returning : Run.Returning (a.stage start stands) (a.clientRun q world.host) world :=
    .ofRequest (fun entry member => (sound.modest entry member).leaves) rfl (sound.lawful_stage stands).tablePrefix intact
  exact ((Run.cycle_returning _).execute returning).release

end Administration

end PluginAudit
