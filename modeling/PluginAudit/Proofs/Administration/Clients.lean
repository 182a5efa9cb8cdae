import PluginAudit.Proofs.Administration.Stages
import PluginAudit.Proofs.Checks.Standard
import PluginAudit.Proofs.Check.Repository
import PluginAudit.Proofs.Run.Modest

/-!
# Requests of several clients

Clients share one site.  Each has an environment set up for its runtime checks, runs its checks
and has the environment removed, and nothing records for whom there is an environment.  Whatever
they ask for, the site is at one of its two stages, apart from a residue.
-/

namespace PluginAudit

open RuntimeEnvironment

variable {start world : World}

namespace World

/-- The numbers that posts and insertions get next. -/
def tally (world : World) : Nat × Nat := (world.host.nextPost, world.host.runtime.insertions)

theorem tally_of_quiet {here there : World} (same : here.quiet = there.quiet) : here.tally = there.tally := by
  have kept (world : World) : world.quiet.tally = world.tally := by
    simp only [tally, quiet, Runtime.recording, Runtime.insertions]
    cases world.host.runtime <;> rfl
  rw [← kept here, same, kept]

end World

namespace Administration

variable {a : Administration} {q : AdminRequest}

/-! ## Requests of several clients -/

section Clients

variable {ι : Type}

/-- Whether there is an environment after a request, where `houses` tells which clients have one set
up and removed. -/
def standsNext (houses : ι → Bool) (stands : Bool) (step : ι × AdminAction) : Bool :=
  match step.2 with
  | .setUpEnvironment => stands || houses step.1
  | .cleanUpEnvironment => stands && !houses step.1
  | .listChecks | .runChecks => stands

/-- Whether there is an environment after the requests of clients. -/
def standsAfter (houses : ι → Bool) (steps : List (ι × AdminAction)) : Bool :=
  steps.foldl (standsNext houses) false

/-- There is an environment once a client has one set up, and no other has it removed since. -/
theorem standsAfter_of_setUp {houses : ι → Bool} {front back : List (ι × AdminAction)} {client : ι}
    (needs : houses client = true) (kept : ∀ step ∈ back, step.2 = .cleanUpEnvironment → houses step.1 = false) :
    standsAfter houses (front ++ (client, .setUpEnvironment) :: back) = true := by
  have stays : back.foldl (standsNext houses) true = true := by
    induction back with
    | nil => rfl
    | cons step rest inductionHypothesis =>
      have next : standsNext houses true step = true := by
        obtain ⟨other, action⟩ := step
        cases action with
        | cleanUpEnvironment => simp [standsNext, kept _ List.mem_cons_self rfl]
        | setUpEnvironment | listChecks | runChecks => rfl
      rw [List.foldl_cons, next]
      exact inductionHypothesis fun later member => kept later (List.mem_cons_of_mem step member)
  simp [standsAfter, standsNext, needs, stays]

/-- The requests of clients in the order they are answered in. -/
def requestsOf (clients : ι → AdminRequest) (steps : List (ι × AdminAction)) : List AdminRequest :=
  steps.map fun step => (clients step.1).asking step.2

/-- The built-in checks can be shared if the linter reads files and is there or not at both stages
of the site. -/
theorem Sound.ofStandard {config : CheckConfig} {environment : EnvironmentType} {linter : Linter}
    (registered : StandardChecks.repository config environment linter = .ok a.repository)
    (lawful : start.host.Lawful) (reads : linter.ReadsFiles)
    (bare : ∀ left, linter.isAvailable (start.withResidue left) = linter.isAvailable start)
    (housed : ∀ left, linter.isAvailable ((start.housed a.settings.testingPrefix).withResidue left) =
      linter.isAvailable start) : a.Sound start where
  lawful := lawful
  distinct := StandardChecks.distinct_of_repository registered
  modest entry member := (StandardChecks.isBuiltIn_of_repository registered entry member).modest reads
  steady entry member :=
    have builtIn := StandardChecks.isBuiltIn_of_repository registered entry member
    ⟨fun left => builtIn.unavailability_congr (bare left), fun left => builtIn.unavailability_congr (housed left)⟩

/-- There was no environment at the start, or none is removed. -/
def Removable (a : Administration) (start : World) (clients : ι → AdminRequest) (steps : List (ι × AdminAction)) :
    Prop :=
  Bare a.settings.testingPrefix start ∨
    ∀ step ∈ steps, step.2 = .cleanUpEnvironment → a.selectsRuntime (clients step.1) start = false

variable {clients : ι → AdminRequest}

theorem intact_handle (sound : a.Sound start) {stands : Bool} (intact : Intact (a.stage start stands) world)
    (step : ι × AdminAction) (removable : a.Removable start clients [step]) :
    Intact (a.stage start (standsNext (fun client => a.selectsRuntime (clients client) start) stands step))
      (a.handle ((clients step.1).asking step.2) world).2 := by
  obtain ⟨client, action⟩ := step
  have selects := selectsRuntime_stage sound (clients client) stands world.residue
  rw [← intact.same] at selects
  have handled := world_handle_asking a (clients client) action world
  dsimp only
  rw [handled, selects]
  cases action with
  | setUpEnvironment =>
    dsimp only [standsNext]
    cases a.selectsRuntime (clients client) start with
    | false => simpa using intact
    | true => simpa using intact_setUp sound intact
  | listChecks => exact intact
  | runChecks =>
    dsimp only [standsNext]
    split
    · exact intact_run sound intact (clients client)
    · exact intact
  | cleanUpEnvironment =>
    dsimp only [standsNext]
    cases selected : a.selectsRuntime (clients client) start with
    | false => simpa using intact
    | true =>
      rcases removable with bare | kept
      · simpa using intact_cleanUp sound bare intact
      · have notSelected := kept _ (List.mem_singleton_self _) rfl
        rw [selected] at notSelected
        cases notSelected

theorem intact_answerAll (sound : a.Sound start) {stands : Bool} (intact : Intact (a.stage start stands) world)
    (steps : List (ι × AdminAction)) (removable : a.Removable start clients steps) :
    Intact (a.stage start
        (steps.foldl (standsNext fun client => a.selectsRuntime (clients client) start) stands))
      (a.answerAll world (requestsOf clients steps)) := by
  induction steps generalizing stands world with
  | nil => exact intact
  | cons step rest inductionHypothesis =>
    have first := intact_handle sound intact step
      (removable.imp_right fun kept => by simpa using kept step List.mem_cons_self)
    exact inductionHypothesis first
      (removable.imp_right fun kept later member => kept later (List.mem_cons_of_mem step member))

/-- Apart from a residue, the site is at one of its two stages after all requests. -/
theorem answerAll_eq_stage (sound : a.Sound start) {steps : List (ι × AdminAction)}
    (removable : a.Removable start clients steps) :
    a.answerAll start (requestsOf clients steps) =
      (a.stage start (standsAfter (fun client => a.selectsRuntime (clients client) start) steps)).withResidue
        (a.answerAll start (requestsOf clients steps)).residue := by
  have first : Intact (a.stage start false) start := .refl sound.lawful
  exact (intact_answerAll sound first steps removable).same

end Clients

/-! ## What requests leave -/

section Runs

variable {number : Nat}

/-- The run of a client admits no other checks than those of the repository. -/
theorem known_of_resolve (sound : a.Sound start) {host : Host} {target : RunTarget}
    (resolved : ((a.clientRun q host).resolve world).outcome = .ok target) :
    target.Known CheckCollection.Distinct ∧ target.Known (CheckCollection.All Check.Modest) :=
  ⟨(Run.Admits.ofRequest CheckCollection.hereditary_distinct sound.distinct (List.forall_mem_nil _) _ _).known resolved,
    (Run.Admits.ofRequest (CheckCollection.hereditary_all _) sound.modest (List.forall_mem_nil _) _ _).known resolved⟩

/-- What running the checks of a client comes to: its target cannot be found out, or it is carried out. -/
theorem world_run_cases (a : Administration) (q : AdminRequest) (world : World) :
    let run := a.clientRun q world.host
    (run.execute world).run.release (run.execute world).world = world ∨
      ∃ target, (run.resolve world).outcome = .ok target ∧
        (run.execute world).run.release (run.execute world).world = ((run.carryOut target).runIn world).2 := by
  intro run
  have spares : ∀ extension ∈ run.extensions, extension.Spares id := List.forall_mem_nil _
  have unchanged : (run.resolve world).world = world := Run.resolve_spares spares world
  cases resolved : (run.resolve world).outcome with
  | error e =>
    left
    rw [(Run.execute_unresolved rfl rfl resolved).2, unchanged]
  | ok target =>
    right
    exact ⟨target, rfl, by rw [(Run.execute_new rfl rfl resolved).2, unchanged]⟩

theorem aged_run (sound : a.Sound start) (aged : world.Aged number) (q : AdminRequest) :
    (((a.clientRun q world.host).execute world).run.release
      ((a.clientRun q world.host).execute world).world).Aged number := by
  rcases world_run_cases a q world with same | ⟨target, resolved, same⟩ <;> rw [same]
  · exact aged
  · exact Run.aged_carryOut (known_of_resolve sound resolved).2 rfl aged

/-- Running static checks leaves nothing behind but records. -/
theorem quiet_run (sound : a.Sound start) (accepted : world.host.acceptsNonce q.nonce AdminAction.nonceAction)
    (static : a.selectsRuntime q world = false) :
    World.quiet (((a.clientRun q world.host).execute world).run.release
      ((a.clientRun q world.host).execute world).world) = world.quiet := by
  rcases world_run_cases a q world with same | ⟨target, resolved, same⟩ <;> rw [same]
  refine Run.quiet_carryOut (known_of_resolve sound resolved).2 ?_ world
  simpa [selectsRuntime, accepted, resolved] using static

end Runs

/-- Setting up for a client with runtime checks leads to the stage with an environment. -/
theorem world_setUp (sound : a.Sound start) (q : AdminRequest) (left : Residue) :
    (a.handle (q.asking .setUpEnvironment) (start.withResidue left)).2 =
      (a.stage start (a.selectsRuntime q start)).withResidue left := by
  have selects : a.selectsRuntime q (start.withResidue left) = a.selectsRuntime q start :=
    selectsRuntime_stage sound q false left
  rw [world_handle_asking]
  dsimp only
  rw [selects]
  split
  · rename_i selected
    rw [selected, setUp_withResidue sound.lawful.tablePrefix]
    rfl
  · rename_i notSelected
    rw [eq_false_of_ne_true notSelected]
    rfl

theorem world_cleanUp (sound : a.Sound start) (selects : a.selectsRuntime q start = true) (stands : Bool)
    (left : Residue) :
    (a.handle (q.asking .cleanUpEnvironment) ((a.stage start stands).withResidue left)).2 =
      ((cleanUp a.settings.testingPrefix).runIn (a.stage start stands)).2.withResidue left := by
  have lawful := sound.lawful_stage stands
  rw [world_handle_asking]
  dsimp only
  rw [selectsRuntime_stage sound, if_pos selects, cleanUp_withResidue lawful.tablePrefix lawful.sitePrefix]

/-- Only running checks leaves anything behind. -/
theorem residue_handle_asking (q : AdminRequest) {action : AdminAction} (other : action ≠ .runChecks)
    (world : World) : (a.handle (q.asking action) world).2.residue = world.residue := by
  rw [world_handle_asking]
  cases action with
  | runChecks => exact absurd rfl other
  | listChecks => rfl
  | setUpEnvironment =>
    dsimp only
    split
    · exact (unstored_residue.spares _).setUp world
    · rfl
  | cleanUpEnvironment =>
    dsimp only
    split
    · exact (unstored_residue.spares _).cleanUp world
    · rfl

section Clients

variable {ι : Type} {clients : ι → AdminRequest} {number : Nat}

theorem residue_answerAll {steps : List (ι × AdminAction)} (others : ∀ step ∈ steps, step.2 ≠ .runChecks)
    (world : World) : (a.answerAll world (requestsOf clients steps)).residue = world.residue := by
  induction steps generalizing world with
  | nil => rfl
  | cons step rest inductionHypothesis =>
    have later := inductionHypothesis (fun other member => others other (List.mem_cons_of_mem step member))
      (a.handle ((clients step.1).asking step.2) world).2
    exact later.trans (residue_handle_asking _ (others step List.mem_cons_self) world)

/-- Running the checks of a client leaves a residue at each stage. -/
theorem world_runChecks (sound : a.Sound start) (q : AdminRequest) (stands : Bool) :
    let ran := (a.handle (q.asking .runChecks) (a.stage start stands)).2
    ran = (a.stage start stands).withResidue ran.residue :=
  (@intact_handle start _ a Unit (fun _ => q) sound stands (.refl (sound.lawful_stage stands)) ((), .runChecks)
    (.inr (by simp))).same

/-- What is left when the environment is removed after a client has run its checks. -/
theorem world_cleanUp_runChecks {q : AdminRequest} {bare : World} (sound : a.Sound start)
    (selects : a.selectsRuntime q start = true)
    (removed : ((cleanUp a.settings.testingPrefix).runIn (a.stage start true)).2 = bare) :
    let ran := (a.handle (q.asking .runChecks) (a.stage start true)).2
    (a.handle (q.asking .cleanUpEnvironment) ran).2 = bare.withResidue ran.residue := by
  intro ran
  have left : ran = (a.stage start true).withResidue ran.residue := world_runChecks sound q true
  have cleaned := world_cleanUp sound selects true ran.residue
  rwa [removed, ← left] at cleaned

/-- Setting up leaves nothing behind but the environment. -/
theorem answerAll_eq_housed (sound : a.Sound start) {steps : List (ι × AdminAction)}
    (removable : a.Removable start clients steps) (others : ∀ step ∈ steps, step.2 ≠ .runChecks)
    (stands : standsAfter (fun client => a.selectsRuntime (clients client) start) steps = true) :
    a.answerAll start (requestsOf clients steps) = start.housed a.settings.testingPrefix := by
  have stage := answerAll_eq_stage sound removable
  have same := stage_spares World.residue unstored_residue a start true
  rwa [stands, residue_answerAll others, ← same, World.withResidue_residue] at stage

theorem aged_answerAll (sound : a.Sound start) (aged : world.Aged number) (steps : List (ι × AdminAction)) :
    (a.answerAll world (requestsOf clients steps)).Aged number := by
  have unstored : Unstored World.numbers := fun _ _ _ _ _ => rfl
  induction steps generalizing world with
  | nil => exact aged
  | cons step rest inductionHypothesis =>
    refine @inductionHypothesis (a.handle ((clients step.1).asking step.2) world).2 ?_
    rw [world_handle_asking]
    cases step.2 with
    | listChecks => exact aged
    | setUpEnvironment =>
      dsimp only
      split
      · exact aged.spared ((unstored.spares _).setUp world)
      · exact aged
    | cleanUpEnvironment =>
      dsimp only
      split
      · exact aged.spared ((unstored.spares _).cleanUp world)
      · exact aged
    | runChecks =>
      dsimp only
      split
      · exact aged_run sound aged _
      · exact aged

/-- Numbers are given to posts only while clients run checks with runtime checks among them. -/
theorem tally_answerAll (sound : a.Sound start) {stands : Bool} (intact : Intact (a.stage start stands) world)
    {steps : List (ι × AdminAction)} (removable : a.Removable start clients steps)
    (static : ∀ step ∈ steps, step.2 = .runChecks → a.selectsRuntime (clients step.1) start = false) :
    (a.answerAll world (requestsOf clients steps)).tally = world.tally := by
  have unstored : Unstored World.tally := fun _ _ _ _ _ => rfl
  induction steps generalizing stands world with
  | nil => rfl
  | cons step rest inductionHypothesis =>
    have first := intact_handle sound intact step
      (removable.imp_right fun kept => by simpa using kept step List.mem_cons_self)
    have others := inductionHypothesis first
      (removable.imp_right fun kept later member => kept later (List.mem_cons_of_mem step member))
      fun later member => static later (List.mem_cons_of_mem step member)
    refine others.trans ?_
    have selects := selectsRuntime_stage sound (clients step.1) stands world.residue
    rw [← intact.same] at selects
    have own := static step List.mem_cons_self
    rw [world_handle_asking]
    cases action : step.2 with
    | listChecks => rfl
    | setUpEnvironment =>
      dsimp only
      split
      · exact (unstored.spares _).setUp world
      · rfl
    | cleanUpEnvironment =>
      dsimp only
      split
      · exact (unstored.spares _).cleanUp world
      · rfl
    | runChecks =>
      dsimp only
      split
      · rename_i accepted
        exact World.tally_of_quiet (quiet_run sound accepted (selects.trans (own action)))
      · rfl

end Clients

end Administration

end PluginAudit
