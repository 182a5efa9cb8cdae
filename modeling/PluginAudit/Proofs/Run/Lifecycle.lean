import PluginAudit.Proofs.Findings
import PluginAudit.Proofs.Run.History
import PluginAudit.Rehearsal

/-!
# What happens while checks are run

The checks of a target are run between their shared preparations.  Here the
order of all that happens then is described as a grammar of events, apart from
the recursions that carry it out: `Lifecycle` says which events there are, in
which order, and which failure is given, and `Happen` that the events follow
each other in the world.
-/

namespace PluginAudit

/-! ## Events -/

/-- Something that happens while checks are run, and what comes of it. -/
inductive RunEvent
  /-- A check is asked for its requests. -/
  | asked (slug : String) (check : Check) (requests : List SharedPreparation)
  /-- A shared preparation is built and made. -/
  | prepared (request : SharedPreparation) (outcome : Except Error Cleanup)
  /-- The preparation of a check's own is made. -/
  | ownPrepared (slug : String) (preparation : Preparation) (outcome : Except Error Cleanup)
  /-- A check is run. -/
  | ran (slug : String) (check : Check) (outcome : CheckOutcome)
  /-- The preparation of a check's own is undone. -/
  | ownUndone (slug : String) (cleanup : Cleanup) (outcome : Except Error Unit)
  /-- A shared preparation is undone. -/
  | undone (request : SharedPreparation) (cleanup : Cleanup) (outcome : Except Error Unit)

namespace RunEvent

/-- An event leads from one world to another. -/
def Happens (context : PluginContext) (world after : World) : RunEvent → Prop
  | asked _ check requests => check.sharedPreparations world.host = requests ∧ world = after
  | prepared request outcome => request.prepare.runIn world = (outcome, after)
  | ownPrepared _ preparation outcome => preparation.runIn world = (outcome, after)
  | ran _ check outcome => check.run context world = (outcome, after)
  | ownUndone _ cleanup outcome => cleanup.run.runIn world = (outcome, after)
  | undone _ cleanup outcome => cleanup.run.runIn world = (outcome, after)

/-- Events follow each other and lead from one world to another. -/
inductive Happen (context : PluginContext) : World → List RunEvent → World → Prop
  | nil {world} : Happen context world [] world
  | cons {world middle after event events} : Happens context world middle event →
      Happen context middle events after → Happen context world (event :: events) after

end RunEvent

/-! ## The order of events -/

/-- The failure that an outcome stands for. -/
def failureOf {α : Type} : Except Error α → Option Error
  | .ok _ => none
  | .error e => some e

/-- Two requests ask for the same. -/
def SharedPreparation.sameKey (a b : SharedPreparation) : Bool := a.key == b.key

/-- Checks are asked in order for their requests, each when those of the checks before it are
granted.  What a check asks for is made in order, unless it was made before; `seen` holds what
was.  This goes on up to the first request that fails.  The requests that were granted are
given with their cleanups. -/
inductive Sharing : List SharedPreparation → List SharedPreparation → List (String × Check) →
    List RunEvent → List (SharedPreparation × Cleanup) → Option Error → Prop
  | done {seen} : Sharing seen [] [] [] [] none
  | asked {seen slug check rest requests events made failure} :
      Sharing seen requests rest events made failure →
      Sharing seen [] ((slug, check) :: rest) (.asked slug check requests :: events) made failure
  | known {seen request requests rest events made failure} : seen.any request.sameKey →
      Sharing seen requests rest events made failure →
      Sharing seen (request :: requests) rest events made failure
  | made {seen request requests rest events made failure} (cleanup : Cleanup) :
      ¬ seen.any request.sameKey → Sharing (request :: seen) requests rest events made failure →
      Sharing seen (request :: requests) rest (.prepared request (.ok cleanup) :: events)
        ((request, cleanup) :: made) failure
  | failed {seen request requests rest} (e : Error) : ¬ seen.any request.sameKey →
      Sharing seen (request :: requests) rest [.prepared request (.error e)] [] (some e)

/-- A check is run, between its own preparation and its cleanup if it has one.
A failure of its run counts for more than one of its cleanup. -/
inductive Attempt (slug : String) (check : Check) : List RunEvent → List Finding → Option Error →
    Prop
  | plain (outcome : CheckOutcome) : check.preparation = none →
      Attempt slug check [.ran slug check outcome] outcome.findings
        (outcome.failure.map (.checkFailed slug))
  | unprepared {preparation} (e : Error) : check.preparation = some preparation →
      Attempt slug check [.ownPrepared slug preparation (.error e)] [] (some e)
  | between {preparation} (cleanup : Cleanup) (outcome : CheckOutcome)
      (undone : Except Error Unit) : check.preparation = some preparation →
      Attempt slug check
        [.ownPrepared slug preparation (.ok cleanup), .ran slug check outcome,
          .ownUndone slug cleanup undone]
        outcome.findings ((outcome.failure.map (.checkFailed slug)).or (failureOf undone))

/-- Checks are run in order, up to the first that fails. -/
inductive Checking : List (String × Check) → List RunEvent → List Finding → Option Error → Prop
  | done : Checking [] [] [] none
  | next {slug check rest events later found more failure} :
      Attempt slug check events found none → Checking rest later more failure →
      Checking ((slug, check) :: rest) (events ++ later) (found ++ more) failure
  | broken {slug check rest events found e} : Attempt slug check events found (some e) →
      Checking ((slug, check) :: rest) events found (some e)

/-- All of some shared preparations are undone in order, and the first failure
is given. -/
inductive Undoing : List (SharedPreparation × Cleanup) → List RunEvent → Option Error → Prop
  | done : Undoing [] [] none
  | next {request cleanup rest events failure} (outcome : Except Error Unit) :
      Undoing rest events failure →
      Undoing ((request, cleanup) :: rest) (.undone request cleanup outcome :: events)
        ((failureOf outcome).or failure)

/-- What happens while checks are run with the shared preparations they request.
If these cannot be made, no check is run.  Whatever fails, all that were made
are undone in reverse order. -/
inductive Lifecycle (entries : List (String × Check)) :
    List RunEvent → List Finding → Option Error → Prop
  | unshared {shared made undone e failure} : Sharing [] [] entries shared made (some e) →
      Undoing made.reverse undone failure →
      Lifecycle entries (shared ++ undone) [] (some e)
  | checked {shared made checked found broken undone failure} :
      Sharing [] [] entries shared made none → Checking entries checked found broken →
      Undoing made.reverse undone failure →
      Lifecycle entries (shared ++ checked ++ undone) found (broken.or failure)

variable {context : PluginContext} {world middle after : World}

namespace RunEvent.Happen

theorem single {event : RunEvent} (happens : Happens context world after event) :
    Happen context world [event] after := .cons happens .nil

theorem append {events later : List RunEvent} (first : Happen context world events middle)
    (second : Happen context middle later after) : Happen context world (events ++ later) after := by
  induction first with
  | nil => exact second
  | cons happens _ inductionHypothesis => exact .cons happens (inductionHypothesis second)

theorem append_inv {events later : List RunEvent}
    (happen : Happen context world (events ++ later) after) :
    ∃ middle, Happen context world events middle ∧ Happen context middle later after := by
  induction events generalizing world with
  | nil => exact ⟨world, .nil, happen⟩
  | cons event rest inductionHypothesis =>
    cases happen with
    | cons happens others =>
      obtain ⟨middle, first, second⟩ := inductionHypothesis others
      exact ⟨middle, .cons happens first, second⟩

end RunEvent.Happen

open RunEvent (Happen Happens)

/-! ## Events are determined

Nothing is left open but what comes of the events, and that is found out from
the world one after the other. -/

variable {events events' : List RunEvent} {after' : World} {failure failure' : Option Error}

theorem RunEvent.Happens.deterministic {event : RunEvent}
    (first : Happens context world after event) (second : Happens context world after' event) :
    after = after' := by
  cases event with
  | asked => exact first.2.symm.trans second.2
  | _ => exact congrArg Prod.snd (first.symm.trans second)

theorem RunEvent.Happen.deterministic (first : Happen context world events after)
    (second : Happen context world events after') : after = after' := by
  induction first with
  | nil =>
    cases second
    rfl
  | cons happens _ inductionHypothesis =>
    cases second with
    | cons happens' rest =>
      obtain rfl := happens.deterministic happens'
      exact inductionHypothesis rest

theorem Sharing.deterministic {seen requests : List SharedPreparation} {entries : List (String × Check)}
    {made made' : List (SharedPreparation × Cleanup)}
    (first : Sharing seen requests entries events made failure)
    (second : Sharing seen requests entries events' made' failure')
    (happen : Happen context world events after) (happen' : Happen context world events' after') :
    events = events' ∧ made = made' ∧ failure = failure' := by
  induction first generalizing world events' made' with
  | done =>
    cases second
    exact ⟨rfl, rfl, rfl⟩
  | asked _ inductionHypothesis =>
    rcases happen with _ | ⟨⟨rfl, rfl⟩, rest⟩
    cases second with
    | asked others =>
      rcases happen' with _ | ⟨⟨rfl, rfl⟩, rest'⟩
      obtain ⟨rfl, rfl, rfl⟩ := inductionHypothesis others rest rest'
      exact ⟨rfl, rfl, rfl⟩
  | known old _ inductionHypothesis =>
    cases second with
    | known _ others => exact inductionHypothesis others happen happen'
    | made _ new _ => exact absurd old new
    | failed _ new => exact absurd old new
  | made cleanup new _ inductionHypothesis =>
    rcases happen with _ | ⟨happens, rest⟩
    -- the outcome of making it decides which case the other one is in
    cases second with
    | known old _ => exact absurd old new
    | made cleanup' _ others =>
      rcases happen' with _ | ⟨happens', rest'⟩
      obtain ⟨sameCleanup, rfl⟩ := Prod.mk.inj (happens.symm.trans happens')
      obtain rfl := Except.ok.inj sameCleanup
      obtain ⟨rfl, rfl, rfl⟩ := inductionHypothesis others rest rest'
      exact ⟨rfl, rfl, rfl⟩
    | failed e _ =>
      rcases happen' with _ | ⟨happens', -⟩
      cases happens.symm.trans happens'
  | failed e new =>
    rcases happen with _ | ⟨happens, -⟩
    cases second with
    | known old _ => exact absurd old new
    | made cleanup' _ _ =>
      rcases happen' with _ | ⟨happens', -⟩
      cases happens.symm.trans happens'
    | failed e' _ =>
      rcases happen' with _ | ⟨happens', -⟩
      cases happens.symm.trans happens'
      exact ⟨rfl, rfl, rfl⟩

theorem Attempt.deterministic {slug : String} {check : Check} {found found' : List Finding}
    (first : Attempt slug check events found failure)
    (second : Attempt slug check events' found' failure')
    (happen : Happen context world events after) (happen' : Happen context world events' after') :
    events = events' ∧ found = found' ∧ failure = failure' := by
  cases first with
  | plain outcome own =>
    cases second with
    | plain outcome' _ =>
      rcases happen with _ | ⟨ran, -⟩
      rcases happen' with _ | ⟨ran', -⟩
      cases ran.symm.trans ran'
      exact ⟨rfl, rfl, rfl⟩
    | unprepared e' own' => cases own.symm.trans own'
    | between cleanup' outcome' undone' own' => cases own.symm.trans own'
  | unprepared e own =>
    rcases happen with _ | ⟨made, -⟩
    cases second with
    | plain outcome' own' => cases own'.symm.trans own
    | unprepared e' own' =>
      rcases happen' with _ | ⟨made', -⟩
      cases own.symm.trans own'
      cases made.symm.trans made'
      exact ⟨rfl, rfl, rfl⟩
    | between cleanup' outcome' undone' own' =>
      rcases happen' with _ | ⟨made', -⟩
      cases own.symm.trans own'
      cases made.symm.trans made'
  | between cleanup outcome undone own =>
    rcases happen with _ | ⟨made, _ | ⟨ran, _ | ⟨undid, -⟩⟩⟩
    cases second with
    | plain outcome' own' => cases own'.symm.trans own
    | unprepared e' own' =>
      rcases happen' with _ | ⟨made', -⟩
      cases own.symm.trans own'
      cases made.symm.trans made'
    | between cleanup' outcome' undone' own' =>
      rcases happen' with _ | ⟨made', _ | ⟨ran', _ | ⟨undid', -⟩⟩⟩
      cases own.symm.trans own'
      cases made.symm.trans made'
      cases ran.symm.trans ran'
      cases undid.symm.trans undid'
      exact ⟨rfl, rfl, rfl⟩

theorem Checking.deterministic {entries : List (String × Check)} {found found' : List Finding}
    (first : Checking entries events found failure)
    (second : Checking entries events' found' failure')
    (happen : Happen context world events after) (happen' : Happen context world events' after') :
    events = events' ∧ found = found' ∧ failure = failure' := by
  induction first generalizing world events' found' with
  | done =>
    cases second
    exact ⟨rfl, rfl, rfl⟩
  | next attempt _ inductionHypothesis =>
    obtain ⟨middle, before, behind⟩ := happen.append_inv
    cases second with
    | next attempt' others =>
      obtain ⟨middle', before', behind'⟩ := happen'.append_inv
      obtain ⟨rfl, rfl, -⟩ := attempt.deterministic attempt' before before'
      obtain rfl := before.deterministic before'
      obtain ⟨rfl, rfl, rfl⟩ := inductionHypothesis others behind behind'
      exact ⟨rfl, rfl, rfl⟩
    | broken attempt' => cases (attempt.deterministic attempt' before happen').2.2
  | broken attempt =>
    cases second with
    | next attempt' _ =>
      obtain ⟨middle', before', -⟩ := happen'.append_inv
      cases (attempt.deterministic attempt' happen before').2.2
    | broken attempt' => exact attempt.deterministic attempt' happen happen'

theorem Undoing.deterministic {made : List (SharedPreparation × Cleanup)}
    (first : Undoing made events failure) (second : Undoing made events' failure')
    (happen : Happen context world events after) (happen' : Happen context world events' after') :
    events = events' ∧ failure = failure' := by
  induction first generalizing world events' failure' with
  | done =>
    cases second
    exact ⟨rfl, rfl⟩
  | next outcome _ inductionHypothesis =>
    rcases happen with _ | ⟨undone, rest⟩
    cases second with
    | next outcome' others =>
      rcases happen' with _ | ⟨undone', rest'⟩
      cases undone.symm.trans undone'
      obtain ⟨rfl, rfl⟩ := inductionHypothesis others rest rest'
      exact ⟨rfl, rfl⟩

/-- Of the lifecycles of given checks, only one can happen from a world on. -/
theorem Lifecycle.deterministic {entries : List (String × Check)} {found found' : List Finding}
    (first : Lifecycle entries events found failure)
    (second : Lifecycle entries events' found' failure')
    (happen : Happen context world events after) (happen' : Happen context world events' after') :
    events = events' ∧ found = found' ∧ failure = failure' := by
  cases first with
  | unshared sharing undoing =>
    obtain ⟨middle, before, behind⟩ := happen.append_inv
    cases second with
    | unshared sharing' undoing' =>
      obtain ⟨middle', before', behind'⟩ := happen'.append_inv
      obtain ⟨rfl, rfl, sameFailure⟩ := sharing.deterministic sharing' before before'
      obtain rfl := before.deterministic before'
      obtain ⟨rfl, -⟩ := undoing.deterministic undoing' behind behind'
      exact ⟨rfl, rfl, sameFailure⟩
    | checked sharing' _ _ =>
      obtain ⟨_, sharedFirst, -⟩ := happen'.append_inv
      obtain ⟨_, before', -⟩ := sharedFirst.append_inv
      cases (sharing.deterministic sharing' before before').2.2
  | checked sharing checking undoing =>
    obtain ⟨checked, sharedFirst, behind⟩ := happen.append_inv
    obtain ⟨shared, before, between⟩ := sharedFirst.append_inv
    cases second with
    | unshared sharing' _ =>
      obtain ⟨_, before', -⟩ := happen'.append_inv
      cases (sharing.deterministic sharing' before before').2.2
    | checked sharing' checking' undoing' =>
      obtain ⟨checked', sharedFirst', behind'⟩ := happen'.append_inv
      obtain ⟨shared', before', between'⟩ := sharedFirst'.append_inv
      obtain ⟨rfl, rfl, -⟩ := sharing.deterministic sharing' before before'
      obtain rfl := before.deterministic before'
      obtain ⟨rfl, rfl, rfl⟩ := checking.deterministic checking' between between'
      obtain rfl := between.deterministic between'
      obtain ⟨rfl, rfl⟩ := undoing.deterministic undoing' behind behind'
      exact ⟨rfl, rfl, rfl⟩

/-! ## Requests -/

/-- What checks were asked for, in order. -/
def RunEvent.requests : RunEvent → List SharedPreparation
  | .asked _ _ requests => requests
  | _ => []

theorem Sharing.eraseDupsBy_loop {seen requests : List SharedPreparation} {entries : List (String × Check)}
    {made : List (SharedPreparation × Cleanup)}
    (sharing : Sharing seen requests entries events made none) :
    List.eraseDupsBy.loop SharedPreparation.sameKey (requests ++ events.flatMap RunEvent.requests) seen =
      seen.reverse ++ made.map Prod.fst := by
  generalize success : (none : Option Error) = failure at sharing
  induction sharing with
  | done => simp [List.eraseDupsBy.loop]
  | asked _ inductionHypothesis => exact inductionHypothesis success
  | known old _ inductionHypothesis =>
    rw [List.cons_append, List.eraseDupsBy.loop, old]
    exact inductionHypothesis success
  | made cleanup new _ inductionHypothesis =>
    rw [List.cons_append, List.eraseDupsBy.loop, Bool.eq_false_iff.mpr new]
    simpa [RunEvent.requests] using inductionHypothesis success
  | failed => cases success

/-- Of the requests that ask for the same, the first is granted, and no other. -/
theorem Sharing.made_eq_eraseDupsBy {entries : List (String × Check)}
    {made : List (SharedPreparation × Cleanup)} (sharing : Sharing [] [] entries events made none) :
    made.map Prod.fst = (events.flatMap RunEvent.requests).eraseDupsBy SharedPreparation.sameKey :=
  sharing.eraseDupsBy_loop.symm

/-! ## What is carried out -/

/-- Cleanups that are carried out in order are events of their own. -/
theorem Cleanup.runAll_undoing (context : PluginContext)
    (made : List (SharedPreparation × Cleanup)) (world : World) :
    ∃ events failure, Undoing made events failure ∧
      Happen context world events ((runAll (made.map Prod.snd)).runIn world).2 ∧
      failureOf ((runAll (made.map Prod.snd)).runIn world).1 = failure := by
  induction made generalizing world with
  | nil => exact ⟨[], none, .done, .nil, rfl⟩
  | cons entry rest inductionHypothesis =>
    obtain ⟨request, cleanup⟩ := entry
    obtain ⟨events, failure, undoing, happen, given⟩ :=
      inductionHypothesis (cleanup.run.runIn world).2
    refine ⟨_, _, .next (cleanup.run.runIn world).1 undoing, ?_, ?_⟩
    · rw [List.map_cons, runIn_runAll_cons]
      exact .cons (show _ = _ from rfl) happen
    · rw [List.map_cons, runIn_runAll_cons, ← given]
      rcases cleanup.run.runIn world with ⟨_ | _, _⟩ <;> rfl

namespace Shared

theorem combined_undoing (context : PluginContext) (made : List (SharedPreparation × Cleanup))
    (world : World) :
    ∃ events failure, Undoing made.reverse events failure ∧
      Happen context world events ((combined (made.map Prod.snd)).run.runIn world).2 ∧
      failureOf ((combined (made.map Prod.snd)).run.runIn world).1 = failure := by
  have undone := Cleanup.runAll_undoing context made.reverse world
  rwa [List.map_reverse] at undone

/-- The shared preparations that were granted so far. -/
def ofGranted (granted : List (SharedPreparation × Cleanup)) : Shared :=
  ⟨granted.reverse.map fun entry => entry.1.key, granted.map Prod.snd⟩

theorem ofGranted_append (granted : List (SharedPreparation × Cleanup)) (request : SharedPreparation)
    (cleanup : Cleanup) :
    ofGranted (granted ++ [(request, cleanup)]) =
      ⟨request.key :: (ofGranted granted).seen, (ofGranted granted).made ++ [cleanup]⟩ := by
  simp [ofGranted]

theorem contains_seen_ofGranted (granted : List (SharedPreparation × Cleanup))
    (request : SharedPreparation) :
    (ofGranted granted).seen.contains request.key =
      (granted.reverse.map Prod.fst).any request.sameKey := by
  rw [List.contains_eq_any_beq, ofGranted, List.any_map, List.any_map]
  rfl

/-- Make what is left of a check's requests, then those of the checks behind it. -/
def resume (shared : Shared) (requests : List SharedPreparation) (entries : List (String × Check)) :
    Act Shared := do
  let shared ← shared.grant requests
  shared.serve entries

variable {shared : Shared} {requests : List SharedPreparation} {entries : List (String × Check)}

theorem resume_nil (slug : String) (check : Check) (world : World) :
    (shared.resume [] ((slug, check) :: entries)).runIn world =
      (shared.resume (check.sharedPreparations world.host) entries).runIn world := by
  unfold resume
  rw [Act.runIn_bind, Act.runIn_bind, grant, Act.runIn_pure]
  dsimp only
  rw [Act.runIn_eq, serve]
  dsimp only
  rcases (shared.grant (check.sharedPreparations world.host)).runIn world with ⟨_ | _, _⟩ <;> rfl

theorem resume_cons_seen {request : SharedPreparation} (old : shared.seen.contains request.key)
    (world : World) :
    (shared.resume (request :: requests) entries).runIn world =
      (shared.resume requests entries).runIn world := by
  simp only [resume, grant, old, if_true]

theorem resume_cons_new {request : SharedPreparation} (new : ¬ shared.seen.contains request.key)
    (world : World) :
    (shared.resume (request :: requests) entries).runIn world =
      match request.prepare.runIn world with
      | (.ok cleanup, after) =>
          (Shared.resume ⟨request.key :: shared.seen, shared.made ++ [cleanup]⟩ requests entries).runIn after
      | (.error e, after) => (.error e, ((combined shared.made).release.runIn after).2) := by
  unfold resume
  rw [Act.runIn_bind, grant, if_neg new, Act.runIn_eq]
  rcases request.prepare.runIn world with ⟨e | cleanup, after⟩
  · rfl
  · dsimp only
    rw [Act.runIn_bind]
    rfl

/-- Going on with shared preparations is sharing, behind what was granted before. -/
def Shares (context : PluginContext) (requests : List SharedPreparation) (entries : List (String × Check)) :
    Prop :=
  ∀ (before : List (SharedPreparation × Cleanup)) (world : World), ∃ events made failure prepared,
    Sharing (before.reverse.map Prod.fst) requests entries events made failure ∧
    Happen context world events prepared ∧
    ((ofGranted before).resume requests entries).runIn world =
      match failure with
      | none => (.ok (ofGranted (before ++ made)), prepared)
      | some e => (.error e, ((combined ((before ++ made).map Prod.snd)).run.runIn prepared).2)

theorem Shares.done : Shares context [] [] := by
  intro before world
  exact ⟨[], [], none, world, .done, .nil, by rw [List.append_nil]; rfl⟩

theorem Shares.asked (slug : String) (check : Check)
    (later : ∀ requests, Shares context requests entries) : Shares context [] ((slug, check) :: entries) := by
  intro before world
  obtain ⟨events, made, failure, prepared, sharing, happen, ran⟩ :=
    later (check.sharedPreparations world.host) before world
  exact ⟨_, made, failure, prepared, .asked sharing, .cons ⟨rfl, rfl⟩ happen, by rw [resume_nil, ran]⟩

theorem Shares.requested (request : SharedPreparation) (later : Shares context requests entries) :
    Shares context (request :: requests) entries := by
  intro before world
  by_cases old : (ofGranted before).seen.contains request.key
  · obtain ⟨events, made, failure, prepared, sharing, happen, ran⟩ := later before world
    rw [← resume_cons_seen old] at ran
    rw [contains_seen_ofGranted] at old
    exact ⟨events, made, failure, prepared, .known old sharing, happen, ran⟩
  · have went := @resume_cons_new _ requests entries _ old world
    rw [contains_seen_ofGranted] at old
    rcases granted : request.prepare.runIn world with ⟨e | cleanup, middle⟩ <;> rw [granted] at went
    · exact ⟨_, [], some e, middle, .failed e old, .single granted, by rw [List.append_nil]; exact went⟩
    · obtain ⟨events, made, failure, prepared, sharing, happen, ran⟩ :=
        later (before ++ [(request, cleanup)]) middle
      rw [List.append_assoc, ofGranted_append] at ran
      rw [List.reverse_append, List.map_append] at sharing
      exact ⟨_, _, failure, prepared, .made cleanup old sharing, .cons granted happen, went.trans ran⟩

theorem shares (context : PluginContext) (requests : List SharedPreparation)
    (entries : List (String × Check)) : Shares context requests entries := by
  induction entries generalizing requests with
  | nil =>
    induction requests with
    | nil => exact .done
    | cons request rest inductionHypothesis => exact inductionHypothesis.requested request
  | cons entry others later =>
    induction requests with
    | nil => exact .asked entry.1 entry.2 later
    | cons request rest inductionHypothesis => exact inductionHypothesis.requested request

theorem prepareAll_sharing (context : PluginContext) (checks : CheckCollection) (world : World) :
    ∃ events made failure prepared, Sharing [] [] checks.entries events made failure ∧
      Happen context world events prepared ∧
      (prepareAll checks).runIn world =
        match failure with
        | none => (.ok (combined (made.map Prod.snd)), prepared)
        | some e => (.error e, ((combined (made.map Prod.snd)).run.runIn prepared).2) := by
  obtain ⟨events, made, failure, prepared, sharing, happen, ran⟩ :=
    shares context [] checks.entries [] world
  refine ⟨events, made, failure, prepared, sharing, happen, ?_⟩
  have served : (serve {} checks.entries).runIn world =
      ((ofGranted []).resume [] checks.entries).runIn world := rfl
  unfold prepareAll
  rw [Act.runIn_bind, served, ran]
  cases failure <;> rfl

end Shared

namespace Audit

/-- Running a check is an attempt at it. -/
theorem runCheck_attempt (slug : String) (check : Check) (findings : Findings) (world : World) :
    ∃ events found failure after, Attempt slug check events found failure ∧
      Happen findings.context world events after ∧
      runCheck slug check findings world = ((findings.addAll found, failure), after) := by
  unfold runCheck
  cases own : check.preparation with
  | none => exact ⟨_, _, _, _, .plain _ own, .single rfl, rfl⟩
  | some preparation =>
    dsimp only
    rcases made : preparation.runIn world with ⟨e | cleanup, prepared⟩
    · exact ⟨_, _, _, _, .unprepared e own, .single made, rfl⟩
    · rcases ran : check.run findings.context prepared with ⟨outcome, checked⟩
      rcases undone : cleanup.run.runIn checked with ⟨undoing, after⟩
      refine ⟨_, _, _, after, .between cleanup outcome undoing own,
        .cons made (.cons ran (.single undone)), ?_⟩
      simp only [runPlain, ran, undone]
      cases outcome.failure <;> cases undoing <;> rfl

/-- Running checks is checking them in order. -/
theorem runEntries_checking (entries : List (String × Check)) (findings : Findings)
    (world : World) :
    ∃ events found failure after, Checking entries events found failure ∧
      Happen findings.context world events after ∧
      runEntries findings world entries = ((findings.addAll found, failure), after) := by
  induction entries generalizing findings world with
  | nil => exact ⟨[], [], none, world, .done, .nil, rfl⟩
  | cons entry rest inductionHypothesis =>
    obtain ⟨slug, check⟩ := entry
    obtain ⟨events, found, failure, middle, attempt, happen, ran⟩ :=
      runCheck_attempt slug check findings world
    simp only [runEntries, ran]
    cases failure with
    | some e => exact ⟨events, found, some e, middle, .broken attempt, happen, rfl⟩
    | none =>
      obtain ⟨later, more, failure, after, checking, laterHappen, others⟩ :=
        inductionHypothesis (findings.addAll found) middle
      rw [Findings.context_addAll] at laterHappen
      rw [← Findings.addAll_append] at others
      exact ⟨_, _, failure, after, .next attempt checking, happen.append laterHappen, others⟩

end Audit

namespace Run

/-- The outcome of running checks that gave findings and perhaps failed. -/
def given (findings : Findings) : Option Error → Except Error Findings
  | none => .ok findings
  | some e => .error e

/-- The checks of a target are looked up by their slugs, of which no two are the same. -/
theorem runIn_runChecks_known {target : RunTarget} (known : target.Known CheckCollection.Distinct) (world : World) :
    (runChecks target).runIn world =
      let ran := Audit.runEntries (.none target.audit.context) world target.selected.entries
      (given ran.1.1 ran.1.2, ran.2) := by
  obtain ⟨all, available, distinct, among⟩ := known.available
  have slugs : Audit.runSlugs all [] (.none target.audit.context) world target.selected.slugs =
      Audit.runEntries (.none target.audit.context) world target.selected.entries :=
    Audit.runSlugs_eq_runEntries distinct among (by simp) _ _
  rw [runIn_runChecks available, slugs]
  rcases Audit.runEntries _ _ _ with ⟨⟨findings, _ | e⟩, after⟩ <;> rfl

/-- Running the checks of a target with their shared preparations goes through a
lifecycle. -/
theorem runShared_lifecycle {target : RunTarget}
    (known : target.Known CheckCollection.Distinct) (world : World) :
    ∃ events found failure,
      Lifecycle target.selected.entries events found failure ∧
      Happen target.audit.context world events ((runShared target).runIn world).2 ∧
      ((runShared target).runIn world).1 =
        given ((Findings.none target.audit.context).addAll found) failure := by
  obtain ⟨shared, made, failure, prepared, sharing, sharedHappen, made_eq⟩ :=
    Shared.prepareAll_sharing target.audit.context target.selected world
  obtain ⟨checked, found, broken, after, checking, checkedHappen, checks_eq⟩ :=
    Audit.runEntries_checking target.selected.entries (.none target.audit.context) prepared
  unfold runShared
  rw [Act.runIn_eq]
  rw [made_eq]
  cases failure with
  | some e =>
    -- no check is run, and the failure of a cleanup is passed over
    obtain ⟨undone, _, undoing, undoneHappen, -⟩ :=
      Shared.combined_undoing target.audit.context made prepared
    exact ⟨_, [], some e, .unshared sharing undoing, sharedHappen.append undoneHappen, rfl⟩
  | none =>
    obtain ⟨undone, undoFailure, undoing, undoneHappen, undo_eq⟩ :=
      Shared.combined_undoing target.audit.context made after
    have ran : (runChecks target).runIn prepared =
        (given (Findings.addAll (.none target.audit.context) found) broken, after) := by
      rw [runIn_runChecks_known known, checks_eq]
    refine ⟨_, found, _, .checked sharing checking undoing,
      (sharedHappen.append checkedHappen).append ?_, ?_⟩
    · dsimp only
      rw [Cleanup.runIn_guarded, ran]
      exact undoneHappen
    · dsimp only
      rw [Cleanup.runIn_guarded, ran, ← undo_eq]
      cases broken <;>
        rcases (Shared.combined (made.map Prod.snd)).run.runIn after with ⟨_ | _, _⟩ <;>
          rfl

/-- Events are those of executing a run that can be prepared: the lifecycle of the
checks of its target.  After them the preparations are undone.  The first of the
failures is given, else the findings of all checks in order. -/
def Executes (r : Run) (world : World) (target : RunTarget) (events : List RunEvent) : Prop :=
  let ready := r.prepare world
  let pending := ready.run.cleanup.getD .noop
  ready.run.target = some target ∧
    ∃ found failure checked, Lifecycle target.selected.entries events found failure ∧
      Happen target.audit.context ready.world events checked ∧
      (r.execute world).world = (pending.run.runIn checked).2 ∧
      (r.execute world).outcome = given ((Findings.none target.audit.context).addAll found)
        (failure.or (failureOf (pending.run.runIn checked).1))

theorem exists_executes {r : Run} (admits : r.Admits CheckCollection.Distinct) {world : World}
    (prepared : (r.prepare world).outcome = .ok ()) :
    ∃ target events, (r.resolve world).outcome = .ok target ∧ r.Executes world target events := by
  rcases ran : r.prepare world with ⟨outcome, ready, middle⟩
  rw [ran] at prepared
  obtain rfl : outcome = .ok () := prepared
  obtain ⟨target, resolved, known, executed⟩ := execute_of_prepare ran
  obtain ⟨events, found, failure, lifecycle, happen, shared⟩ :=
    runShared_lifecycle (admits.known resolved) middle
  rw [Cleanup.runIn_guarded, shared, Prod.mk.injEq] at executed
  unfold Executes
  rw [ran]
  refine ⟨target, events, resolved, known, found, failure, _, lifecycle, happen, executed.2.symm, ?_⟩
  rw [← executed.1]
  dsimp only
  cases failure <;>
    rcases (ready.cleanup.getD .noop).run.runIn _ with ⟨_ | _, _⟩ <;> rfl

/-- An execution has one target, and only one sequence of events. -/
theorem Executes.unique {r : Run} {world : World} {target target' : RunTarget}
    {events events' : List RunEvent} (first : r.Executes world target events)
    (second : r.Executes world target' events') : target = target' ∧ events = events' := by
  obtain ⟨known, _, _, _, lifecycle, happen, -⟩ := first
  obtain ⟨known', _, _, _, lifecycle', happen', -⟩ := second
  obtain rfl := Option.some.inj (known.symm.trans known')
  exact ⟨rfl, (lifecycle.deterministic lifecycle' happen happen').1⟩

/-- After every history of calls, an execution that gets past preparing the site
goes through exactly the events of its lifecycle in order. -/
theorem execute_lifecycle (repository : CheckRepository) (request : RunRequest)
    (settings : RunSettings) (extensions : List Extension) (world : World) (calls : List RunCall)
    (distinct : ((repository.staticChecks ++ repository.runtimeChecks).map Prod.fst).Nodup)
    (keeping : ∀ extension ∈ extensions, extension.Keeps CheckCollection.Distinct) :
    let s := (RunCall.performAll
      ⟨Run.ofRequest repository request settings extensions, world⟩ calls).2
    (s.run.prepare s.world).outcome = .ok () →
      ∃ target events, s.run.Executes s.world target events ∧
        ∀ target' events', s.run.Executes s.world target' events' →
          target' = target ∧ events' = events := by
  intro s prepared
  have admits := admits_performAll CheckCollection.hereditary_distinct distinct keeping request
    settings world calls
  obtain ⟨target, events, -, executes⟩ := exists_executes admits prepared
  exact ⟨target, events, executes, fun _ _ others => others.unique executes⟩

/-- Two checks that request the same, of which the second breaks although its own
preparation is made, and a cleanup that fails. -/
theorem execute_lifecycle_rehearsed :
    let posts : RehearsedPreparation := { name := "posts", failsToCleanUp := true }
    let users : RehearsedPreparation := { name := "users" }
    let first : Check :=
      { categories := [.general]
        sharedPreparations := fun _ => [posts.shared (.text "posts"), users.shared (.text "users")]
        run := fun _ => Rehearsal.run "first" none false }
    let second : Check :=
      { categories := [.general]
        sharedPreparations := fun _ => [posts.shared (.text "posts")]
        preparation := some users.prepare
        run := fun _ => Rehearsal.run "second" none true }
    let repository : CheckRepository := ⟨[("first", first), ("second", second)], []⟩
    let request : RunRequest := { isPluginCheck := true, plugin := some "foo/foo.php" }
    let world : World :=
      { disk := .empty
        host := .simulated ⟨"site"⟩ { plugins := [("foo/foo.php", default)] } }
    let s := (RunCall.performAll ⟨Run.ofRequest repository request {} [], world⟩ [.checksToRun]).2
    ∃ target events, s.run.Executes s.world target events ∧
      ∀ target' events', s.run.Executes s.world target' events' →
        target' = target ∧ events' = events :=
  execute_lifecycle _ _ _ _ _ _ (by decide) (by simp) rfl

end Run

end PluginAudit
