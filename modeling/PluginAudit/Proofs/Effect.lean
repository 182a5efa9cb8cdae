import PluginAudit.Run.Shared

/-!
# What actions do to the world

How actions that are put together run, and which of them spare a part of the
world.  A part is given by a `view`: an action spares it if the view of the
world is the same afterwards, whether the action succeeded or not.
-/

namespace PluginAudit

variable {α β γ : Type}

/-! ## Running composed actions -/

namespace Act

/-- An action that is written as a function of the world is carried out by
applying it. -/
theorem runIn_eq (action : Act α) (world : World) : action.runIn world = action world := rfl

@[simp] theorem runIn_pure (value : α) (world : World) :
    (pure value : Act α).runIn world = (.ok value, world) := rfl

@[simp] theorem runIn_get (world : World) : (get : Act World).runIn world = (.ok world, world) :=
  rfl

@[simp] theorem runIn_liftM (value : Except Error α) (world : World) :
    (liftM value : Act α).runIn world = (value, world) := by
  cases value <;> rfl

theorem runIn_bind (action : Act α) (next : α → Act β) (world : World) :
    (action >>= next).runIn world =
      match action.runIn world with
      | (.ok value, after) => (next value).runIn after
      | (.error e, after) => (.error e, after) := by
  unfold runIn Act.outcome ExceptT.run StateT.run
  simp only [Bind.bind, ExceptT.bind, ExceptT.mk, StateT.bind, ExceptT.bindCont]
  cases action world with
  | mk outcome after => cases outcome <;> rfl

@[simp] theorem runIn_onHost (change : Host → Host) (world : World) :
    (onHost change).runIn world = (.ok (), { world with host := change world.host }) := rfl

theorem runIn_tryHost (change : Host → Except Error Host) (world : World) :
    (tryHost change).runIn world =
      match change world.host with
      | .ok host => (.ok (), { world with host })
      | .error e => (.error e, world) := rfl

@[simp] theorem runIn_askHost (change : Host → Host × Except Error α) (world : World) :
    (askHost change).runIn world =
      ((change world.host).2, { world with host := (change world.host).1 }) := rfl

/-! ## Sparing a part of the world -/

/-- An action that leaves a view of the world as it is. -/
def Spares (view : World → γ) (action : Act α) : Prop :=
  ∀ world, view (action.runIn world).2 = view world

end Act

variable {view : World → γ}

/-- A preparation that leaves a view as it is, when it is made and when it is
undone. -/
structure Preparation.Spares (view : World → γ) (p : Preparation) : Prop where
  making : Act.Spares view p
  undoing : ∀ {world after cleanup}, p.runIn world = (.ok cleanup, after) →
    Act.Spares view cleanup.run

/-- A shared preparation that leaves a view as it is, when it is built and
then. -/
structure SharedPreparation.Spares (view : World → γ) (s : SharedPreparation) : Prop where
  building : Act.Spares view (s.build s.arguments)
  built : ∀ {world after p}, (s.build s.arguments).runIn world = (.ok p, after) →
    Preparation.Spares view p

/-- A check that leaves a view as it is, by its run and by its own
preparation. -/
structure Check.Spares (view : World → γ) (check : Check) : Prop where
  running : ∀ context world, view (check.run context world).2 = view world
  own : ∀ {p}, check.preparation = some p → Preparation.Spares view p

/-- A check that leaves a view as it is, also by what it requests. -/
structure Check.Leaves (view : World → γ) (check : Check) : Prop where
  spares : check.Spares view
  requests : ∀ host, ∀ request ∈ check.sharedPreparations host, request.Spares view

/-- An extension that leaves a view as it is. -/
def Extension.Spares (view : World → γ) (extension : Extension) : Prop :=
  ∀ checks, Act.Spares view (extension checks)

namespace Act.Spares

theorem pure (value : α) : Spares view (pure value : Act α) := fun _ => rfl

theorem bind {action : Act α} {next : α → Act β} (first : Spares view action)
    (second : ∀ value, Spares view (next value)) : Spares view (action >>= next) := by
  intro world
  rw [runIn_bind]
  cases ran : action.runIn world with
  | mk outcome after =>
    have firstSpares : view after = view world := by simpa [ran] using first world
    cases outcome with
    | ok value => exact (second value after).trans firstSpares
    | error e => exact firstSpares

theorem of_runIn {action : Act α} {world after : World} {outcome : Except Error α}
    (spares : Spares view action) (ran : action.runIn world = (outcome, after)) :
    view after = view world := by
  simpa [ran] using spares world

/-- Cleanups that are carried out one after the other spare what each of them
spares. -/
theorem runAll {cleanups : List Cleanup} (each : ∀ c ∈ cleanups, Spares view c.run) :
    Spares view (Cleanup.runAll cleanups) := by
  induction cleanups with
  | nil => exact pure ()
  | cons c rest inductionHypothesis =>
    intro world
    have others := inductionHypothesis (fun other member => each other (List.mem_cons_of_mem c member))
      (c.run.runIn world).2
    have own := each c List.mem_cons_self world
    simp only [Cleanup.runAll]
    rw [runIn_eq]
    split <;> exact others.trans own

theorem chain {label : String} {parts : List Cleanup} (each : ∀ c ∈ parts, Spares view c.run) :
    Spares view (Cleanup.chain label parts).run :=
  runAll fun c member => each c (List.mem_reverse.mp member)

end Act.Spares

/-- A shared preparation spares a view when it is built and made at once. -/
theorem SharedPreparation.Spares.prepare {request : SharedPreparation}
    (spares : request.Spares view) : Preparation.Spares view request.prepare where
  making := by
    intro world
    unfold SharedPreparation.prepare
    rw [Act.runIn_bind]
    rcases built : (request.build request.arguments).runIn world with ⟨e | p, after⟩
    · exact spares.building.of_runIn built
    · exact ((spares.built built).making after).trans (spares.building.of_runIn built)
  undoing := by
    intro world after cleanup made
    unfold SharedPreparation.prepare at made
    rw [Act.runIn_bind] at made
    rcases built : (request.build request.arguments).runIn world with ⟨e | p, middle⟩ <;>
      rw [built] at made
    · cases made
    · exact (spares.built built).undoing made

/-! ## Views that see less -/

section Coarsen

variable {δ : Type} {fine : World → δ}

theorem Act.Spares.coarsen (sees : ∀ {a b}, fine a = fine b → view a = view b) {action : Act α}
    (spares : Act.Spares fine action) : Act.Spares view action :=
  fun world => sees (spares world)

theorem Preparation.Spares.coarsen (sees : ∀ {a b}, fine a = fine b → view a = view b)
    {p : Preparation} (spares : p.Spares fine) : p.Spares view :=
  ⟨spares.making.coarsen sees, fun made => (spares.undoing made).coarsen sees⟩

theorem SharedPreparation.Spares.coarsen (sees : ∀ {a b}, fine a = fine b → view a = view b)
    {s : SharedPreparation} (spares : s.Spares fine) : s.Spares view :=
  ⟨spares.building.coarsen sees, fun built => (spares.built built).coarsen sees⟩

theorem Check.Spares.coarsen (sees : ∀ {a b}, fine a = fine b → view a = view b) {check : Check}
    (spares : check.Spares fine) : check.Spares view :=
  ⟨fun context world => sees (spares.running context world),
    fun isOwn => (spares.own isOwn).coarsen sees⟩

end Coarsen

/-! ## Cleanups in order -/

namespace Cleanup

@[simp] theorem run_of (label : String) (action : Act Unit) : (of label action).run = action := rfl

/-- The first cleanup is carried out first, and its failure is the one that
counts. -/
theorem runIn_runAll_cons (c : Cleanup) (rest : List Cleanup) (world : World) :
    (runAll (c :: rest)).runIn world =
      (match (c.run.runIn world).1 with
        | .ok () => ((runAll rest).runIn (c.run.runIn world).2).1
        | .error e => .error e,
      ((runAll rest).runIn (c.run.runIn world).2).2) := by
  simp only [runAll]
  rw [Act.runIn_eq]
  split <;> simp_all

/-- The last part of a chain is undone first. -/
theorem world_chain_append (label : String) (parts : List Cleanup) (last : Cleanup)
    (world : World) :
    ((chain label (parts ++ [last])).run.runIn world).2 =
      ((chain label parts).run.runIn (last.run.runIn world).2).2 := by
  simp only [chain, run_of, List.reverse_append, List.reverse_singleton, List.singleton_append,
    runIn_runAll_cons]

/-- Of an action and the cleanup behind it, the failure of the action counts. -/
theorem runIn_guarded (c : Cleanup) (action : Act α) (world : World) :
    (c.guarded action).runIn world =
      (match (action.runIn world).1, (c.run.runIn (action.runIn world).2).1 with
        | .ok value, .ok () => .ok value
        | .ok _, .error e => .error e
        | .error e, _ => .error e,
      (c.run.runIn (action.runIn world).2).2) := by
  unfold guarded
  rw [Act.runIn_eq]
  rcases action.runIn world with ⟨_ | _, after⟩
  · rfl
  · dsimp only
    rcases c.run.runIn after with ⟨_ | _, _⟩ <;> rfl

end Cleanup

end PluginAudit
