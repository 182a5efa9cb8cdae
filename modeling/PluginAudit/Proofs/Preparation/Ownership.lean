import Mathlib.Data.List.Perm.Basic
import PluginAudit.Proofs.Host.Tables
import PluginAudit.Proofs.Preparation.Reversal

/-!
# Preparations undone in any order

What a preparation adds to a site is its own: filters and posts have numbers of their own,
and a theme directory belongs to the preparation that found it missing.  A cleanup takes out
what its preparation owns, wherever it stands and whatever others have added or taken out
meanwhile.  Such cleanups can change places, so a site is as before once all of them are
carried out.
-/

namespace PluginAudit

/-! ## What is owned -/

/-- The part of a site that preparations add to. -/
@[ext] structure Registries where
  filters : List FilterEntry
  themeDirectories : List Path
  posts : List (Nat × StoredPost)

def Host.registries (h : Host) : Registries := ⟨h.filters.entries, h.themeDirectories, h.posts⟩

/-- The numbers and directories of what a preparation has added. -/
structure Owned where
  filters : List Nat := []
  themeDirectories : List Path := []
  posts : List Nat := []

/-- The possessions of two owners. -/
def Owned.and (first second : Owned) : Owned where
  filters := first.filters ++ second.filters
  themeDirectories := first.themeDirectories ++ second.themeDirectories
  posts := first.posts ++ second.posts

theorem Assoc.erase_comm {κ α : Type} [BEq κ] [LawfulBEq κ] (first second : κ) (entries : List (κ × α)) :
    erase first (erase second entries) = erase second (erase first entries) := by
  induction entries with
  | nil => rfl
  | cons entry rest inductionHypothesis =>
    by_cases isFirst : entry.1 = first
    · by_cases isSecond : entry.1 = second
      · rw [← isFirst, ← isSecond]
      · simp [erase, isFirst, isFirst ▸ isSecond]
    · by_cases isSecond : entry.1 = second
      · simp [erase, isSecond, isSecond ▸ isFirst]
      · simp [erase, isFirst, isSecond, inductionHypothesis]

namespace Registries

def without (r : Registries) (owned : Owned) : Registries where
  filters := r.filters.filter fun entry => owned.filters.all (entry.id != ·)
  themeDirectories := r.themeDirectories.filter fun d => owned.themeDirectories.all (!·.same d)
  posts := owned.posts.foldl (fun posts id => Assoc.erase id posts) r.posts

theorem without_and (r : Registries) (first second : Owned) :
    r.without (first.and second) = (r.without first).without second := by
  ext1
  · simp [without, Owned.and, List.filter_filter, Bool.and_comm]
  · simp [without, Owned.and, List.filter_filter, Bool.and_comm]
  · simp [without, Owned.and]

theorem without_comm (r : Registries) (first second : Owned) :
    (r.without first).without second = (r.without second).without first := by
  ext1
  · simp [without, List.filter_filter, Bool.and_comm]
  · simp [without, List.filter_filter, Bool.and_comm]
  · have commute : RightCommutative fun (posts : List (Nat × StoredPost)) id => Assoc.erase id posts :=
      ⟨fun posts first second => Assoc.erase_comm second first posts⟩
    simp only [without, ← List.foldl_append]
    exact List.perm_append_comm.foldl_eq _

/-- What several owners hold can be taken out in any order. -/
theorem foldl_without_perm {all others : List Owned} (permuted : all.Perm others) (r : Registries) :
    all.foldl without r = others.foldl without r := by
  have commute : RightCommutative without := ⟨without_comm⟩
  exact permuted.foldl_eq r

theorem foldl_without (r : Registries) (owned : Owned) (others : List Owned) :
    others.foldl without (r.without owned) = (others.foldl without r).without owned := by
  have moved := foldl_without_perm (List.perm_append_singleton owned others).symm r
  simpa using moved

end Registries

/-! ## Owners -/

/-- A lawful site that lets posts be deleted. -/
structure World.Sound (world : World) : Prop where
  lawful : world.host.Lawful
  deletes : world.host.refusesDeletions = false

/-- A cleanup that takes out what is owned from whatever site it meets. -/
def Cleanup.Removes (c : Cleanup) (owned : Owned) : Prop :=
  ∀ world : World, world.Sound → (c.run.runIn world).2.Sound ∧
    (c.run.runIn world).2.host.registries = world.host.registries.without owned

/-- What making a preparation comes to: a cleanup for what was added, or nothing at all. -/
def World.Accounts (world : World) : Except Error Cleanup × World → Prop
  | (.ok cleanup, after) => after.Sound ∧ ∃ owned, cleanup.Removes owned ∧
      after.host.registries.without owned = world.host.registries
  | (.error _, after) => after.Sound ∧ after.host.registries = world.host.registries

def Preparation.Owns (p : Preparation) : Prop := ∀ world : World, world.Sound → world.Accounts (p.runIn world)

variable {world : World}

namespace Cleanup.Removes

theorem chain_pair {label : String} {outer inner : Cleanup} {first second : Owned} (last : outer.Removes first)
    (removes : inner.Removes second) : (chain label [outer, inner]).Removes (second.and first) := by
  intro world sound
  have order : ((chain label [outer, inner]).run.runIn world).2 = (outer.run.runIn (inner.run.runIn world).2).2 := by
    simp only [chain, run_of, List.reverse_cons, List.reverse_nil, List.nil_append, List.singleton_append,
      runIn_runAll_cons]
    rfl
  obtain ⟨soundInner, taken⟩ := removes world sound
  obtain ⟨soundOuter, takenToo⟩ := last _ soundInner
  rw [order, takenToo, taken, Registries.without_and]
  exact ⟨soundOuter, rfl⟩

/-- It makes no difference whether a cleanup is run or given up. -/
theorem release {c : Cleanup} {owned : Owned} (removes : c.Removes owned) (sound : world.Sound) :
    (c.release.runIn world).2.Sound ∧
      (c.release.runIn world).2.host.registries = world.host.registries.without owned :=
  removes world sound

end Cleanup.Removes

/-- The filters that were added last are the only ones with new numbers. -/
theorem Filters.filter_owned {entries added : List FilterEntry} {ids : List Nat} {bound : Nat}
    (older : ∀ entry ∈ entries, entry.id < bound) (new : ∀ id ∈ ids, bound ≤ id)
    (own : ∀ entry ∈ added, entry.id ∈ ids) :
    (entries ++ added).filter (fun entry => ids.all (entry.id != ·)) = entries := by
  rw [List.filter_append]
  have kept : entries.filter (fun entry => ids.all (entry.id != ·)) = entries := by
    refine List.filter_eq_self.mpr fun entry member => ?_
    simp only [List.all_eq_true, bne_iff_ne]
    exact fun id owned => ((older entry member).trans_le (new id owned)).ne
  have gone : added.filter (fun entry => ids.all (entry.id != ·)) = [] := by
    simpa [List.filter_eq_nil_iff] using own
  rw [kept, gone, List.append_nil]

namespace MinimalTheme

theorem removes_undo (added : Option Path) (number : Nat) :
    (Cleanup.of "use_minimal_theme" (.onHost (undo added number))).Removes
      { filters := [number, number + 1], themeDirectories := added.toList } := by
  intro later sound
  have unfiltered := (sound.lawful.removeFilter number).removeFilter (number + 1)
  rw [Cleanup.run_of, Act.runIn_onHost]
  cases added with
  | none =>
    refine ⟨⟨unfiltered, sound.deletes⟩, ?_⟩
    simp [undo, Host.registries, Registries.without, Filters.remove, Bool.and_comm]
  | some directory =>
    refine ⟨⟨unfiltered.deregisterThemeDirectory directory, sound.deletes⟩, ?_⟩
    simp [undo, Host.registries, Registries.without, Filters.remove, Host.deregisterThemeDirectory, Bool.and_comm]

theorem owns (theme : String) (directory : Option Path) : Preparation.Owns (prepare theme directory) := by
  intro world sound
  rw [runIn_prepare]
  refine ⟨⟨lawful_themed sound.lawful theme _, ?_⟩, _, removes_undo _ _, ?_⟩
  · cases missing directory world.host <;> exact sound.deletes
  · have state := siteState_themed theme (missing directory world.host) world.host
    have older := sound.lawful.filters
    obtain ⟨-, entries, directories, posts⟩ := Host.siteState_eq_iff.mp state
    simp only [Host.siteState] at entries directories posts
    simp only [Host.registries, entries, directories, posts, Registries.without]
    ext1
    · exact Filters.filter_owned older (by simp) (by simp)
    · cases absent : missing directory world.host with
      | none => simp
      | some d =>
        have new : world.host.hasThemeDirectory d = false := by
          simpa using (Option.filter_eq_some_iff.mp absent).2
        simpa using Host.themeDirectories_deregister_register new
    · rfl

end MinimalTheme

namespace SinglePlugin

theorem owns (target : String) (tool : Option String) : Preparation.Owns (prepare target tool) := by
  intro world sound
  obtain ⟨installed, -, -, ran⟩ | ⟨e, ran⟩ := runIn_prepare target tool world
  · rw [ran]
    refine ⟨⟨sound.lawful.addFilter .activePlugins _, sound.deletes⟩, { filters := [world.host.filters.nextId] }, ?_, ?_⟩
    · intro later laterSound
      exact ⟨⟨laterSound.lawful.removeFilter _, laterSound.deletes⟩, by
        simp [Host.registries, Registries.without, Filters.remove]⟩
    · ext1
      · exact Filters.filter_owned sound.lawful.filters (by simp) (by simp)
      · simp [forcing, Host.registries, Registries.without]
      · rfl
  · rw [ran]
    exact ⟨sound, rfl⟩

end SinglePlugin

namespace UniversalPreparation

theorem owns (target : String) (tool : Option String) (directory : Option Path) :
    Preparation.Owns (prepare target tool directory) := by
  intro world sound
  have first := MinimalTheme.owns MinimalTheme.standard directory world sound
  unfold prepare
  rw [Act.runIn_bind]
  rcases themeMade : (MinimalTheme.prepare MinimalTheme.standard directory).runIn world with ⟨e | theme, themed⟩ <;>
    rw [themeMade] at first
  · exact first
  · obtain ⟨themedSound, themeOwned, removesTheme, themeAccounts⟩ := first
    have second := SinglePlugin.owns target tool themed themedSound
    dsimp only
    rw [Act.runIn_eq]
    rcases pluginMade : (SinglePlugin.prepare target tool).runIn themed with ⟨e | plugin, forced⟩ <;>
      rw [pluginMade] at second
    · -- the theme is taken out again at once
      obtain ⟨forcedSound, same⟩ := second
      obtain ⟨soundAfter, taken⟩ := removesTheme.release forcedSound
      exact ⟨soundAfter, by rw [taken, same, themeAccounts]⟩
    · obtain ⟨forcedSound, pluginOwned, removesPlugin, pluginAccounts⟩ := second
      refine ⟨forcedSound, _, .chain_pair removesTheme removesPlugin, ?_⟩
      rw [Registries.without_and, pluginAccounts, themeAccounts]

end UniversalPreparation

namespace DemoPosts

/-- A post that can be deleted is erased, and one that is not there need not be. -/
theorem runIn_deletePost (deletes : world.host.refusesDeletions = false) (id : Nat) :
    ((Act.tryHost fun host => host.deletePost id).runIn world).2 =
      { world with host := { world.host with posts := Assoc.erase id world.host.posts } } := by
  by_cases present : Assoc.contains id world.host.posts
  · simp [Act.runIn_tryHost, Host.deletePost, deletes, present]
  · have absent : Assoc.get? id world.host.posts = none := by simpa [Assoc.contains] using present
    simp [Act.runIn_tryHost, Host.deletePost, deletes, present, Assoc.erase_eq_self absent]

theorem runIn_deleteAll (deletes : world.host.refusesDeletions = false) (ids : List Nat) :
    ((deleteAll ids).runIn world).2 =
      { world with
        host := { world.host with posts := ids.foldl (fun posts id => Assoc.erase id posts) world.host.posts } } := by
  induction ids generalizing world with
  | nil => rfl
  | cons id rest inductionHypothesis =>
    have first := runIn_deletePost deletes id
    have others := @inductionHypothesis ((Act.tryHost fun host => host.deletePost id).runIn world).2
      (by rw [first]; exact deletes)
    unfold deleteAll
    rw [Act.runIn_eq]
    dsimp only
    rw [first] at others
    split <;> rw [first] <;> exact others

theorem removes_deleteAll (ids : List Nat) : (Cleanup.of name (deleteAll ids)).Removes { posts := ids } := by
  intro later sound
  have kept : (ids.foldl (fun posts id => Assoc.erase id posts) later.host.posts).Sublist later.host.posts := by
    generalize later.host.posts = posts
    induction ids generalizing posts with
    | nil => exact .refl posts
    | cons id rest inductionHypothesis => exact (inductionHypothesis _).trans (Assoc.erase_sublist id posts)
  rw [Cleanup.run_of, runIn_deleteAll sound.deletes]
  refine ⟨⟨{ sound.lawful with posts := fun entry member => ?_ }, sound.deletes⟩, ?_⟩
  · exact sound.lawful.posts entry (kept.subset member)
  · simp [Host.registries, Registries.without]

theorem owns (posts : List Post) : Preparation.Owns (prepare posts) := by
  intro world sound
  have start : Standing (withPosts world.host.siteState []) world :=
    ⟨sound.lawful, sound.deletes, by simp [withPosts]⟩
  have inserted := insertAll_spec posts [] (by simp) start
  unfold prepare
  rw [Act.runIn_bind]
  rw [List.map_nil] at inserted
  rcases ran : (insertAll [] posts).runIn world with ⟨e | ids, after⟩ <;> rw [ran] at inserted
  · obtain ⟨lawful, deletes, same⟩ := inserted
    exact ⟨⟨lawful, deletes⟩, congrArg (fun state => Registries.mk state.filters state.themeDirectories state.posts) same⟩
  · obtain ⟨added, rfl, new, lawful, deletes, state⟩ := inserted
    refine ⟨⟨lawful, deletes⟩, _, removes_deleteAll _, ?_⟩
    obtain ⟨-, entries, directories, posts⟩ := Host.siteState_eq_iff.mp state
    simp only [withPosts, Host.siteState] at entries directories posts new
    ext1
    · simp [Host.registries, Registries.without, entries]
    · simp [Host.registries, Registries.without, directories]
    · simp only [Host.registries, Registries.without, posts]
      exact foldl_erase_append new

end DemoPosts

/-! ## Interleavings -/

/-- The preparations that can be in force beside each other. -/
inductive PreparationKind
  | minimalTheme (theme : String) (directory : Option Path)
  | singlePlugin (target : String) (tool : Option String)
  | universal (target : String) (tool : Option String) (directory : Option Path)
  | demoPosts (posts : List Post)

def PreparationKind.preparation : PreparationKind → Preparation
  | minimalTheme theme directory => MinimalTheme.prepare theme directory
  | singlePlugin target tool => SinglePlugin.prepare target tool
  | universal target tool directory => UniversalPreparation.prepare target tool directory
  | demoPosts posts => DemoPosts.prepare posts

theorem PreparationKind.owns (kind : PreparationKind) : Preparation.Owns kind.preparation := by
  cases kind with
  | minimalTheme theme directory => exact MinimalTheme.owns theme directory
  | singlePlugin target tool => exact SinglePlugin.owns target tool
  | universal target tool directory => exact UniversalPreparation.owns target tool directory
  | demoPosts posts => exact DemoPosts.owns posts

/-- A preparation is made, or one of the cleanups that are held is run or given up. -/
inductive PreparationStep
  | prepare (kind : PreparationKind)
  | run (position : Nat)
  | release (position : Nat)

/-- The world and the cleanups that are still held, each of them once. -/
structure PreparedWorld where
  world : World
  held : List Cleanup := []

namespace PreparedWorld

def finish (p : PreparedWorld) (position : Nat) (how : Cleanup → Act Unit) : PreparedWorld :=
  match p.held[position]? with
  | some c => ⟨((how c).runIn p.world).2, p.held.eraseIdx position⟩
  | none => p

def perform (p : PreparedWorld) : PreparationStep → PreparedWorld
  | .prepare kind =>
      match kind.preparation.runIn p.world with
      | (.ok c, world) => ⟨world, p.held ++ [c]⟩
      | (.error _, world) => ⟨world, p.held⟩
  | .run position => p.finish position Cleanup.run
  | .release position => p.finish position Cleanup.release

def performAll (p : PreparedWorld) (steps : List PreparationStep) : PreparedWorld := steps.foldl perform p

/-- Each cleanup that is held has an owner, and without what they own the site is as at the start. -/
def Accounted (start : Registries) (p : PreparedWorld) : Prop :=
  p.world.Sound ∧ ∃ owners : List (Cleanup × Owned), owners.map Prod.fst = p.held ∧
    (∀ owner ∈ owners, owner.1.Removes owner.2) ∧
    (owners.map Prod.snd).foldl Registries.without p.world.host.registries = start

variable {start : Registries} {p : PreparedWorld}

theorem Accounted.prepare (accounted : p.Accounted start) (kind : PreparationKind) :
    (p.perform (.prepare kind)).Accounted start := by
  obtain ⟨sound, owners, held, removes, rest⟩ := accounted
  have made := kind.owns p.world sound
  simp only [perform]
  rcases ran : kind.preparation.runIn p.world with ⟨e | c, after⟩ <;> rw [ran] at made
  · obtain ⟨soundAfter, same⟩ := made
    exact ⟨soundAfter, owners, held, removes, same ▸ rest⟩
  · obtain ⟨soundAfter, owned, removesOwned, accounts⟩ := made
    refine ⟨soundAfter, owners ++ [(c, owned)], by simp [held], ?_, ?_⟩
    · exact List.forall_mem_append.mpr ⟨removes, List.forall_mem_singleton.mpr removesOwned⟩
    · -- the new owner can be the first one to take out what it owns
      rw [List.map_append, List.foldl_append]
      have moved := Registries.foldl_without after.host.registries owned (owners.map Prod.snd)
      rw [accounts, rest] at moved
      exact moved.symm

/-- Running a cleanup and giving it up take out the same. -/
theorem Accounted.finish (accounted : p.Accounted start) (position : Nat) {how : Cleanup → Act Unit}
    (takes : ∀ c world, ((how c).runIn world).2 = (c.run.runIn world).2) : (p.finish position how).Accounted start := by
  obtain ⟨sound, owners, held, removes, rest⟩ := accounted
  simp only [PreparedWorld.finish]
  by_cases within : position < owners.length
  · have isHeld : p.held[position]? = some owners[position].1 := by simp [← held, within]
    obtain ⟨soundAfter, taken⟩ := removes owners[position] (List.getElem_mem within) p.world sound
    rw [isHeld]
    dsimp only
    rw [← takes] at soundAfter taken
    refine ⟨soundAfter, owners.eraseIdx position, ?_, ?_, ?_⟩
    · simp [← held, List.eraseIdx_map]
    · exact fun owner member => removes owner (List.mem_of_mem_eraseIdx member)
    · -- the owners that are left come after the one that has gone
      have permuted := (List.getElem_cons_eraseIdx_perm within).map Prod.snd
      have order := Registries.foldl_without_perm permuted p.world.host.registries
      rw [List.map_cons, List.foldl_cons, rest] at order
      rw [taken]
      exact order
  · have notHeld : p.held[position]? = none := by simpa [← held] using within
    rw [notHeld]
    exact ⟨sound, owners, held, removes, rest⟩

theorem Accounted.perform (accounted : p.Accounted start) (step : PreparationStep) :
    (p.perform step).Accounted start := by
  cases step with
  | prepare kind => exact accounted.prepare kind
  | run position => exact accounted.finish position fun _ _ => rfl
  | release position => exact accounted.finish position fun _ _ => rfl

theorem Accounted.performAll (accounted : p.Accounted start) (steps : List PreparationStep) :
    (p.performAll steps).Accounted start := by
  induction steps generalizing p with
  | nil => exact accounted
  | cons step rest inductionHypothesis => exact inductionHypothesis (accounted.perform step)

/-- Whatever preparations are made and in whatever order their cleanups are run or given up:
once none is held, the site has the filters, theme directories and posts of the start, and a
preparation that fails on the way changes none of them. -/
theorem registries_performAll {new : Host} (isNew : new.IsNew) (earlier : List HostCall) {world : World}
    (used : world.host = (HostCall.performAll new earlier).2) (deletes : world.host.refusesDeletions = false)
    (steps : List PreparationStep) :
    let after := performAll ⟨world, []⟩ steps
    (after.held = [] → after.world.host.registries = world.host.registries) ∧
      ∀ (kind : PreparationKind) (e : Error) (failed : World),
        kind.preparation.runIn after.world = (.error e, failed) →
          failed.host.registries = after.world.host.registries := by
  intro after
  have sound : world.Sound := ⟨used ▸ isNew.lawful.performAll earlier, deletes⟩
  have start : Accounted world.host.registries ⟨world, []⟩ := ⟨sound, [], rfl, by simp, rfl⟩
  obtain ⟨soundAfter, owners, held, -, rest⟩ := start.performAll steps
  constructor
  · intro none
    have noOwners : owners = [] := by simpa [after, none] using held
    simpa [noOwners] using rest
  · intro kind e failed ran
    have made := PreparationKind.owns kind after.world soundAfter
    rw [ran] at made
    exact made.2

/-- Two preparations share a directory, one fails after its first part, and the cleanups are
carried out first in, first out. -/
def sharedDirectory : List PreparationStep :=
  [.prepare (.minimalTheme "plain" (some ⟨"themes"⟩)), .prepare (.universal "form.php" none (some ⟨"themes/"⟩)),
    .prepare (.demoPosts [.demo "post", .demo "page"]), .prepare (.universal "box.php" none (some ⟨"other"⟩)),
    .run 0, .prepare (.minimalTheme "plain" (some ⟨"themes"⟩)), .release 0, .run 0, .run 0]

theorem registries_performAll_sharedDirectory :
    let site := Host.simulated ⟨"site"⟩ { plugins := [("form.php", { name := "Form" })] }
    let start : World := { disk := default, host := site.registerThemeDirectory ⟨"other"⟩ }
    (performAll ⟨start, []⟩ (sharedDirectory.take 4)).world.host.filters.entries.length = 5 ∧
      (performAll ⟨start, []⟩ sharedDirectory).held = [] ∧
      (performAll ⟨start, []⟩ sharedDirectory).world.host.registries = start.host.registries := by
  intro site start
  have noneHeld : (performAll ⟨start, []⟩ sharedDirectory).held = [] :=
    List.isEmpty_iff.mp (by decide +kernel)
  refine ⟨by decide +kernel, noneHeld, ?_⟩
  exact (registries_performAll (.simulated _ _) [.registerThemeDirectory ⟨"other"⟩] rfl rfl sharedDirectory).1 noneHeld

end PreparedWorld

end PluginAudit
