import PluginAudit.Preparation.Universal
import PluginAudit.Proofs.Effect
import PluginAudit.Proofs.Preparation.DemoPosts

/-!
# What preparations spare

Demo posts touch nothing but posts and the number of insertions, the preparations
of runtime checks nothing but filters and theme directories, and using another
prefix nothing but the prefix in use.
-/

namespace PluginAudit

variable {γ : Type} {view : World → γ}

/-- A view of the world that sees neither posts nor what stands behind a site. -/
def World.Postless (view : World → γ) : Prop :=
  ∀ world posts nextPost runtime,
    view { world with host := { world.host with posts, nextPost, runtime } } = view world

/-- A view of the world that sees neither posts nor how many insertions were tried. -/
def World.Unposted (view : World → γ) : Prop :=
  ∀ world posts nextPost insertions,
    view { world with
      host := { world.host with
        posts, nextPost, runtime := world.host.runtime.counting insertions } } = view world

theorem World.Postless.unposted (postless : Postless view) : Unposted view :=
  fun world posts nextPost _ => postless world posts nextPost _

/-- A view of the world that sees neither filters nor theme directories. -/
def World.Unfiltered (view : World → γ) : Prop :=
  ∀ world filters themeDirectories,
    view { world with host := { world.host with filters, themeDirectories } } = view world

/-- A view of the world that does not see the prefix in use. -/
def World.Unprefixed (view : World → γ) : Prop :=
  ∀ world tablePrefix, view { world with host := { world.host with tablePrefix } } = view world

/-- A view of the world that sees no files. -/
def World.Diskless (view : World → γ) : Prop := ∀ world disk, view { world with disk } = view world

/-- Using another prefix spares what does not see the prefix in use, allowed or
not. -/
theorem Host.useTablePrefix_spares (unprefixed : World.Unprefixed view) (pre : String) :
    Act.Spares view (.tryHost fun host => host.useTablePrefix pre) := by
  intro world
  rw [Act.runIn_tryHost]
  split
  · rename_i host used
    unfold useTablePrefix at used
    split at used <;> cases used
    exact unprefixed world pre
  · rfl

/-! ## Demo posts -/

namespace DemoPosts

theorem deleteAll_spares (unposted : World.Unposted view) (ids : List Nat) :
    Act.Spares view (deleteAll ids) := by
  induction ids with
  | nil => exact .pure ()
  | cons id rest inductionHypothesis =>
    intro world
    rw [runIn_deleteAll_cons]
    split
    · rename_i deleted
      refine (inductionHypothesis _).trans ?_
      unfold Host.deletePost at deleted
      split at deleted
      · cases deleted
      · split at deleted <;> cases deleted
        have kept := unposted world (Assoc.erase id world.host.posts) world.host.nextPost 0
        rwa [Runtime.counting_zero] at kept
    · exact inductionHypothesis world

theorem insertPost_spares (unposted : World.Unposted view) (post : Post) :
    Act.Spares view (.askHost fun host => host.insertPost post) := by
  intro world
  rw [Act.runIn_askHost]
  unfold Host.insertPost
  cases behind : world.host.runtime with
  | installed root =>
    have kept := unposted world (Assoc.put natLess world.host.nextPost ⟨world.host.tablePrefix, post⟩
      world.host.posts) (world.host.nextPost + 1) 0
    rwa [Runtime.counting_zero] at kept
  | simulated simulation =>
    -- a refused insertion is counted, too
    have counted (posts : List (Nat × StoredPost)) (nextPost : Nat) := unposted world posts nextPost 1
    simp only [behind, Runtime.counting] at counted
    dsimp only
    split
    · exact counted world.host.posts world.host.nextPost
    · exact counted _ _

theorem insertAll_spares (unposted : World.Unposted view) (posts : List Post)
    (inserted : List Nat) : Act.Spares view (insertAll inserted posts) := by
  induction posts generalizing inserted with
  | nil => exact .pure inserted
  | cons post rest inductionHypothesis =>
    intro world
    have stored := insertPost_spares unposted post world
    unfold insertAll
    rw [Act.runIn_eq]
    split
    · rename_i ran
      rw [ran] at stored
      exact (inductionHypothesis _ _).trans stored
    · rename_i ran
      rw [ran] at stored
      exact (deleteAll_spares unposted inserted _).trans stored

theorem prepare_spares (unposted : World.Unposted view) (posts : List Post) :
    Preparation.Spares view (prepare posts) where
  making := .bind (insertAll_spares unposted posts []) fun _ => .pure _
  undoing := by
    intro world after cleanup made
    unfold prepare at made
    rw [Act.runIn_bind] at made
    split at made <;> cases made
    exact deleteAll_spares unposted _

/-- Demo posts are inserted, with or without success, and deleted without any
other change. -/
theorem request_spares (unposted : World.Unposted view) (arguments : Text.Json) :
    (request arguments).Spares view where
  building := by
    unfold request ofArguments
    dsimp only
    split
    · exact .pure _
    · exact fun _ => rfl
  built := by
    intro world after p built
    unfold request ofArguments at built
    dsimp only at built
    split at built <;> cases built
    exact prepare_spares unposted _

end DemoPosts

/-! ## Runtime checks -/

theorem MinimalTheme.prepare_spares (unfiltered : World.Unfiltered view) (theme : String)
    (directory : Option Path) : Preparation.Spares view (prepare theme directory) where
  making := by
    intro world
    unfold prepare
    rw [Act.runIn_eq]
    dsimp only
    cases directory.filter fun d => !world.host.hasThemeDirectory d <;>
      exact unfiltered world _ _
  undoing := by
    intro world after cleanup made later
    unfold prepare at made
    rw [Act.runIn_eq] at made
    cases made
    rw [Cleanup.run_of, Act.runIn_onHost]
    cases directory.filter fun d => !world.host.hasThemeDirectory d <;>
      exact unfiltered later _ _

theorem SinglePlugin.prepare_spares (unfiltered : World.Unfiltered view) (target : String)
    (tool : Option String) : Preparation.Spares view (prepare target tool) where
  making := by
    intro world
    unfold prepare
    rw [Act.runIn_eq]
    split
    · rfl
    · split
      · rfl
      · exact unfiltered world _ world.host.themeDirectories
  undoing := by
    intro world after cleanup made later
    unfold prepare at made
    rw [Act.runIn_eq] at made
    split at made
    · cases made
    · split at made <;> cases made
      exact unfiltered later _ later.host.themeDirectories

theorem UniversalPreparation.prepare_spares (unfiltered : World.Unfiltered view) (target : String)
    (tool : Option String) (directory : Option Path) :
    Preparation.Spares view (prepare target tool directory) := by
  have theme := MinimalTheme.prepare_spares unfiltered MinimalTheme.standard directory
  have plugin := SinglePlugin.prepare_spares unfiltered target tool
  constructor
  · -- where the plugin cannot be forced, the theme is undone at once
    intro world
    unfold prepare
    rw [Act.runIn_bind]
    rcases themed : (MinimalTheme.prepare MinimalTheme.standard directory).runIn world with
      ⟨e | undoTheme, middle⟩ <;> have before := theme.making.of_runIn themed
    · exact before
    · dsimp only
      rw [Act.runIn_eq]
      have during := plugin.making middle
      split
      · rename_i ran
        rw [ran] at during
        exact during.trans before
      · rename_i ran
        rw [ran] at during
        exact (theme.undoing themed _).trans (during.trans before)
  · intro world after cleanup made
    unfold prepare at made
    rw [Act.runIn_bind] at made
    rcases themed : (MinimalTheme.prepare MinimalTheme.standard directory).runIn world with
      ⟨e | undoTheme, middle⟩ <;> rw [themed] at made
    · cases made
    · dsimp only at made
      rw [Act.runIn_eq] at made
      split at made
      · rename_i ran
        cases made
        refine .chain fun part member => ?_
        simp only [List.mem_cons, List.not_mem_nil, or_false] at member
        rcases member with rfl | rfl
        · exact theme.undoing themed
        · exact plugin.undoing ran
      · cases made

end PluginAudit
