import PluginAudit.Proofs.Effect

/-!
# Making shared preparations

Shared preparations are made one after the other, and undone together where one of them
fails.  What holds of the cleanups and the world while this goes on is shown for a single
request, and then for all requests of checks.
-/

namespace PluginAudit

variable {γ : Type} {view : World → γ} {holds : List Cleanup → World → Prop} {undone : World → Prop}

namespace Shared

/-- Making what is requested keeps what holds of the cleanups so far and the world.  If it
fails, undoing what was made leads to a world that counts as undone. -/
structure Keeps (holds : List Cleanup → World → Prop) (undone : World → Prop)
    (request : SharedPreparation) : Prop where
  made : ∀ {made cleanup world after}, holds made world →
    request.prepare.runIn world = (.ok cleanup, after) → holds (made ++ [cleanup]) after
  failed : ∀ {made e world after}, holds made world →
    request.prepare.runIn world = (.error e, after) → undone ((combined made).release.runIn after).2

/-- What making shared preparations has come to. -/
def Kept (holds : List Cleanup → World → Prop) (undone : World → Prop) : Except Error Shared × World → Prop
  | (.ok shared, world) => holds shared.made world
  | (.error _, world) => undone world

theorem grant_kept {requests : List SharedPreparation} {shared : Shared} {world : World}
    (keeps : ∀ request ∈ requests, Keeps holds undone request) (start : holds shared.made world) :
    Kept holds undone ((shared.grant requests).runIn world) := by
  induction requests generalizing shared world with
  | nil => exact start
  | cons request rest inductionHypothesis =>
    have first := keeps request List.mem_cons_self
    have others := fun other member => keeps other (List.mem_cons_of_mem request member)
    unfold grant
    split
    · exact inductionHypothesis others start
    · rw [Act.runIn_eq]
      split
      · rename_i granted
        exact inductionHypothesis others (first.made start granted)
      · rename_i refused
        exact first.failed start refused

theorem serve_kept {entries : List (String × Check)} {shared : Shared} {world : World}
    (keeps : ∀ entry ∈ entries, ∀ host, ∀ request ∈ entry.2.sharedPreparations host,
      Keeps holds undone request) (start : holds shared.made world) :
    Kept holds undone ((shared.serve entries).runIn world) := by
  induction entries generalizing shared world with
  | nil => exact start
  | cons entry rest inductionHypothesis =>
    obtain ⟨slug, check⟩ := entry
    have first := grant_kept (keeps (slug, check) List.mem_cons_self world.host) start
    have others := fun other member => keeps other (List.mem_cons_of_mem (slug, check) member)
    rw [serve, Act.runIn_eq]
    split
    · rename_i granted
      rw [granted] at first
      exact inductionHypothesis others first
    · rename_i refused
      rw [refused] at first
      exact first

/-- What making each request keeps holds of the cleanups that are combined in the end. -/
theorem prepareAll_kept {checks : CheckCollection} {world : World}
    (keeps : ∀ entry ∈ checks.entries, ∀ host, ∀ request ∈ entry.2.sharedPreparations host,
      Keeps holds undone request) (start : holds [] world) :
    match (prepareAll checks).runIn world with
    | (.ok cleanup, after) => ∃ made, cleanup = combined made ∧ holds made after
    | (.error _, after) => undone after := by
  have served := @serve_kept holds undone checks.entries {} world keeps start
  unfold prepareAll
  rw [Act.runIn_bind]
  rcases ran : (serve {} checks.entries).runIn world with ⟨e | shared, after⟩ <;> rw [ran] at served
  · exact served
  · exact ⟨shared.made, rfl, served⟩

/-- Shared preparations spare together what each of them spares. -/
theorem prepareAll_spares {checks : CheckCollection}
    (spares : ∀ entry ∈ checks.entries, ∀ host, ∀ request ∈ entry.2.sharedPreparations host,
      request.Spares view) : Preparation.Spares view (prepareAll checks) := by
  have kept (world : World) := @prepareAll_kept
    (fun made after => view after = view world ∧ ∀ c ∈ made, Act.Spares view c.run)
    (fun after => view after = view world) checks world (fun entry member host request asked =>
      have sparing := (spares entry member host request asked).prepare
      { made := by
          rintro made cleanup before after ⟨same, undoing⟩ granted
          refine ⟨(sparing.making.of_runIn granted).trans same, fun c member => ?_⟩
          rcases List.mem_append.mp member with earlier | last
          · exact undoing c earlier
          · rw [List.mem_singleton.mp last]
            exact sparing.undoing granted
        failed := by
          rintro made e before after ⟨same, undoing⟩ refused
          exact (Act.Spares.chain undoing _).trans ((sparing.making.of_runIn refused).trans same) })
    ⟨rfl, nofun⟩
  constructor
  · intro world
    have made := kept world
    rcases ran : (prepareAll checks).runIn world with ⟨e | cleanup, after⟩ <;> rw [ran] at made
    · exact made
    · obtain ⟨-, -, same, -⟩ := made
      exact same
  · intro world after cleanup ran
    have made := kept world
    rw [ran] at made
    obtain ⟨all, rfl, -, undoing⟩ := made
    exact .chain undoing

end Shared

end PluginAudit
