import PluginAudit.Proofs.Run.Isolation

/-!
# One shared preparation among others

A request that several checks make is granted once.  If all other preparations spare
a view of the world, what the view shows changes as if that one were made and undone
alone.
-/

namespace PluginAudit

open RunEvent (Happen Happens)

variable {γ δ : Type} {view : World → γ} {part : World → δ} {context : PluginContext}
  {world start after : World}

/-! ## What is made and undone -/

/-- Where no cleanup fails, the first one does not. -/
theorem Undoing.cons_inv {request : SharedPreparation} {cleanup : Cleanup}
    {rest : List (SharedPreparation × Cleanup)} {events : List RunEvent}
    (undoing : Undoing ((request, cleanup) :: rest) events none) :
    ∃ later, events = .undone request cleanup (.ok ()) :: later ∧ Undoing rest later none := by
  generalize success : (none : Option Error) = failure at undoing
  cases undoing with
  | next outcome others =>
    obtain ⟨ok, rfl⟩ := Option.or_eq_none_iff.mp success.symm
    cases outcome with
    | error e => cases ok
    | ok _ => exact ⟨_, rfl, others⟩

/-- Shared preparations that are all undone are undone one by one. -/
theorem Undoing.append_inv {front back : List (SharedPreparation × Cleanup)}
    {events : List RunEvent} (undoing : Undoing (front ++ back) events none) :
    ∃ first second, events = first ++ second ∧ Undoing front first none ∧
      Undoing back second none := by
  induction front generalizing events with
  | nil => exact ⟨[], events, rfl, .done, undoing⟩
  | cons entry rest inductionHypothesis =>
    obtain ⟨request, cleanup⟩ := entry
    obtain ⟨later, rfl, others⟩ := undoing.cons_inv
    obtain ⟨first, second, rfl, undoingFirst, undoingSecond⟩ := inductionHypothesis others
    exact ⟨_, second, rfl, .next (.ok ()) undoingFirst, undoingSecond⟩

theorem Undoing.keptBy {made : List (SharedPreparation × Cleanup)} {events : List RunEvent}
    {failure : Option Error} (undoing : Undoing made events failure)
    (spares : ∀ entry ∈ made, Act.Spares view entry.2.run) : KeptBy view context events := by
  induction undoing with
  | done => exact .nil
  | next outcome _ inductionHypothesis =>
    have others := inductionHypothesis fun other member => spares other (List.mem_cons_of_mem _ member)
    exact .cons (fun _ _ happens => (spares _ List.mem_cons_self).of_runIn happens) fun _ _ _ => others

/-- Wherever a part of the world is as it was at a start, checks ask for one request, or for
others that spare a view and do not pass for it. -/
structure SharedPreparation.StandsOut (view : World → γ) (part : World → δ) (start : World)
    (request : SharedPreparation) (entries : List (String × Check)) : Prop where
  /-- The part is seen in the view, and granting the request leaves it as it is. -/
  coarse : ∀ {one other}, view one = view other → part one = part other
  granting : Act.Spares part request.prepare
  others : ∀ entry ∈ entries, ∀ world, part world = part start →
    ∀ other ∈ entry.2.sharedPreparations world.host,
      other = request ∨ other.Spares view ∧ other.key ≠ request.key

variable {seen requests : List SharedPreparation} {slug : String} {check : Check}
  {entries : List (String × Check)} {request : SharedPreparation}

theorem SharedPreparation.StandsOut.tail (standsOut : request.StandsOut view part start ((slug, check) :: entries)) :
    request.StandsOut view part start entries :=
  { standsOut with others := fun entry member => standsOut.others entry (List.mem_cons_of_mem _ member) }

/-- Once a request is granted, what checks ask for spares the view. -/
theorem Sharing.around_seen {events : List RunEvent} {made : List (SharedPreparation × Cleanup)}
    (sharing : Sharing seen requests entries events made none)
    (happen : Happen context world events after) (old : seen.any request.sameKey)
    (pending : ∀ other ∈ requests, other = request ∨ other.Spares view ∧ other.key ≠ request.key)
    (standsOut : request.StandsOut view part start entries) (same : part world = part start) :
    (∀ entry ∈ made, Act.Spares view entry.2.run) ∧ view after = view world := by
  generalize success : (none : Option Error) = failure at sharing
  induction sharing generalizing world with
  | done =>
    cases happen
    exact ⟨nofun, rfl⟩
  | asked _ inductionHypothesis =>
    rcases happen with _ | ⟨⟨rfl, rfl⟩, later⟩
    exact inductionHypothesis later old (standsOut.others _ List.mem_cons_self _ same) standsOut.tail same
      success
  | known _ _ inductionHypothesis =>
    exact inductionHypothesis happen old (fun other member => pending other (List.mem_cons_of_mem _ member))
      standsOut same success
  | made cleanup new _ inductionHypothesis =>
    rcases happen with _ | ⟨making, later⟩
    obtain ⟨spares, -⟩ := (pending _ List.mem_cons_self).resolve_left fun isRequest =>
      new (isRequest ▸ old)
    have kept := spares.prepare.making.of_runIn making
    obtain ⟨cleanups, afterwards⟩ := inductionHypothesis later (by simp [old])
      (fun other member => pending other (List.mem_cons_of_mem _ member)) standsOut
      ((standsOut.coarse kept).trans same) success
    refine ⟨fun entry member => ?_, afterwards.trans kept⟩
    rcases List.mem_cons.mp member with rfl | member
    · exact spares.prepare.undoing making
    · exact cleanups entry member
  | failed => cases success

/-- A request that stands out is granted once, as if there were no others. -/
theorem Sharing.around {events : List RunEvent} {made : List (SharedPreparation × Cleanup)}
    (sharing : Sharing seen requests entries events made none)
    (happen : Happen context world events after) (new : ¬ seen.any request.sameKey)
    (pending : ∀ other ∈ requests, other = request ∨ other.Spares view ∧ other.key ≠ request.key)
    (standsOut : request.StandsOut view part start entries) (same : part world = part start)
    (asked : request ∈ requests ∨ ∃ entry ∈ entries, ∀ world, part world = part start →
      request ∈ entry.2.sharedPreparations world.host) :
    ∃ cleanup before behind asked granted, made = before ++ (request, cleanup) :: behind ∧
      (∀ entry ∈ before ++ behind, Act.Spares view entry.2.run) ∧
      request.prepare.runIn asked = (.ok cleanup, granted) ∧
      view asked = view world ∧ view after = view granted := by
  generalize success : (none : Option Error) = failure at sharing
  induction sharing generalizing world with
  | done => simp at asked
  | asked _ inductionHypothesis =>
    rcases happen with _ | ⟨⟨rfl, rfl⟩, later⟩
    refine inductionHypothesis later new (standsOut.others _ List.mem_cons_self _ same) standsOut.tail same ?_
      success
    obtain ⟨entry, member, asks⟩ := asked.resolve_left List.not_mem_nil
    rcases List.mem_cons.mp member with rfl | member
    · exact .inl (asks _ same)
    · exact .inr ⟨entry, member, asks⟩
  | known old _ inductionHypothesis =>
    refine inductionHypothesis happen new (fun other member => pending other (List.mem_cons_of_mem _ member))
      standsOut same (asked.imp_left fun member => ?_) success
    refine (List.mem_cons.mp member).resolve_left fun isRequest => new (isRequest ▸ old)
  | @made seen first _ _ _ _ _ cleanup _ sharing inductionHypothesis =>
    rcases happen with _ | ⟨making, later⟩
    have others := fun other member => pending other (List.mem_cons_of_mem first member)
    by_cases isRequest : first = request
    · subst isRequest
      obtain ⟨cleanups, afterwards⟩ := (success ▸ sharing).around_seen later
        (by simp [SharedPreparation.sameKey]) others standsOut
        ((standsOut.granting.of_runIn making).trans same)
      exact ⟨cleanup, [], _, world, _, rfl, cleanups, making, rfl, afterwards⟩
    · obtain ⟨spares, apart⟩ := (pending _ List.mem_cons_self).resolve_left isRequest
      have kept := spares.prepare.making.of_runIn making
      have stillNew : ¬ (first :: seen).any request.sameKey := by
        simpa [SharedPreparation.sameKey, Ne.symm apart] using new
      obtain ⟨granted, before, behind, asking, granting, rfl, cleanups, ran, askedView, afterView⟩ :=
        inductionHypothesis later stillNew others standsOut ((standsOut.coarse kept).trans same)
          (asked.imp_left fun member => (List.mem_cons.mp member).resolve_left (Ne.symm isRequest)) success
      refine ⟨granted, (first, cleanup) :: before, behind, asking, granting, rfl, fun entry member => ?_,
        ran, askedView.trans kept, afterView⟩
      rcases List.mem_cons.mp member with rfl | member
      · exact spares.prepare.undoing making
      · exact cleanups entry member
  | failed => cases success

/-- Among cleanups that spare a view, one is carried out as if there were no others. -/
theorem Undoing.around {request : SharedPreparation} {cleanup : Cleanup}
    {front back : List (SharedPreparation × Cleanup)} {events : List RunEvent}
    (undoing : Undoing (front ++ (request, cleanup) :: back) events none)
    (happen : Happen context world events after)
    (spares : ∀ entry ∈ front ++ back, Act.Spares view entry.2.run) :
    ∃ asked undone, cleanup.run.runIn asked = (.ok (), undone) ∧
      view asked = view world ∧ view after = view undone := by
  obtain ⟨first, second, rfl, undoingFront, undoingRest⟩ := undoing.append_inv
  obtain ⟨asked, happenFront, happenRest⟩ := happen.append_inv
  obtain ⟨events, rfl, undoingBack⟩ := undoingRest.cons_inv
  rcases happenRest with _ | ⟨undone, happenBack⟩
  refine ⟨asked, _, undone, ?_, ?_⟩
  · exact (undoingFront.keptBy fun entry member => spares entry (List.mem_append_left back member)).kept
      happenFront
  · exact (undoingBack.keptBy fun entry member => spares entry (List.mem_append_right front member)).kept
      happenBack

/-- Where nothing failed, everything that was requested was made and undone, and all
checks were run. -/
theorem Lifecycle.checked_inv {events : List RunEvent} {found : List Finding}
    (lifecycle : Lifecycle entries events found none) :
    ∃ shared made checked undone, events = shared ++ checked ++ undone ∧
      Sharing [] [] entries shared made none ∧ Checking entries checked found none ∧
      Undoing made.reverse undone none := by
  generalize success : (none : Option Error) = failure at lifecycle
  cases lifecycle with
  | unshared _ _ => cases success
  | checked sharing checking undoing =>
    obtain ⟨rfl, rfl⟩ := Option.or_eq_none_iff.mp success.symm
    exact ⟨_, _, _, _, rfl, sharing, checking, undoing⟩

end PluginAudit
