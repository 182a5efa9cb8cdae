import PluginAudit.Host.Call
import PluginAudit.Proofs.Host.Filters

/-!
# Filters that come and go

All filters of a site stand in one list, whatever their hooks, and are taken out of it by their
numbers in any order.  What calls make of an empty list can be told from what they came to: the
filters that are left are those that were added and not removed since, in the order they were
added in, and nothing else that was ever asked for makes a difference.
-/

namespace PluginAudit

/-- A call that changes the filters of a site. -/
inductive FilterCall
  | add (hook : Hook) (change : FilterValue → FilterValue)
  | remove (id : Nat)

/-- What a call came to. -/
inductive FilterEvent
  | added (entry : FilterEntry)
  /-- A filter was to be removed, which may not have been there. -/
  | removed (id : Nat) (present : Bool)

namespace FilterEvent

def entry? : FilterEvent → Option FilterEntry
  | added entry => some entry
  | removed _ _ => none

/-- What a site answers. -/
def answer : FilterEvent → HostAnswer
  | added entry => .number entry.id
  | removed _ present => .truth present

/-- Whether the filter with a number was to be removed. -/
def removes (id : Nat) : FilterEvent → Bool
  | added _ => false
  | removed other _ => other == id

/-- The filters that were added and not removed since, in the order they were added in. -/
def standing : List FilterEvent → List FilterEntry
  | [] => []
  | added entry :: later =>
      if later.any (removes entry.id) then standing later else entry :: standing later
  | removed _ _ :: later => standing later

variable {events : List FilterEvent} {entry : FilterEntry}

theorem standing_added (events : List FilterEvent) (entry : FilterEntry) :
    standing (events ++ [.added entry]) = standing events ++ [entry] := by
  induction events with
  | nil => rfl
  | cons event others inductionHypothesis =>
    cases event with
    | added first =>
      simp only [List.cons_append, standing, inductionHypothesis, List.any_append, List.any_cons, List.any_nil,
        removes, Bool.or_false]
      split <;> rfl
    | removed _ _ => simpa only [List.cons_append, standing] using inductionHypothesis

theorem standing_removed (events : List FilterEvent) (id : Nat) (present : Bool) :
    standing (events ++ [.removed id present]) = (standing events).filter fun entry => entry.id != id := by
  induction events with
  | nil => rfl
  | cons event others inductionHypothesis =>
    cases event with
    | added first =>
      simp only [List.cons_append, standing, inductionHypothesis, List.any_append, List.any_cons, List.any_nil,
        removes, Bool.or_false]
      by_cases gone : others.any (removes first.id)
      · simp [gone]
      · by_cases same : id = first.id
        · simp [gone, same]
        · simp [gone, same, Ne.symm same]
    | removed _ _ => simpa only [List.cons_append, standing] using inductionHypothesis

theorem standing_later {event : FilterEvent} (member : entry ∈ standing events) :
    entry ∈ standing (event :: events) := by
  cases event with
  | added first =>
    rw [standing]
    split
    · exact member
    · exact List.mem_cons_of_mem first member
  | removed _ _ => exact member

/-- A filter stands just if none of the calls since it was added was to remove it. -/
theorem mem_standing : entry ∈ standing events ↔
    ∃ before since, events = before ++ .added entry :: since ∧ ∀ event ∈ since, event.removes entry.id = false := by
  constructor
  · intro member
    induction events with
    | nil => cases member
    | cons event others inductionHypothesis =>
      have later (stands : entry ∈ standing others) : ∃ before since, event :: others = before ++ .added entry :: since ∧
          ∀ event ∈ since, event.removes entry.id = false := by
        obtain ⟨before, since, rfl, kept⟩ := inductionHypothesis stands
        exact ⟨event :: before, since, rfl, kept⟩
      cases event with
      | added first =>
        rw [standing] at member
        split at member
        · exact later member
        · rename_i kept
          rcases List.mem_cons.mp member with rfl | stands
          · exact ⟨[], others, rfl, by simpa using kept⟩
          · exact later stands
      | removed _ _ => exact later member
  · rintro ⟨before, since, rfl, kept⟩
    induction before with
    | nil =>
      have stays : since.any (removes entry.id) = false := by simpa using kept
      simp [standing, stays]
    | cons event others inductionHypothesis => exact standing_later inductionHypothesis

end FilterEvent

namespace FilterCall

def perform (f : Filters) : FilterCall → FilterEvent × Filters
  | add hook change => (.added ⟨(f.add hook change).2, hook, change⟩, (f.add hook change).1)
  | remove id => (.removed id (f.contains id), f.remove id)

/-- Carry out calls in turn and record what they come to. -/
def performAll (f : Filters) : List FilterCall → List FilterEvent × Filters
  | [] => ([], f)
  | call :: rest =>
      let (event, f) := call.perform f
      let (events, f) := performAll f rest
      (event :: events, f)

/-- The call of a site that does the same. -/
def onHost : FilterCall → HostCall
  | add hook change => .addFilter hook change
  | remove id => .removeFilter id

/-- A site answers its calls by what they come to, and changes nothing but its filters. -/
theorem performAll_onHost (h : Host) (calls : List FilterCall) :
    HostCall.performAll h (calls.map onHost) =
      ((performAll h.filters calls).1.map FilterEvent.answer, { h with filters := (performAll h.filters calls).2 }) := by
  induction calls generalizing h with
  | nil => rfl
  | cons call rest inductionHypothesis =>
    have step : (onHost call).perform h =
        ((call.perform h.filters).1.answer, { h with filters := (call.perform h.filters).2 }) := by
      cases call <;> rfl
    simp only [List.map_cons, HostCall.performAll, step, inductionHypothesis, performAll]

/-- An event that was asked for has come of one call after others. -/
theorem exists_of_performAll {calls : List FilterCall} {earlier later : List FilterEvent} {event : FilterEvent}
    {f : Filters} (recorded : (performAll f calls).1 = earlier ++ event :: later) :
    ∃ front call, (performAll f front).1 = earlier ∧ (perform (performAll f front).2 call).1 = event := by
  induction earlier generalizing f calls with
  | nil =>
    cases calls with
    | nil => cases recorded
    | cons call rest => exact ⟨[], call, rfl, (List.cons.inj recorded).1⟩
  | cons first others inductionHypothesis =>
    cases calls with
    | nil => cases recorded
    | cons call rest =>
      obtain ⟨same, behind⟩ := List.cons.inj recorded
      obtain ⟨front, last, before, here⟩ := inductionHypothesis behind
      exact ⟨call :: front, last, by rw [← same, ← before]; rfl, here⟩

end FilterCall

namespace Filters

/-- The filters are the standing ones, and each number that was given out is the next one. -/
structure Recorded (events : List FilterEvent) (f : Filters) : Prop where
  entries : f.entries = FilterEvent.standing events
  numbers : (events.filterMap FilterEvent.entry?).map FilterEntry.id = List.range f.nextId

namespace Recorded

variable {events : List FilterEvent} {f : Filters}

theorem perform (recorded : Recorded events f) (call : FilterCall) :
    Recorded (events ++ [(call.perform f).1]) (call.perform f).2 := by
  cases call with
  | add hook change =>
    refine ⟨?_, ?_⟩
    · simp [FilterCall.perform, add, recorded.entries, FilterEvent.standing_added]
    · simp [FilterCall.perform, add, FilterEvent.entry?, recorded.numbers, List.range_succ]
  | remove id =>
    refine ⟨?_, ?_⟩
    · simp [FilterCall.perform, remove, recorded.entries, FilterEvent.standing_removed]
    · simp [FilterCall.perform, remove, FilterEvent.entry?, recorded.numbers]

theorem performAll (recorded : Recorded events f) (calls : List FilterCall) :
    Recorded (events ++ (FilterCall.performAll f calls).1) (FilterCall.performAll f calls).2 := by
  induction calls generalizing events f with
  | nil => simpa [FilterCall.performAll] using recorded
  | cons call rest inductionHypothesis =>
    have step := inductionHypothesis (recorded.perform call)
    rwa [List.append_assoc] at step

end Recorded

theorem recorded_performAll (calls : List FilterCall) :
    Recorded (FilterCall.performAll {} calls).1 (FilterCall.performAll {} calls).2 := by
  have start : Recorded [] {} := ⟨rfl, rfl⟩
  exact start.performAll calls

/-- Taking out filters of other hooks makes no difference to what a hook applies. -/
theorem apply_remove_other {f : Filters} {id : Nat} {hook : Hook}
    (others : ∀ entry ∈ f.entries, entry.id = id → entry.hook ≠ hook) (value : FilterValue) :
    (f.remove id).apply hook value = f.apply hook value := by
  have same : (f.remove id).on hook = f.on hook := by
    rw [on, remove, List.filter_filter, on]
    refine List.filter_congr fun entry member => ?_
    by_cases own : entry.id = id
    · simp [own, others entry member own]
    · simp [own]
  rw [apply, same, apply]

/-- What calls on an empty list of filters have made of it, as it can be told from their events. -/
structure Accounted (events : List FilterEvent) (f : Filters) : Prop where
  /-- No number is given out twice. -/
  distinct : ((events.filterMap FilterEvent.entry?).map FilterEntry.id).Nodup
  /-- Removing succeeds the first time after a filter was added, and at no other time. -/
  present : ∀ earlier id present later, events = earlier ++ .removed id present :: later →
    (present = true ↔ ∃ before entry since, earlier = before ++ .added entry :: since ∧ entry.id = id ∧
      ∀ event ∈ since, event.removes id = false)
  count : ∀ hook, f.count hook = ((FilterEvent.standing events).filter fun entry => entry.hook == hook).length
  /-- The standing filters of a hook are applied one after the other. -/
  applied : ∀ hook value, f.apply hook value =
    ((FilterEvent.standing events).filter fun entry => entry.hook == hook).foldl (fun value entry => entry.change value) value
  addedApart : ∀ hook other change, hook ≠ other → ∀ value, (f.add hook change).1.apply other value = f.apply other value
  /-- A number that was given out for another hook, or not at all. -/
  removedApart : ∀ id hook, (∀ entry, .added entry ∈ events → entry.id = id → entry.hook ≠ hook) →
    ∀ value, (f.remove id).apply hook value = f.apply hook value

theorem present_iff {calls : List FilterCall} {earlier later : List FilterEvent} {id : Nat} {present : Bool}
    (happened : (FilterCall.performAll {} calls).1 = earlier ++ .removed id present :: later) :
    present = true ↔ ∃ before entry since, earlier = before ++ .added entry :: since ∧ entry.id = id ∧
      ∀ event ∈ since, event.removes id = false := by
  obtain ⟨front, call, rfl, last⟩ := FilterCall.exists_of_performAll happened
  cases call with
  | add hook change => cases last
  | remove other =>
    obtain ⟨rfl, rfl⟩ : other = id ∧ (FilterCall.performAll {} front).2.contains other = present := by
      simpa [FilterCall.perform] using last
    rw [contains, (recorded_performAll front).entries, List.any_eq_true]
    constructor
    · rintro ⟨entry, stands, same⟩
      obtain rfl := eq_of_beq same
      obtain ⟨before, since, made, kept⟩ := FilterEvent.mem_standing.mp stands
      exact ⟨before, entry, since, made, rfl, kept⟩
    · rintro ⟨before, entry, since, made, rfl, kept⟩
      exact ⟨entry, FilterEvent.mem_standing.mpr ⟨before, since, made, kept⟩, beq_self_eq_true entry.id⟩

/-- Whatever filters are added and removed, in any order: numbers are not used again, each filter
is removed once, and what a hook applies are its filters that were added and not removed since,
in the order they were added in. -/
theorem accounted_performAll (calls : List FilterCall) :
    Accounted (FilterCall.performAll {} calls).1 (FilterCall.performAll {} calls).2 where
  distinct := by
    rw [(recorded_performAll calls).numbers]
    exact List.nodup_range
  present _ _ _ _ happened := present_iff happened
  count hook := by rw [count, on, (recorded_performAll calls).entries]
  applied hook value := by rw [apply, on, (recorded_performAll calls).entries]
  addedApart hook other change different value := apply_add_other _ different change value
  removedApart id hook others value := by
    refine apply_remove_other (fun entry member => others entry ?_) value
    rw [(recorded_performAll calls).entries] at member
    obtain ⟨before, since, made, -⟩ := FilterEvent.mem_standing.mp member
    simp [made]

end Filters

end PluginAudit
