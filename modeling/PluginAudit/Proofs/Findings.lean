import Mathlib.Algebra.GroupWithZero.Nat
import PluginAudit.Linter
import PluginAudit.Proofs.SortedList

/-!
# What is recorded

Findings are kept by file, line and column, and counted.  After any calls that record some,
what is stored at a place is what these calls recorded there, in their order, and the counts
are the numbers of what is stored.  No place is stored where nothing was recorded.
-/

namespace PluginAudit

open PluginAudit.Text

namespace Assoc

variable {κ β : Type} {less : κ → κ → Bool} {entries : List (κ × List β)}

/-- Entries in the order of their keys, each with a list that is not empty and of a kind. -/
structure Filled (less : κ → κ → Bool) (kind : List β → Prop) (entries : List (κ × List β)) : Prop where
  ascending : Ascending less entries
  some : ∀ entry ∈ entries, entry.2 ≠ []
  kind : ∀ entry ∈ entries, kind entry.2

theorem Filled.nil {kind : List β → Prop} : Filled less kind ([] : List (κ × List β)) := ⟨.nil, by simp, by simp⟩

/-- The sum of the sizes of all lists that are stored. -/
def sumOf (size : List β → Nat) (entries : List (κ × List β)) : Nat := (entries.map fun entry => size entry.2).sum

/-- A change that makes the list under a key larger by a number makes the whole larger by it. -/
theorem sumOf_update {size : List β → Nat} {change : List β → List β} {more : Nat} (nil : size [] = 0)
    (grows : ∀ list, size (change list) = size list + more) (less : κ → κ → Bool) (key : κ)
    (entries : List (κ × List β)) :
    sumOf size (update less key [] change entries) = sumOf size entries + more := by
  unfold sumOf
  induction entries with
  | nil => simp [update, grows, nil]
  | cons entry rest inductionHypothesis =>
    rw [update]
    split
    · simp only [List.map_cons, List.sum_cons, grows, nil]
      omega
    · split
      · simp only [List.map_cons, List.sum_cons, inductionHypothesis]
        omega
      · simp only [List.map_cons, List.sum_cons, grows]
        omega

theorem update_ne_nil (less : κ → κ → Bool) (key : κ) (change : List β → List β) (entries : List (κ × List β)) :
    update less key [] change entries ≠ [] := by
  cases entries with
  | nil => simp [update]
  | cons entry rest =>
    rw [update]
    split
    · simp
    · split <;> simp

variable [BEq κ]

/-- The list under a key, which is empty if there is none. -/
def listAt (key : κ) (entries : List (κ × List β)) : List β := (get? key entries).getD []

variable [LawfulBEq κ]

namespace Filled

variable {kind : List β → Prop}

theorem listAt (filled : Filled less kind entries) (nil : kind []) (key : κ) : kind (listAt key entries) := by
  rw [Assoc.listAt]
  cases found : get? key entries with
  | none => exact nil
  | some list => exact filled.kind _ (mem_of_get?_eq_some found)

theorem update (order : KeyOrder less) (filled : Filled less kind entries) (nil : kind []) (key : κ)
    {change : List β → List β} (some : ∀ list, change list ≠ []) (keeps : ∀ list, kind list → kind (change list)) :
    Filled less kind (update less key [] change entries) := by
  refine ⟨ascending_update order key [] change filled.ascending, ?_, ?_⟩
  all_goals
    intro entry member
    rcases mem_update order filled.ascending member with rfl | before
  · exact some _
  · exact filled.some entry before
  · exact keeps _ (filled.listAt nil key)
  · exact filled.kind entry before

end Filled

theorem listAt_update [DecidableEq κ] (order : KeyOrder less) (ascending : Ascending less entries) (key other : κ)
    (change : List β → List β) :
    listAt other (update less key [] change entries) =
      if other = key then change (listAt key entries) else listAt other entries := by
  rw [listAt]
  split
  case isTrue same =>
    rw [same, get?_update_self order key [] change ascending]
    rfl
  case isFalse different =>
    rw [get?_update_other order different]
    rfl

end Assoc

namespace Messages

variable {messages : Messages}

/-- Messages in the order of their places, where no file, line or column is named without a
message. -/
abbrev Orderly (messages : Messages) : Prop :=
  Assoc.Filled textLess (Assoc.Filled natLess (Assoc.Filled natLess fun _ => True)) messages

theorem at'_eq_listAt (messages : Messages) (file : String) (line column : Nat) :
    messages.at' file line column =
      Assoc.listAt column (Assoc.listAt line (Assoc.listAt file messages)) := by
  unfold at' Assoc.listAt
  cases Assoc.get? file messages with
  | none => rfl
  | some lines =>
    cases found : Assoc.get? line lines with
    | none => simp [found, Assoc.get?]
    | some columns => simp [found]

theorem orderly_add (orderly : messages.Orderly) (file : String) (line column : Nat) (message : Message) :
    (messages.add file line column message).Orderly := by
  refine orderly.update .text .nil file (Assoc.update_ne_nil _ _ _) fun lines ofFile => ?_
  refine ofFile.update .number .nil line (Assoc.update_ne_nil _ _ _) fun columns ofLine => ?_
  exact ofLine.update .number trivial column (by simp) fun _ _ => trivial

/-- A message is recorded behind those of its place, and nothing else changes. -/
theorem at'_add (orderly : messages.Orderly) (file : String) (line column : Nat) (message : Message)
    (file' : String) (line' column' : Nat) :
    (messages.add file line column message).at' file' line' column' =
      messages.at' file' line' column' ++
        if file = file' ∧ line = line' ∧ column = column' then [message] else [] := by
  have ofFile := orderly.listAt .nil file
  have ofLine := ofFile.listAt .nil line
  rw [at'_eq_listAt, at'_eq_listAt, add, Assoc.listAt_update .text orderly.ascending]
  split
  case isFalse different => simp [Ne.symm different]
  case isTrue sameFile =>
    rw [sameFile, Assoc.listAt_update .number ofFile.ascending]
    split
    case isFalse different => simp [Ne.symm different]
    case isTrue sameLine =>
      rw [sameLine, Assoc.listAt_update .number ofLine.ascending]
      split
      case isFalse different => simp [Ne.symm different]
      case isTrue sameColumn => simp [sameColumn]

theorem rows_length {file : String} {lines : FileMessages} (found : Assoc.get? file messages = some lines) :
    (messages.rows file).length = Assoc.sumOf (Assoc.sumOf List.length) lines := by
  simp [rows, found, Assoc.sumOf, List.length_flatMap]

theorem total_eq_sumOf (orderly : messages.Orderly) :
    messages.total = Assoc.sumOf (Assoc.sumOf (Assoc.sumOf List.length)) messages := by
  have distinct : (messages.map Prod.fst).Nodup :=
    List.pairwise_map.mpr (orderly.ascending.imp fun before => KeyOrder.text.ne before)
  have counted : messages.total = (messages.map fun entry => (messages.rows entry.1).length).sum := by
    rw [total, List.sum, List.foldr_map]
  rw [counted, Assoc.sumOf]
  exact congrArg List.sum (List.map_congr_left fun entry member => rows_length (Assoc.get?_of_mem distinct member))

theorem total_add (orderly : messages.Orderly) (file : String) (line column : Nat) (message : Message) :
    (messages.add file line column message).total = messages.total + 1 := by
  rw [total_eq_sumOf orderly, total_eq_sumOf (orderly_add orderly ..), add]
  refine Assoc.sumOf_update rfl (fun lines => ?_) ..
  refine Assoc.sumOf_update rfl (fun columns => ?_) ..
  exact Assoc.sumOf_update rfl (fun list => List.length_append) ..

end Messages

/-! ## Reports -/

namespace LinterReport

theorem ascending_foldlM {step : List (String × List LinterMessage) → String × Json →
      Option (List (String × List LinterMessage))}
    (keeps : ∀ {files member changed}, Assoc.Ascending textLess files → step files member = some changed →
      Assoc.Ascending textLess changed)
    {members : List (String × Json)} {before files : List (String × List LinterMessage)}
    (ascending : Assoc.Ascending textLess before) (read : members.foldlM step before = some files) :
    Assoc.Ascending textLess files := by
  induction members generalizing before with
  | nil =>
    cases read
    exact ascending
  | cons member rest inductionHypothesis =>
    rw [List.foldlM_cons, Option.bind_eq_bind, Option.bind_eq_some_iff] at read
    obtain ⟨middle, first, later⟩ := read
    exact inductionHypothesis (keeps ascending first) later

theorem ascending_of_filesOfJson? {value : Json} {files : List (String × List LinterMessage)}
    (read : filesOfJson? value = some files) : Assoc.Ascending textLess files := by
  cases value with
  | object members =>
    refine ascending_foldlM (fun ascending stored => ?_) .nil read
    obtain ⟨messages, -, rfl⟩ := Option.map_eq_some_iff.mp stored
    exact Assoc.ascending_put .text _ _ ascending
  | _ => cases read

/-- The files of a report that was read come in the order of their names, each once. -/
theorem ascending_files {text : String} {report : LinterReport} (read : parse text = .ok report) :
    Assoc.Ascending textLess report.files := by
  rw [parse] at read
  split at read
  case h_2 => cases read
  case h_1 found isReport =>
    cases read
    obtain ⟨value, -, isReport⟩ := Option.bind_eq_some_iff.mp isReport
    rw [ofJson?] at isReport
    split at isReport
    case h_2 => cases isReport
    case h_1 files _ =>
      obtain ⟨files', read, rfl⟩ := Option.map_eq_some_iff.mp isReport
      cases files with
      | none =>
        cases read
        exact .nil
      | some value => exact ascending_of_filesOfJson? read

end LinterReport

/-! ## Calls -/

/-- A call that records findings. -/
inductive Recording
  /-- A single finding. -/
  | finding (single : Finding)
  /-- All that a linter reports. -/
  | report (whole : LinterReport)

namespace Recording

/-- What a call records, one by one: of a report every message, file by file in the order of
their names. -/
def findings : Recording → List Finding
  | .finding single => [single]
  | .report whole =>
      (Assoc.inOrder textLess whole.files).flatMap fun (file, messages) =>
        messages.map fun message =>
          { severity := if message.kind = "ERROR" then .error else .warning
            text := message.text
            code := message.source
            file := file
            line := message.line
            column := message.column }

/-- A report names its files in order and no file twice. -/
def WellFormed : Recording → Prop
  | .finding _ => True
  | .report whole => Assoc.Ascending textLess whole.files

instance : (call : Recording) → Decidable call.WellFormed
  | .finding _ => .isTrue trivial
  | .report whole => inferInstanceAs (Decidable (whole.files.Pairwise fun a b => textLess a.1 b.1))

theorem findings_report {whole : LinterReport} (wellFormed : (report whole).WellFormed) :
    (report whole).findings = whole.findings := by
  rw [findings, Assoc.inOrder_eq_self .text wellFormed, LinterReport.findings]
  refine List.flatMap_congr fun entry _ => List.map_congr_left fun message _ => ?_
  simp only [LinterReport.finding, beq_iff_eq]

end Recording

/-- Whether messages of a severity are left out where warnings or errors are. -/
def Severity.leftOut (warnings errors : Bool) : Severity → Bool
  | .error => errors
  | .warning => warnings

namespace Findings

/-- Carry out a call. -/
def record (f : Findings) : Recording → Findings
  | .finding single => f.add single
  | .report whole => f.addAll whole.findings

/-- Carry out calls in order. -/
def recordAll (f : Findings) (calls : List Recording) : Findings := calls.foldl record f

/-- The messages of a severity. -/
def stored (f : Findings) : Severity → Messages
  | .error => f.errors
  | .warning => f.warnings

/-- The number of messages of a severity. -/
def count (f : Findings) : Severity → Nat
  | .error => f.errorCount
  | .warning => f.warningCount

/-- The messages of the findings of a severity at a place, in their order. -/
def messagesAt (context : PluginContext) (severity : Severity) (file : String) (line column : Nat)
    (findings : List Finding) : List Message :=
  (findings.filter fun finding => finding.severity = severity ∧
    relativeFile context finding.file = file ∧ finding.line = line ∧ finding.column = column).map Finding.message

variable {f : Findings}

/-! ## One finding -/

theorem context_add (f : Findings) (finding : Finding) : (f.add finding).context = f.context := by
  unfold add
  dsimp only
  split <;> rfl

theorem stored_add (f : Findings) (finding : Finding) (severity : Severity) :
    (f.add finding).stored severity =
      if finding.severity = severity then
        (f.stored severity).add (relativeFile f.context finding.file) finding.line finding.column finding.message
      else f.stored severity := by
  cases given : finding.severity <;> cases severity <;> simp [add, given, stored]

theorem count_add (f : Findings) (finding : Finding) (severity : Severity) :
    (f.add finding).count severity = f.count severity + if finding.severity = severity then 1 else 0 := by
  cases given : finding.severity <;> cases severity <;> simp [add, given, count]

/-- Findings whose messages are in order and are counted. -/
structure Counted (f : Findings) : Prop where
  orderly : ∀ severity, (f.stored severity).Orderly
  count_eq : ∀ severity, f.count severity = (f.stored severity).total

theorem counted_none (context : PluginContext) : (none context).Counted := by
  constructor <;> intro severity <;> cases severity
  · exact .nil
  · exact .nil
  · rfl
  · rfl

theorem Counted.add (counted : f.Counted) (finding : Finding) : (f.add finding).Counted := by
  constructor <;> intro severity <;> rw [stored_add]
  · split
    · exact Messages.orderly_add (counted.orderly severity) ..
    · exact counted.orderly severity
  · rw [count_add]
    split
    · rw [Messages.total_add (counted.orderly severity), counted.count_eq]
    · exact counted.count_eq severity

theorem at'_stored_add (counted : f.Counted) (finding : Finding) (severity : Severity) (file : String)
    (line column : Nat) :
    ((f.add finding).stored severity).at' file line column =
      (f.stored severity).at' file line column ++ messagesAt f.context severity file line column [finding] := by
  rw [stored_add]
  split
  case isTrue same =>
    rw [Messages.at'_add (counted.orderly severity)]
    split <;> simp_all [messagesAt]
  case isFalse different => simp [messagesAt, different]

/-! ## Findings in order -/

theorem context_addAll (f : Findings) (found : List Finding) :
    (f.addAll found).context = f.context := by
  induction found generalizing f with
  | nil => rfl
  | cons finding rest inductionHypothesis =>
    exact (inductionHypothesis (f.add finding)).trans (context_add f finding)

theorem addAll_append (f : Findings) (found more : List Finding) :
    f.addAll (found ++ more) = (f.addAll found).addAll more := List.foldl_append

theorem Counted.addAll (counted : f.Counted) (found : List Finding) : (f.addAll found).Counted := by
  induction found generalizing f with
  | nil => exact counted
  | cons finding rest inductionHypothesis => exact inductionHypothesis (counted.add finding)

theorem count_addAll (f : Findings) (found : List Finding) (severity : Severity) :
    (f.addAll found).count severity = f.count severity + found.countP fun finding => finding.severity = severity := by
  induction found generalizing f with
  | nil => rfl
  | cons finding rest inductionHypothesis =>
    rw [addAll, List.foldl_cons]
    refine (inductionHypothesis (f.add finding)).trans ?_
    rw [count_add, List.countP_cons]
    simp only [decide_eq_true_eq]
    omega

/-- What is stored at a place after findings were recorded is what was there before and what
they say about the place. -/
theorem at'_stored_addAll (counted : f.Counted) (found : List Finding) (severity : Severity) (file : String)
    (line column : Nat) :
    ((f.addAll found).stored severity).at' file line column =
      (f.stored severity).at' file line column ++ messagesAt f.context severity file line column found := by
  induction found generalizing f with
  | nil => exact (List.append_nil _).symm
  | cons finding rest inductionHypothesis =>
    have later := inductionHypothesis (counted.add finding)
    rw [at'_stored_add counted, context_add, List.append_assoc] at later
    rw [addAll, List.foldl_cons]
    refine later.trans ?_
    rw [← List.singleton_append (l := rest)]
    simp only [messagesAt, List.filter_append, List.map_append]

/-! ## Calls in order -/

/-- Calls record what they stand for, one finding after another. -/
theorem recordAll_eq_addAll {calls : List Recording} (wellFormed : ∀ call ∈ calls, call.WellFormed) (f : Findings) :
    f.recordAll calls = f.addAll (calls.flatMap Recording.findings) := by
  induction calls generalizing f with
  | nil => rfl
  | cons call rest inductionHypothesis =>
    have later := inductionHypothesis fun other member => wellFormed other (List.mem_cons_of_mem call member)
    rw [recordAll, List.foldl_cons, List.flatMap_cons, addAll_append]
    refine (later (f.record call)).trans ?_
    cases call with
    | finding single => rfl
    | report whole => rw [Recording.findings_report (wellFormed _ List.mem_cons_self), record]

theorem stored_without (f : Findings) (warnings errors : Bool) (severity : Severity) :
    (f.without warnings errors).stored severity =
      if severity.leftOut warnings errors then [] else f.stored severity := by
  cases warnings <;> cases errors <;> cases severity <;> rfl

theorem count_without (f : Findings) (warnings errors : Bool) (severity : Severity) :
    (f.without warnings errors).count severity = if severity.leftOut warnings errors then 0 else f.count severity := by
  cases warnings <;> cases errors <;> cases severity <;> rfl

/-- After any calls the messages of a place are what the calls recorded there, in their order,
places without a message are not named, and all messages are counted.  Leaving warnings or
errors out empties just these. -/
theorem stored_recordAll (context : PluginContext) {calls : List Recording}
    (wellFormed : ∀ call ∈ calls, call.WellFormed) (severity : Severity) :
    (((none context).recordAll calls).stored severity).Orderly ∧
      (∀ file line column, (((none context).recordAll calls).stored severity).at' file line column =
        messagesAt context severity file line column (calls.flatMap Recording.findings)) ∧
      ((none context).recordAll calls).count severity =
        (((none context).recordAll calls).stored severity).total ∧
      ((none context).recordAll calls).count severity =
        (calls.flatMap Recording.findings).countP (fun finding => finding.severity = severity) ∧
      ∀ warnings errors,
        (((none context).recordAll calls).without warnings errors).stored severity =
            (if severity.leftOut warnings errors then [] else ((none context).recordAll calls).stored severity) ∧
          (((none context).recordAll calls).without warnings errors).count severity =
            if severity.leftOut warnings errors then 0 else ((none context).recordAll calls).count severity := by
  have counted := (counted_none context).addAll (calls.flatMap Recording.findings)
  rw [recordAll_eq_addAll wellFormed]
  refine ⟨counted.orderly severity, fun file line column => ?_, counted.count_eq severity, ?_, fun warnings errors => ?_⟩
  · rw [at'_stored_addAll (counted_none context)]
    cases severity <;> rfl
  · rw [count_addAll]
    cases severity <;> exact Nat.zero_add _
  · exact ⟨stored_without _ warnings errors severity, count_without _ warnings errors severity⟩

/-- A finding and a report that names the same file in two ways. -/
def formCalls : List Recording :=
  [.finding { severity := .error, text := "late", code := "b", file := "plugins/form/a.php", line := 3 },
    .report { files :=
      [("a.php", [⟨"ERROR", 3, 0, "r", "first"⟩, ⟨"NOTICE", 1, 2, "s", "note"⟩]),
        ("plugins/form/a.php", [⟨"ERROR", 3, 0, "r", "second"⟩, ⟨"ERROR", 2, 0, "r", "other"⟩])] }]

theorem stored_recordAll_formCalls :
    (∀ call ∈ formCalls, call.WellFormed) ∧
      Messages.at' (((none (.ofMainFile ⟨"plugins/form/form.php"⟩ ⟨"plugins"⟩ "")).recordAll formCalls).stored .error)
          "a.php" 3 0 =
        [⟨"late", "b", .none⟩, ⟨"first", "r", .none⟩, ⟨"second", "r", .none⟩] ∧
      ((none (.ofMainFile ⟨"plugins/form/form.php"⟩ ⟨"plugins"⟩ "")).recordAll formCalls).count .error = 4 := by
  have wellFormed : ∀ call ∈ formCalls, call.WellFormed := by decide +kernel
  obtain ⟨-, at'_eq, -, count_eq, -⟩ :=
    stored_recordAll (.ofMainFile ⟨"plugins/form/form.php"⟩ ⟨"plugins"⟩ "") wellFormed .error
  refine ⟨wellFormed, (at'_eq ..).trans ?_, count_eq.trans ?_⟩
  all_goals
    rw [formCalls, List.flatMap_cons, List.flatMap_singleton,
      Recording.findings_report (wellFormed _ (List.mem_cons_of_mem _ List.mem_cons_self))]
    decide +kernel

end Findings

end PluginAudit
