import Mathlib.Algebra.BigOperators.Group.Finset.Basic
import PluginAudit.Proofs.Findings
import PluginAudit.Report.Text

/-!
# Findings as text, row by row

The text of findings has a block for each file that something was found in, and in it a row
for each error and each warning.  Rows are sorted by their places, and as sorting keeps the
order of rows at one place, errors stand before warnings there and both in the order in which
they were recorded.
-/

namespace PluginAudit

/-- Sorting keeps the order of what it does not tell apart. -/
theorem filter_mergeSort {α : Type} {le : α → α → Bool} (transitive : ∀ a b c, le a b → le b c → le a c)
    (total : ∀ a b, le a b || le b a) {keep : α → Bool} (alike : ∀ a b, keep a → keep b → le a b) (items : List α) :
    (items.mergeSort le).filter keep = items.filter keep := by
  have kept : (items.filter keep).Pairwise (le · ·) := by
    apply List.pairwise_of_forall_mem_list
    intro a here b there
    exact alike a b (List.mem_filter.mp here).2 (List.mem_filter.mp there).2
  have among := (List.sublist_mergeSort transitive total kept List.filter_sublist).filter keep
  rw [List.filter_filter, List.filter_congr fun _ _ => Bool.and_self _] at among
  exact (among.eq_of_length ((List.mergeSort_perm items le).filter keep).length_eq.symm).symm

/-- A sum over a list without repetitions may leave out what adds nothing. -/
theorem sum_map_eq_of_subset {κ : Type} [DecidableEq κ] {all some : List κ} (distinct : all.Nodup)
    (someDistinct : some.Nodup) (subset : some ⊆ all) {size : κ → Nat} (others : ∀ key ∉ some, size key = 0) :
    (all.map size).sum = (some.map size).sum := by
  rw [← List.sum_toFinset size distinct, ← List.sum_toFinset size someDistinct]
  symm
  apply Finset.sum_subset
  · simpa [Finset.subset_iff] using fun key member => subset member
  · intro key _ other
    exact others key (by simpa using other)

namespace Assoc

variable {κ α β : Type} {less : κ → κ → Bool} {entries : List (κ × List β)}

/-- Where all lists are filled, so is what they are put together from. -/
theorem Filled.flatMap_ne_nil {kind : List β → Prop} (filled : Filled less kind entries) (given : entries ≠ [])
    {items : κ × List β → List α} (some : ∀ entry, kind entry.2 → entry.2 ≠ [] → items entry ≠ []) :
    entries.flatMap items ≠ [] := by
  cases entries with
  | nil => exact absurd rfl given
  | cons entry rest =>
    have first := some entry (filled.kind entry List.mem_cons_self) (filled.some entry List.mem_cons_self)
    simp [first]

/-- Of entries with distinct keys only the one under a key has the key. -/
theorem flatMap_ite [BEq κ] [LawfulBEq κ] [DecidableEq κ] (distinct : (entries.map Prod.fst).Nodup) (key : κ)
    {items : List β → List α} (nil : items [] = []) :
    (entries.flatMap fun entry => if entry.1 = key then items entry.2 else []) = items (listAt key entries) := by
  induction entries with
  | nil => exact nil.symm
  | cons entry rest inductionHypothesis =>
    rw [List.map_cons, List.nodup_cons] at distinct
    rw [List.flatMap_cons, inductionHypothesis distinct.2, listAt, listAt, get?]
    by_cases same : entry.1 = key
    · have once : get? key rest = none := get?_eq_none_iff_not_mem.mpr (same ▸ distinct.1)
      simp [same, once, nil]
    · simp [same]

end Assoc

namespace Messages

variable {messages : Messages} {file : String}

/-- The rows of a file at a place are the messages that are stored there. -/
theorem filter_rows (orderly : messages.Orderly) (file : String) (line column : Nat) :
    (messages.rows file).filter (fun row => row.1 = line ∧ row.2.1 = column) =
      (messages.at' file line column).map fun message => (line, column, message) := by
  have ofFile := orderly.listAt .nil file
  have ofLine := ofFile.listAt .nil line
  -- what is left of an entry whose number is another is nothing
  have atColumn (entry : Nat × List Message) :
      ((entry.2.map fun message => (line, entry.1, message)).filter fun row => row.1 = line ∧ row.2.1 = column) =
        if entry.1 = column then entry.2.map fun message => (line, column, message) else [] := by
    by_cases same : entry.1 = column
    · simp [same]
    · simp [same]
  have atLine (entry : Nat × List (Nat × List Message)) :
      ((entry.2.flatMap fun columns => columns.2.map fun message => (entry.1, columns.1, message)).filter
        fun row => row.1 = line ∧ row.2.1 = column) =
        if entry.1 = line then
          entry.2.flatMap fun columns =>
            if columns.1 = column then columns.2.map fun message => (line, column, message) else []
        else [] := by
    by_cases same : entry.1 = line
    · rw [if_pos same, same, List.filter_flatMap]
      exact List.flatMap_congr fun columns _ => atColumn columns
    · rw [if_neg same, List.filter_flatMap]
      simp [same]
  rw [at'_eq_listAt, rows, List.filter_flatMap]
  show List.flatMap _ (Assoc.listAt file messages) = _
  rw [List.flatMap_congr fun entry _ => atLine entry, Assoc.flatMap_ite (ofFile.ascending.nodup_keys .number) line rfl,
    Assoc.flatMap_ite (ofLine.ascending.nodup_keys .number) column rfl]

theorem mem_rows (orderly : messages.Orderly) {line column : Nat} {message : Message} :
    (line, column, message) ∈ messages.rows file ↔ message ∈ messages.at' file line column := by
  have same := congrArg ((line, column, message) ∈ ·) (filter_rows orderly file line column)
  simpa using same

/-- Only files under which something is stored have rows. -/
theorem rows_eq_nil (absent : file ∉ Assoc.keys messages) : messages.rows file = [] := by
  simp [rows, Assoc.get?_eq_none_iff_not_mem.mpr absent]

theorem mem_keys_iff (orderly : messages.Orderly) :
    file ∈ Assoc.keys messages ↔ ∃ line column, messages.at' file line column ≠ [] := by
  constructor
  · intro member
    obtain ⟨⟨name, lines⟩, stored, rfl⟩ := List.mem_map.mp member
    have found := Assoc.get?_of_mem (orderly.ascending.nodup_keys .text) stored
    -- a file is stored with a line, a line with a column and a column with a message
    have rows_ne_nil : messages.rows name ≠ [] := by
      rw [rows, found]
      apply (orderly.kind _ stored).flatMap_ne_nil (orderly.some _ stored)
      intro line ofLine given
      apply ofLine.flatMap_ne_nil given
      intro column _ given
      simpa using given
    obtain ⟨⟨line, column, message⟩, row⟩ := List.exists_mem_of_ne_nil _ rows_ne_nil
    exact ⟨line, column, List.ne_nil_of_mem ((mem_rows orderly).mp row)⟩
  · rintro ⟨line, column, given⟩
    obtain ⟨message, stored⟩ := List.exists_mem_of_ne_nil _ given
    by_contra absent
    have row := (mem_rows orderly).mpr stored
    rw [rows_eq_nil absent] at row
    cases row

/-- The rows of all files are as many as the messages. -/
theorem sum_rows (orderly : messages.Orderly) {files : List String} (distinct : files.Nodup)
    (all : Assoc.keys messages ⊆ files) :
    (files.map fun file => (messages.rows file).length).sum = messages.total := by
  have keysDistinct : (Assoc.keys messages).Nodup := orderly.ascending.nodup_keys .text
  rw [sum_map_eq_of_subset distinct keysDistinct all fun file absent => by rw [rows_eq_nil absent, List.length_nil]]
  rw [total, List.sum, Assoc.keys, List.map_map, List.foldr_map]
  rfl

end Messages

namespace Row

/-- The order of rows: by their places, at one place errors before warnings. -/
def Precedes (a b : Row) : Prop :=
  a.line < b.line ∨ a.line = b.line ∧
    (a.column < b.column ∨ a.column = b.column ∧ (a.severity = .error ∨ b.severity = .warning))

def isAt (severity : Severity) (line column : Nat) (r : Row) : Bool :=
  r.severity = severity ∧ r.line = line ∧ r.column = column

theorem notBehind_iff {a b : Row} :
    a.notBehind b ↔ a.line < b.line ∨ a.line = b.line ∧ a.column ≤ b.column := by
  simp [notBehind]

theorem notBehind_transitive (a b c : Row) (first : a.notBehind b) (second : b.notBehind c) : a.notBehind c := by
  rw [notBehind_iff] at *
  omega

theorem notBehind_total (a b : Row) : a.notBehind b || b.notBehind a := by
  rw [Bool.or_eq_true, notBehind_iff, notBehind_iff]
  omega

end Row

/-- A block of a text: a file and its rows. -/
structure Block where
  file : String
  rows : List Row
deriving DecidableEq

/-! ## The text of rows and blocks -/

/-- A text between the sequences that turn a colour on and off, if colours are wanted. -/
def tinted (color : Bool) (sequence text : String) : String :=
  if color then sequence ++ text ++ "\x1b[0m" else text

/-- The line that shows a finding: its place, what it is, its code and what it says.  A link
stands on a line of its own below. -/
def Row.text (color : Bool) (r : Row) : String :=
  let kind :=
    match r.severity with
    | .error => tinted color "\x1b[0m\x1b[1m\x1b[31m" "ERROR"
    | .warning => tinted color "\x1b[0m\x1b[1m\x1b[33m" "WARNING"
  let link :=
    match r.message.link with
    | some address => "    " ++ address ++ "\n"
    | none => ""
  tinted color "\x1b[0m\x1b[33m" (toString r.line ++ ":" ++ toString r.column) ++ " " ++ kind ++ " " ++
    tinted color "\x1b[0m\x1b[1m" r.message.code ++ " " ++ r.message.text ++ "\n" ++ link

/-- The name of a file and the lines of its findings, with an empty line at the end. -/
def Block.text (color : Bool) (b : Block) : String :=
  "FILE: " ++ tinted color "\x1b[0m\x1b[36m" (b.file ++ "\n") ++ String.join (b.rows.map (Row.text color)) ++ "\n"

/-- The line with the numbers of errors and warnings. -/
def totals (errors warnings : Nat) : String :=
  toString errors ++ (if errors = 1 then " error, " else " errors, ") ++
    toString warnings ++ (if warnings = 1 then " warning" else " warnings") ++ "\n"

theorem renderSegments_append (color : Bool) (front back : List Segment) :
    renderSegments color (front ++ back) = renderSegments color front ++ renderSegments color back := by
  rw [renderSegments, List.map_append, String.join_append]
  rfl

theorem renderSegments_flatMap (color : Bool) {α : Type} (items : List α) (parts : α → List Segment) :
    renderSegments color (items.flatMap parts) =
      String.join (items.map fun item => renderSegments color (parts item)) := by
  induction items with
  | nil => rfl
  | cons item rest inductionHypothesis =>
    rw [List.flatMap_cons, renderSegments_append, inductionHypothesis, List.map_cons, String.join_cons]

theorem Row.render_segments (color : Bool) (r : Row) : renderSegments color r.segments = r.text color := by
  obtain ⟨line, column, severity, text, code, link⟩ := r
  have itself (s : String) : toString s = s := rfl
  -- the characters are compared, as the texts are put together in another order
  apply String.toList_inj.mp
  cases severity <;> cases link <;> cases color <;>
    simp [renderSegments, segments, Row.text, tinted, Segment.render, Segment.plain, Segment.styled, Style.sequence,
      escape, String.join_cons, itself]

namespace Findings

variable {f : Findings} {file : String}

/-- A block shows what was found in its file: its rows are in order, and those of a severity at
a place are the messages that are stored there, in the order in which they are stored. -/
structure Shows (f : Findings) (block : Block) : Prop where
  ordered : block.rows.Pairwise Row.Precedes
  message_eq : ∀ severity line column,
    (block.rows.filter (Row.isAt severity line column)).map Row.message =
      (f.stored severity).at' block.file line column

/-- The rows of a severity, by their places. -/
def rowsFrom (f : Findings) (severity : Severity) (file : String) : List Row :=
  ((f.stored severity).rows file).map fun row => ⟨row.1, row.2.1, severity, row.2.2⟩

theorem rowsOf_eq (f : Findings) (file : String) :
    f.rowsOf file = (f.rowsFrom .error file ++ f.rowsFrom .warning file).mergeSort Row.notBehind := rfl

theorem severity_rowsFrom {severity : Severity} {row : Row} (member : row ∈ f.rowsFrom severity file) :
    row.severity = severity := by
  obtain ⟨_, -, rfl⟩ := List.mem_map.mp member
  rfl

theorem filter_rowsFrom (counted : f.Counted) (severity given : Severity) (file : String) (line column : Nat) :
    ((f.rowsFrom given file).filter (Row.isAt severity line column)).map Row.message =
      if given = severity then (f.stored severity).at' file line column else [] := by
  rw [rowsFrom, List.filter_map]
  by_cases same : given = severity
  · subst same
    have here : (Row.isAt given line column ∘ fun row => ⟨row.1, row.2.1, given, row.2.2⟩) =
        fun row : Nat × Nat × Message => decide (row.1 = line ∧ row.2.1 = column) := by
      funext row
      simp [Row.isAt]
    rw [if_pos rfl, here, Messages.filter_rows (counted.orderly given)]
    simp [Function.comp_def]
  · simp [Row.isAt, same, Function.comp_def]

/-- Rows that stand before others at the same place are errors, or the others are warnings. -/
theorem pairwise_rowsFrom (f : Findings) (file : String) :
    (f.rowsFrom .error file ++ f.rowsFrom .warning file).Pairwise
      fun a b => a.severity = .error ∨ b.severity = .warning := by
  apply List.pairwise_append.mpr
  refine ⟨?_, ?_, fun a member _ _ => .inl (severity_rowsFrom member)⟩
  all_goals
    apply List.pairwise_of_forall_mem_list
    intro a here b there
  · exact .inl (severity_rowsFrom here)
  · exact .inr (severity_rowsFrom there)

/-- Rows at one place stand as before they were sorted. -/
theorem filter_rowsOf (f : Findings) (file : String) {keep : Row → Bool} {line column : Nat}
    (here : ∀ row, keep row → row.line = line ∧ row.column = column) :
    (f.rowsOf file).filter keep = (f.rowsFrom .error file ++ f.rowsFrom .warning file).filter keep := by
  apply filter_mergeSort Row.notBehind_transitive Row.notBehind_total
  intro first second kept keptToo
  have firstPlace := here first kept
  have secondPlace := here second keptToo
  rw [Row.notBehind_iff]
  omega

theorem pairwise_rowsOf (f : Findings) (file : String) : (f.rowsOf file).Pairwise Row.Precedes := by
  have sorted : (f.rowsOf file).Pairwise (Row.notBehind · ·) :=
    List.pairwise_mergeSort Row.notBehind_transitive Row.notBehind_total _
  rw [List.pairwise_iff_forall_sublist] at sorted ⊢
  intro a b among
  have places := Row.notBehind_iff.mp (sorted among)
  by_cases same : a.line = b.line ∧ a.column = b.column
  · -- the order of places leaves this one open, so what counts is how the rows stood before
    let here : Row → Bool := fun row => row.line = b.line ∧ row.column = b.column
    have unsorted : (f.rowsOf file).filter here = _ := filter_rowsOf f file fun row kept => of_decide_eq_true kept
    have pair : [a, b].Sublist ((f.rowsOf file).filter here) := by
      simpa [here, same] using among.filter here
    have severities := List.pairwise_iff_forall_sublist.mp (pairwise_rowsFrom f file)
      (pair.trans (unsorted ▸ List.filter_sublist))
    exact .inr ⟨same.1, .inr ⟨same.2, severities⟩⟩
  · unfold Row.Precedes
    omega

/-- The rows of a file are in order and show just what is stored for it. -/
theorem shows_rowsOf (counted : f.Counted) (file : String) : f.Shows ⟨file, f.rowsOf file⟩ where
  ordered := pairwise_rowsOf f file
  message_eq severity line column := by
    rw [filter_rowsOf f file fun row kept => (of_decide_eq_true kept).2, List.filter_append, List.map_append, filter_rowsFrom counted, filter_rowsFrom counted]
    cases severity <;> simp

theorem length_rowsOf (f : Findings) (file : String) :
    (f.rowsOf file).length = (f.errors.rows file).length + (f.warnings.rows file).length := by
  simp [rowsOf_eq, rowsFrom, stored]

/-! ## The files -/

theorem mem_files_iff : file ∈ f.files ↔ file ∈ Assoc.keys f.errors ∨ file ∈ Assoc.keys f.warnings := by
  rw [files, SortedList.mem_foldl_insert .text]
  simp

theorem pairwise_files (f : Findings) : f.files.Pairwise (· < ·) := by
  have ascending : f.files.Pairwise (textLess · ·) := SortedList.pairwise_foldl_insert .text _ .nil
  exact ascending.imp fun before => by simpa [textLess] using before

theorem sum_rowsOf (counted : f.Counted) :
    (f.files.map fun file => (f.rowsOf file).length).sum = f.errorCount + f.warningCount := by
  have distinct : f.files.Nodup := (pairwise_files f).imp fun before => before.ne
  have errors := Messages.sum_rows (counted.orderly .error) distinct fun file member => mem_files_iff.mpr (.inl member)
  have warnings :=
    Messages.sum_rows (counted.orderly .warning) distinct fun file member => mem_files_iff.mpr (.inr member)
  simp only [length_rowsOf, List.sum_map_add]
  exact congrArg₂ (· + ·) (errors.trans (counted.count_eq .error).symm) (warnings.trans (counted.count_eq .warning).symm)

/-- The files with errors or warnings are those that findings name. -/
theorem mem_files_addAll (context : PluginContext) (findings : List Finding) :
    file ∈ ((none context).addAll findings).files ↔ ∃ finding ∈ findings, relativeFile context finding.file = file := by
  have counted := (counted_none context).addAll findings
  have stored_iff (severity : Severity) :
      file ∈ Assoc.keys (((none context).addAll findings).stored severity) ↔
        ∃ finding ∈ findings, finding.severity = severity ∧ relativeFile context finding.file = file := by
    rw [Messages.mem_keys_iff (counted.orderly severity)]
    have start (line column : Nat) : ((none context).stored severity).at' file line column = [] := by
      cases severity <;> rfl
    simp only [at'_stored_addAll (counted_none context), start, messagesAt, List.nil_append, ne_eq,
      List.map_eq_nil_iff, List.filter_eq_nil_iff, decide_eq_true_eq, not_forall, not_not]
    constructor
    · rintro ⟨line, column, finding, member, severity_eq, file_eq, -⟩
      exact ⟨finding, member, severity_eq, file_eq⟩
    · rintro ⟨finding, member, severity_eq, file_eq⟩
      exact ⟨finding.line, finding.column, finding, member, severity_eq, file_eq, rfl, rfl⟩
  rw [mem_files_iff]
  refine (or_congr (stored_iff .error) (stored_iff .warning)).trans ⟨?_, ?_⟩
  · intro either
    cases either with
    | inl found =>
      obtain ⟨finding, member, -, file_eq⟩ := found
      exact ⟨finding, member, file_eq⟩
    | inr found =>
      obtain ⟨finding, member, -, file_eq⟩ := found
      exact ⟨finding, member, file_eq⟩
  · rintro ⟨finding, member, file_eq⟩
    cases severity : finding.severity with
    | error => exact .inl ⟨finding, member, severity, file_eq⟩
    | warning => exact .inr ⟨finding, member, severity, file_eq⟩

/-! ## The text -/

theorem block_text (color : Bool) (f : Findings) (file : String) :
    renderSegments color (f.block file) = Block.text color ⟨file, f.rowsOf file⟩ := by
  have name : renderSegments color [.plain "FILE: ", .styled .path (file ++ "\n")] =
      "FILE: " ++ tinted color "\x1b[0m\x1b[36m" (file ++ "\n") := by
    cases color <;> simp [renderSegments, Segment.render, Segment.plain, Segment.styled, tinted, Style.sequence,
      escape, String.join_cons]
  have rows : ((f.rowsOf file).map fun row => renderSegments color row.segments) =
      (f.rowsOf file).map (Row.text color) := List.map_congr_left fun row _ => row.render_segments color
  rw [block, renderSegments_append, renderSegments_append, renderSegments_flatMap, name, rows]
  rfl

theorem counted_append (errors warnings : Nat) :
    counted errors "error" ++ ", " ++ counted warnings "warning" ++ "\n" = totals errors warnings := by
  have itself (s : String) : toString s = s := rfl
  apply String.toList_inj.mp
  by_cases oneError : errors = 1 <;> by_cases oneWarning : warnings = 1 <;>
    simp [counted, totals, oneError, oneWarning, itself]

/-- The text of findings shows each of them once, in a row of the block of its file.  Blocks come
in the order of their files and rows in that of their places, errors before warnings and
otherwise as they were recorded, and the last line says how many rows there are. -/
theorem toText_shows_all {context : PluginContext} {findings : List Finding}
    (given : ((none context).addAll findings).isEmpty = false) (color : Bool) :
    ∃ blocks : List Block,
      ((none context).addAll findings).toText color = String.join (blocks.map (Block.text color)) ++
        totals ((none context).addAll findings).errorCount ((none context).addAll findings).warningCount ∧
      (blocks.map Block.file).Pairwise (· < ·) ∧
      (∀ file, file ∈ blocks.map Block.file ↔ ∃ finding ∈ findings, relativeFile context finding.file = file) ∧
      (∀ block ∈ blocks, ((none context).addAll findings).Shows block) ∧
      (∀ severity file line column, (((none context).addAll findings).stored severity).at' file line column =
        messagesAt context severity file line column findings) ∧
      (blocks.map fun block => block.rows.length).sum =
        ((none context).addAll findings).errorCount + ((none context).addAll findings).warningCount := by
  have counted := (counted_none context).addAll findings
  let f := (none context).addAll findings
  have names : (f.files.map fun file => Block.mk file (f.rowsOf file)).map Block.file = f.files := by
    simp [Function.comp_def]
  refine ⟨f.files.map fun file => ⟨file, f.rowsOf file⟩, ?_, ?_, fun file => ?_, ?_, ?_, ?_⟩
  · have blocks : (f.files.map fun file => renderSegments color (f.block file)) =
        (f.files.map fun file => Block.mk file (f.rowsOf file)).map (Block.text color) := by
      rw [List.map_map]
      exact List.map_congr_left fun file _ => block_text color f file
    simp only [toText, segments, given, Bool.false_eq_true, if_false, renderSegments_append, renderSegments_flatMap]
    rw [← blocks, ← counted_append]
    simp [f, renderSegments, Segment.render, Segment.plain, String.join_cons]
  · rw [names]
    exact pairwise_files f
  · rw [names]
    exact mem_files_addAll context findings
  · intro block member
    obtain ⟨file, -, rfl⟩ := List.mem_map.mp member
    exact shows_rowsOf counted file
  · intro severity file line column
    rw [at'_stored_addAll (counted_none context)]
    cases severity <;> rfl
  · rw [List.map_map]
    exact sum_rowsOf counted

/-- An error that was recorded behind a warning at the same place, and a file of its own. -/
def formFindings : List Finding :=
  [{ severity := .warning, text := "late", code := "w", file := "plugins/form/b.php", line := 2 },
    { severity := .error, text := "first", code := "e", file := "plugins/form/b.php", line := 2,
      link := some "http://example.org" },
    { severity := .warning, text := "other", code := "o", file := "a.php" }]

theorem toText_shows_all_form :
    let f := (none (.ofMainFile ⟨"plugins/form/form.php"⟩ ⟨"plugins"⟩ "")).addAll formFindings
    f.isEmpty = false ∧
      f.toText false =
        "FILE: a.php\n0:0 WARNING o other\n\n" ++
        "FILE: b.php\n2:0 ERROR e first\n    http://example.org\n2:0 WARNING w late\n\n" ++
        "1 error, 2 warnings\n" ∧
      ∃ blocks : List Block, f.toText false = String.join (blocks.map (Block.text false)) ++ totals 1 2 ∧
        (blocks.map fun block => block.rows.length).sum = 3 := by
  intro f
  have given : f.isEmpty = false := by decide +kernel
  have files : f.files = ["a.php", "b.php"] := by decide +kernel
  -- rows that are in order already are left so
  have inOrder {file : String} {rows : List Row} (stored : f.rowsFrom .error file ++ f.rowsFrom .warning file = rows)
      (sorted : rows.Pairwise (Row.notBehind · ·)) : f.rowsOf file = rows := by
    rw [rowsOf_eq, stored, List.mergeSort_of_pairwise sorted]
  have first : f.rowsOf "a.php" = [⟨0, 0, .warning, ⟨"other", "o", .none⟩⟩] :=
    inOrder (by decide +kernel) (by decide)
  have second : f.rowsOf "b.php" =
      [⟨2, 0, .error, ⟨"first", "e", some "http://example.org"⟩⟩, ⟨2, 0, .warning, ⟨"late", "w", .none⟩⟩] :=
    inOrder (by decide +kernel) (by decide)
  obtain ⟨blocks, text_eq, -, -, -, -, rows⟩ := toText_shows_all given false
  refine ⟨given, ?_, blocks, text_eq, rows⟩
  rw [toText, segments, if_neg (by simp [given]), files]
  simp only [List.flatMap_cons, List.flatMap_nil, block, first, second]
  decide +kernel

end Findings

end PluginAudit
