import Mathlib.Data.List.Infix
import PluginAudit.Checks.HeaderFields
import PluginAudit.Proofs.Text.Case
import PluginAudit.Proofs.Text.Parts

/-!
# Addresses of a page

An address of a page is written with a scheme, perhaps `www.`, and slashes behind the page, all in
any case.  Comparing drops a scheme and `www.` only where they stand in lower case and brings the
rest into lower case when it is too late for that, so they stay as a part of the address otherwise.
-/

namespace PluginAudit.HeaderFieldsCheck

open PluginAudit.Text

variable {mark : String} {front rest : List Char}

/-! ## Dropping what stands in front -/

def schemes : List String := ["http://", "https://"]

/-- What comparing drops in front of an address. -/
def marks : List String := schemes ++ ["www."]

def dropped (mark : String) (rest : List Char) : List Char := dropRepeated mark.toList rest.length rest

theorem comparableAddress_eq (address : String) :
    comparableAddress address = lowercase (trimEndBy (· == '/')
      (dropped "www." (dropped "http://" (dropped "https://" (trim address.toList))))) := rfl

theorem dropRepeated_of_not_isPrefix {head : List Char} (absent : ¬ head <+: rest) (room : Nat) :
    dropRepeated head room rest = rest := by
  cases room with
  | zero => rfl
  | succ room =>
    have none : after? head rest = none := by rwa [← Option.not_isSome_iff_eq_none, isSome_after?]
    rw [dropRepeated, none]

theorem dropped_append (isMark : mark ∈ marks) (absent : ¬ mark.toList <+: rest) :
    dropped mark (mark.toList ++ rest) = rest := by
  have nonempty : ∀ mark ∈ marks, 0 < mark.toList.length := by decide
  obtain ⟨room, length⟩ := Nat.exists_eq_add_of_lt (nonempty mark isMark)
  have found : after? mark.toList (mark.toList ++ rest) = some rest := after?_eq_some.mpr rfl
  rw [dropped, List.length_append, length, Nat.zero_add, Nat.add_right_comm, dropRepeated, found]
  exact dropRepeated_of_not_isPrefix absent _

theorem lowercase_marks : ∀ mark ∈ marks, asciiLowercase mark.toList = mark.toList := by decide

/-- What does not start with a mark in lower case does not start with it before. -/
theorem not_isPrefix_of_lower (isMark : mark ∈ marks) (absent : ¬ mark.toList <+: asciiLowercase rest) :
    ¬ mark.toList <+: rest := by
  intro starts
  refine absent ?_
  rw [← lowercase_marks mark isMark]
  exact starts.map Char.toLower

theorem isAscii_of_spelled (isMark : mark ∈ marks) (spelled : asciiLowercase front = mark.toList) : IsAscii front := by
  have ascii : ∀ mark ∈ marks, IsAscii mark.toList := by decide
  exact (ascii mark isMark).of_asciiLowercase_eq (spelled.trans (lowercase_marks mark isMark).symm)

theorem dropped_of_absent (isMark : mark ∈ marks) (absent : ¬ mark.toList <+: asciiLowercase rest) :
    dropped mark rest = rest :=
  dropRepeated_of_not_isPrefix (not_isPrefix_of_lower isMark absent) _

/-- A mark is dropped exactly if it is in lower case. -/
theorem dropped_spelled (isMark : mark ∈ marks) (spelled : asciiLowercase front = mark.toList)
    (absent : ¬ mark.toList <+: asciiLowercase rest) :
    dropped mark (front ++ rest) = if front = mark.toList then rest else front ++ rest := by
  split
  case isTrue lower => rw [lower, dropped_append isMark (not_isPrefix_of_lower isMark absent)]
  case isFalse other =>
    refine dropRepeated_of_not_isPrefix (fun starts => other ?_) _
    have sameLength : front.length = mark.toList.length := by rw [← spelled, asciiLowercase, List.length_map]
    exact (List.prefix_of_prefix_length_le (List.prefix_append front rest) starts sameLength.le).eq_of_length sameLength

/-- What starts with another text does not start with a mark, unless one of the two goes on with the other. -/
theorem not_isPrefix_append (apart : ¬ front <+: mark.toList ∧ ¬ mark.toList <+: front) :
    ¬ mark.toList <+: front ++ rest := fun starts =>
  (List.prefix_or_prefix_of_prefix (List.prefix_append front rest) starts).elim apart.1 apart.2

/-! ## Slashes at the end -/

/-- How many characters of a text are no slashes. -/
def solid (text : List Char) : Nat := text.countP (· != '/')

theorem solid_append (front back : List Char) : solid (front ++ back) = solid front + solid back := List.countP_append

theorem solid_slashes (n : Nat) : solid (List.replicate n '/') = 0 := by simp [solid, List.countP_replicate]

theorem solid_blank (blank : ∀ c ∈ rest, isBlank c) : solid rest = rest.length := by
  rw [solid, List.countP_eq_length]
  intro c member
  have noSlash : c ≠ '/' := fun slash => absurd (blank c member) (by simp [slash, isBlank])
  simpa using noSlash

theorem exists_slashes_of_trimEndBy_eq (same : trimEndBy (· == '/') front = trimEndBy (· == '/') rest) :
    ∃ n m, front ++ List.replicate n '/' = rest ++ List.replicate m '/' := by
  have parts (text : List Char) : ∃ n, text = trimEndBy (· == '/') text ++ List.replicate n '/' := by
    obtain ⟨back, parts, slashes⟩ := exists_eq_trimEndBy_append (· == '/') text
    have run : back = List.replicate back.length '/' :=
      List.eq_replicate_of_mem fun c member => by simpa using slashes c member
    exact ⟨back.length, run ▸ parts⟩
  obtain ⟨n, frontParts⟩ := parts front
  obtain ⟨m, restParts⟩ := parts rest
  refine ⟨m, n, ?_⟩
  rw [frontParts, restParts, same, List.append_assoc, List.append_assoc, List.replicate_append_replicate,
    List.replicate_append_replicate, Nat.add_comm]

/-! ## Written addresses -/

/-- A host and a path: ASCII text that starts neither with a scheme nor with `www.` in any case.  It is
no scheme that only lacks its slashes, for an address may add them. -/
structure IsPage (page : List Char) : Prop where
  ascii : IsAscii page
  bare : ∀ mark ∈ marks, ∀ slashes, ¬ mark.toList <+: asciiLowercase page ++ List.replicate slashes '/'

/-- An address of a page, its letters in any case. -/
structure WrittenAddress (page : List Char) where
  scheme : List Char
  www : List Char
  spelling : List Char
  slashes : Nat
  isScheme : asciiLowercase scheme = "http://".toList ∨ asciiLowercase scheme = "https://".toList
  isWww : asciiLowercase www = [] ∨ asciiLowercase www = "www.".toList
  spelled : asciiLowercase spelling = asciiLowercase page

namespace WrittenAddress

variable {page : List Char} {address first second : WrittenAddress page}

def ending (address : WrittenAddress page) : List Char := address.spelling ++ List.replicate address.slashes '/'

def text (address : WrittenAddress page) : String := String.ofList (address.scheme ++ (address.www ++ address.ending))

/-- What comparing leaves of the scheme and `www.`, which go in lower case only; behind a scheme that
stays `www.` is not looked for. -/
def start (address : WrittenAddress page) : List Char :=
  if address.scheme = asciiLowercase address.scheme then
    if address.www = asciiLowercase address.www then [] else address.www
  else address.scheme ++ address.www

/-- What stands in front of the page once it is in lower case. -/
def kept (address : WrittenAddress page) : List Char := asciiLowercase address.start

theorem dropped_schemes (absent : ∀ scheme ∈ schemes, ¬ scheme.toList <+: asciiLowercase rest) :
    dropped "http://" (dropped "https://" (address.scheme ++ rest)) =
      if address.scheme = asciiLowercase address.scheme then rest else address.scheme ++ rest := by
  -- neither scheme starts with the other one, so one of the two steps finds what it drops
  rcases address.isScheme with plain | secure
  · have other : dropped "https://" (address.scheme ++ rest) = address.scheme ++ rest := by
      refine dropped_of_absent (by decide) ?_
      rw [asciiLowercase_append, plain]
      exact not_isPrefix_append (by decide)
    rw [other, dropped_spelled (by decide) plain (absent _ (by decide)), plain]
  · rw [dropped_spelled (by decide) secure (absent _ (by decide)), secure]
    split
    case isTrue => exact dropped_of_absent (by decide) (absent _ (by decide))
    case isFalse =>
      refine dropped_of_absent (by decide) ?_
      rw [asciiLowercase_append, secure]
      exact not_isPrefix_append (by decide)

theorem dropped_www (absent : ¬ "www.".toList <+: asciiLowercase rest) :
    dropped "www." (address.www ++ rest) =
      if address.www = asciiLowercase address.www then rest else address.www ++ rest := by
  rcases address.isWww with none | www
  · have empty : address.www = [] := List.map_eq_nil_iff.mp none
    rw [none, if_pos empty, empty]
    exact dropped_of_absent (by decide) absent
  · rw [dropped_spelled (by decide) www absent, www]

/-- The page in lower case and the slashes behind it, without white space at the end. -/
def body (address : WrittenAddress page) : List Char :=
  trimEndBy isBlank (asciiLowercase page ++ List.replicate address.slashes '/')

theorem asciiLowercase_trimEndBy_ending : asciiLowercase (trimEndBy isBlank address.ending) = address.body := by
  have slashes : asciiLowercase (List.replicate address.slashes '/') = List.replicate address.slashes '/' :=
    List.map_replicate
  rw [asciiLowercase_trimEndBy fun _ => isBlank_toLower, ending, asciiLowercase_append, address.spelled, slashes, body]

theorem scheme_ne_nil (address : WrittenAddress page) : address.scheme ≠ [] := by
  intro empty
  have isScheme := address.isScheme
  rw [empty] at isScheme
  exact absurd isScheme (by decide)

theorem isEmpty_text (address : WrittenAddress page) : address.text.isEmpty = false := by
  have nonempty := List.append_ne_nil_of_left_ne_nil address.scheme_ne_nil (address.www ++ address.ending)
  rw [text, String.isEmpty_eq_false_iff]
  exact fun empty => nonempty (by simpa using congrArg String.toList empty)

theorem trim_text (address : WrittenAddress page) :
    trim address.text.toList = address.scheme ++ (address.www ++ trimEndBy isBlank address.ending) := by
  have trimmed : Trimmed (asciiLowercase (address.scheme ++ address.www)) := by
    rw [asciiLowercase_append]
    rcases address.isScheme with scheme | scheme <;> rcases address.isWww with www | www <;> rw [scheme, www] <;> decide
  have nonempty : address.scheme ++ address.www ≠ [] := List.append_ne_nil_of_left_ne_nil address.scheme_ne_nil _
  rw [text, String.toList_ofList, ← List.append_assoc, (trimmed_of_asciiLowercase trimmed).trim_append nonempty,
    List.append_assoc]

theorem ascii_start : IsAscii address.start := by
  have scheme : IsAscii address.scheme := by
    rcases address.isScheme with plain | secure
    · exact isAscii_of_spelled (by decide) plain
    · exact isAscii_of_spelled (by decide) secure
  have www : IsAscii address.www := by
    rcases address.isWww with none | www
    · rw [List.map_eq_nil_iff.mp none]
      exact List.forall_mem_nil _
    · exact isAscii_of_spelled (by decide) www
  rw [start]
  split
  case isTrue =>
    split
    case isTrue => exact List.forall_mem_nil _
    case isFalse => exact www
  case isFalse => exact List.forall_mem_append.mpr ⟨scheme, www⟩

section

variable (isPage : IsPage page) (address : WrittenAddress page)
include isPage

theorem not_isPrefix_body (isMark : mark ∈ marks) : ¬ mark.toList <+: address.body := fun starts =>
  isPage.bare mark isMark address.slashes (starts.trans (trimEndBy_isPrefix isBlank _))

theorem dropped_text :
    dropped "www." (dropped "http://" (dropped "https://" (trim address.text.toList))) =
      address.start ++ trimEndBy isBlank address.ending := by
  have noScheme : ∀ scheme ∈ schemes,
      ¬ scheme.toList <+: asciiLowercase (address.www ++ trimEndBy isBlank address.ending) := by
    intro scheme member
    rw [asciiLowercase_append, asciiLowercase_trimEndBy_ending]
    rcases address.isWww with none | www
    · rw [none]
      exact not_isPrefix_body isPage address (List.mem_append_left _ member)
    · have apart : ∀ scheme ∈ schemes, ¬ "www.".toList <+: scheme.toList ∧ ¬ scheme.toList <+: "www.".toList := by
        decide
      rw [www]
      exact not_isPrefix_append (apart scheme member)
  rw [trim_text, dropped_schemes noScheme, start]
  split
  case isTrue =>
    rw [dropped_www (by rw [asciiLowercase_trimEndBy_ending]; exact not_isPrefix_body isPage address (by decide))]
    split <;> rfl
  case isFalse =>
    -- the scheme that stays is no `www.`
    rw [List.append_assoc]
    refine dropped_of_absent (by decide) ?_
    rw [asciiLowercase_append]
    rcases address.isScheme with scheme | scheme <;> rw [scheme] <;> exact not_isPrefix_append (by decide)

theorem comparableAddress_text :
    comparableAddress address.text = trimEndBy (· == '/') (address.kept ++ address.body) := by
  have ascii : IsAscii (trimEndBy (· == '/') (address.start ++ trimEndBy isBlank address.ending)) := by
    intro c member
    rcases List.mem_append.mp ((trimEndBy_isPrefix _ _).mem member) with inStart | inEnding
    · exact ascii_start c inStart
    · rcases List.mem_append.mp ((trimEndBy_isPrefix _ _).mem inEnding) with inPage | isSlash
      · exact isPage.ascii.of_asciiLowercase_eq address.spelled c inPage
      · rw [List.eq_of_mem_replicate isSlash]
        decide
  have slash (c : Char) : (c.toLower == '/') = (c == '/') :=
    toLower_cases (p := fun c => (c.toLower == '/') = (c == '/')) (by decide) fun same => by rw [same]
  rw [comparableAddress_eq, dropped_text isPage, lowercase_ascii ascii, asciiLowercase_trimEndBy slash,
    asciiLowercase_append, asciiLowercase_trimEndBy_ending, kept]

end

/-! ## What tells addresses apart -/

def leftovers : List (List Char) :=
  [[], "www.".toList, "http://".toList, "http://www.".toList, "https://".toList, "https://www.".toList]

theorem kept_mem (address : WrittenAddress page) : address.kept ∈ leftovers := by
  rw [kept, start]
  split
  case isTrue =>
    split
    case isTrue => decide
    case isFalse => rcases address.isWww with www | www <;> rw [www] <;> decide
  case isFalse =>
    rw [asciiLowercase_append]
    rcases address.isScheme with scheme | scheme <;> rcases address.isWww with www | www <;> rw [scheme, www] <;> decide

/-- The body is the page with slashes behind it, or white space at the end of the page is trimmed. -/
theorem body_cases (address : WrittenAddress page) :
    address.slashes ≠ 0 ∧ address.body = asciiLowercase page ++ List.replicate address.slashes '/' ∨
      address.slashes = 0 ∧ address.body = trimEndBy isBlank (asciiLowercase page) := by
  rcases eq : address.slashes with _ | slashes
  · right
    rw [body, eq, List.replicate_zero, List.append_nil]
    exact ⟨rfl, rfl⟩
  · left
    rw [body, eq]
    refine ⟨Nat.succ_ne_zero slashes, trimEndBy_eq_self fun c last => ?_⟩
    rw [List.replicate_succ', ← List.append_assoc, List.getLast?_concat] at last
    cases last
    decide

theorem body_eq (stays : page.getLast?.any isBlank → address.slashes ≠ 0) :
    address.body = asciiLowercase page ++ List.replicate address.slashes '/' := by
  rcases body_cases address with ⟨-, whole⟩ | ⟨none, trimmed⟩
  · exact whole
  · rw [trimmed, none, List.replicate_zero, List.append_nil]
    refine trimEndBy_eq_self fun c last => ?_
    rw [asciiLowercase, List.getLast?_map, Option.map_eq_some_iff] at last
    obtain ⟨d, last, rfl⟩ := last
    rw [isBlank_toLower]
    have notBlank := mt stays (not_not.mpr none)
    simpa [last] using notBlank

/-- White space at the end of a page is lost exactly where there are no slashes behind it. -/
theorem slashes_eq_zero_iff (blank : page.getLast?.any isBlank) :
    address.slashes = 0 ↔ solid address.body < solid (asciiLowercase page) := by
  rcases body_cases address with ⟨some, whole⟩ | ⟨none, trimmed⟩
  · rw [whole, solid_append, solid_slashes]
    simpa using some
  · obtain ⟨c, last, isBlankEnd⟩ := (Option.any_eq_true _ _).mp blank
    obtain ⟨others, parts⟩ := List.getLast?_eq_some_iff.mp last
    have blanks : ∀ d ∈ asciiLowercase [c], isBlank d :=
      List.forall_mem_singleton.mpr (isBlank_toLower.trans isBlankEnd)
    have fewer : solid address.body ≤ solid (asciiLowercase others) := by
      rw [trimmed, parts, asciiLowercase_append, trimEndBy_append blanks]
      exact (trimEndBy_isPrefix isBlank _).sublist.countP_le
    have one : solid (asciiLowercase page) = solid (asciiLowercase others) + 1 := by
      rw [parts, asciiLowercase_append, solid_append, solid_blank blanks]
      rfl
    simp only [none, true_iff]
    omega

theorem solid_trimEndBy_le (address : WrittenAddress page) :
    solid (trimEndBy isBlank (asciiLowercase page)) ≤ solid address.body := by
  rcases body_cases address with ⟨-, whole⟩ | ⟨-, trimmed⟩
  · rw [whole, solid_append]
    exact Nat.le_add_right_of_le ((trimEndBy_isPrefix isBlank _).sublist.countP_le)
  · rw [trimmed]

theorem kept_eq_of_isPrefix (isPage : IsPage page) (starts : first.kept <+: second.kept) {n m : Nat}
    (even : first.kept ++ first.body ++ List.replicate n '/' = second.kept ++ second.body ++ List.replicate m '/') :
    first.kept = second.kept := by
  have goesOn : ∀ short ∈ leftovers, ∀ long ∈ leftovers, short <+: long →
      short = long ∨ ∃ mark ∈ marks, short ++ mark.toList <+: long := by decide
  refine (goesOn _ (kept_mem first) _ (kept_mem second) starts).resolve_right ?_
  rintro ⟨mark, isMark, more, longer⟩
  have behind : first.body ++ List.replicate n '/' = mark.toList ++ (more ++ second.body ++ List.replicate m '/') := by
    rw [← longer] at even
    simpa using even
  -- the first body has the mark in it that is kept in front of the second one, so it weighs more
  have solidMark : ∀ mark ∈ marks, 0 < solid mark.toList := by decide
  have heavier : solid second.body < solid first.body := by
    have weights := congrArg solid behind
    simp only [solid_append, solid_slashes] at weights
    have := solidMark mark isMark
    omega
  rcases body_cases first with ⟨-, whole⟩ | ⟨-, trimmed⟩
  · refine isPage.bare mark isMark (first.slashes + n) ⟨more ++ second.body ++ List.replicate m '/', ?_⟩
    rw [← behind, whole, List.append_assoc, List.replicate_append_replicate]
  · -- no body of the page weighs less than the page without white space at its end
    have lighter := solid_trimEndBy_le second
    rw [← trimmed] at lighter
    omega

theorem kept_eq (isPage : IsPage page) {n m : Nat}
    (even : first.kept ++ first.body ++ List.replicate n '/' = second.kept ++ second.body ++ List.replicate m '/') :
    first.kept = second.kept := by
  have inFirst : first.kept <+: first.kept ++ first.body ++ List.replicate n '/' := ⟨_, (List.append_assoc _ _ _).symm⟩
  have inSecond : second.kept <+: first.kept ++ first.body ++ List.replicate n '/' :=
    ⟨_, (List.append_assoc _ _ _).symm.trans even.symm⟩
  rcases List.prefix_or_prefix_of_prefix inFirst inSecond with starts | starts
  · exact kept_eq_of_isPrefix isPage starts even
  · exact (kept_eq_of_isPrefix isPage starts even.symm).symm

end WrittenAddress

/-- Comparing keeps the same in front of the page and, where white space ends the page, both or
neither have slashes behind it. -/
def WrittenAddress.Alike {page : List Char} (first second : WrittenAddress page) : Prop :=
  first.kept = second.kept ∧ (page.getLast?.any isBlank → (first.slashes = 0 ↔ second.slashes = 0))

instance {page : List Char} (first second : WrittenAddress page) : Decidable (first.Alike second) :=
  inferInstanceAs (Decidable (_ ∧ _))

open WrittenAddress in
theorem sameAddress_text {page : List Char} (isPage : IsPage page) (first second : WrittenAddress page) :
    sameAddress first.text second.text ↔ first.Alike second := by
  rw [sameAddress, beq_iff_eq, comparableAddress_text isPage, comparableAddress_text isPage]
  constructor
  · intro same
    obtain ⟨n, m, even⟩ := exists_slashes_of_trimEndBy_eq same
    have kept := kept_eq isPage even
    refine ⟨kept, fun blank => ?_⟩
    have bodies : solid first.body = solid second.body := by
      have weights := congrArg solid even
      simp only [solid_append, solid_slashes, kept] at weights
      omega
    rw [slashes_eq_zero_iff blank, slashes_eq_zero_iff blank, bodies]
  · rintro ⟨kept, alike⟩
    have isSlash (n : Nat) : ∀ c ∈ List.replicate n '/', (c == '/') = true := by simp
    rw [kept]
    by_cases bothTrimmed : page.getLast?.any isBlank ∧ first.slashes = 0
    · rw [body, body, bothTrimmed.2, (alike bothTrimmed.1).mp bothTrimmed.2]
    · have firstBody : first.body = asciiLowercase page ++ List.replicate first.slashes '/' :=
        body_eq fun blank none => bothTrimmed ⟨blank, none⟩
      have secondBody : second.body = asciiLowercase page ++ List.replicate second.slashes '/' :=
        body_eq fun blank none => bothTrimmed ⟨blank, (alike blank).mpr none⟩
      rw [firstBody, secondBody, ← List.append_assoc, ← List.append_assoc, trimEndBy_append (isSlash _),
        trimEndBy_append (isSlash _)]

/-! ## The warning about addresses -/

/-- The warning about a header with the same address twice. -/
def sameAddresses (file : Path) : Finding :=
  finding file .warning "plugin_header_same_plugin_author_uri"
    "The \"Plugin URI\" and \"Author URI\" headers must be different."

theorem filter_complainIf (condition : Bool) (complaint : Finding) (code : String) :
    (complainIf condition complaint).filter (·.code == code) =
      complainIf (condition && complaint.code == code) complaint := by
  cases condition with
  | false => rfl
  | true => by_cases same : complaint.code == code <;> simp [complainIf, same]

theorem complainIf_false (complaint : Finding) : complainIf false complaint = [] := rfl

theorem code_finding (file : Path) (severity : Severity) (code text : String) :
    (finding file severity code text).code = code := rfl

/-- No other finding about a header has the code of the warning. -/
theorem filter_headerFindings (context : PluginContext) (header : PluginHeader) :
    (headerFindings context header).filter (·.code == "plugin_header_same_plugin_author_uri") =
      complainIf
        (!header.pluginUri.isEmpty && !header.authorUri.isEmpty && sameAddress header.pluginUri header.authorUri)
        (sameAddresses context.mainFile) := by
  have requirements :
      (requirementFindings context.mainFile header).filter (·.code == "plugin_header_same_plugin_author_uri") = [] := by
    rw [requirementFindings]
    split <;> simp [filter_complainIf, code_finding, complainIf_false]
  simp [headerFindings, requirements, identityFindings, addressFindings, domainFindings, filter_complainIf,
    code_finding, complainIf_false, sameAddresses]

/-- Two addresses of a page are the same to the check exactly if they are alike, and then a header
with the two is warned about once, and else not at all. -/
theorem sameAddress_iff_alike {page : List Char} (isPage : IsPage page) (first second : WrittenAddress page) :
    (sameAddress first.text second.text ↔ first.Alike second) ∧
      ∀ (context : PluginContext) (header : PluginHeader),
        header.pluginUri = first.text → header.authorUri = second.text →
        (headerFindings context header).filter (·.code == "plugin_header_same_plugin_author_uri") =
          if first.Alike second then [sameAddresses context.mainFile] else [] := by
  refine ⟨sameAddress_text isPage first second, fun context header pluginUri authorUri => ?_⟩
  rw [filter_headerFindings, pluginUri, authorUri, first.isEmpty_text, second.isEmpty_text, complainIf]
  exact if_congr (sameAddress_text isPage first second) rfl rfl

def examplePage : List Char := "example.org/foo".toList

theorem isPage_examplePage : IsPage examplePage where
  ascii := by decide
  bare mark isMark slashes := by
    have apart : ∀ mark ∈ marks,
        ¬ asciiLowercase examplePage <+: mark.toList ∧ ¬ mark.toList <+: asciiLowercase examplePage := by decide
    exact not_isPrefix_append (apart mark isMark)

def plainAddress : WrittenAddress examplePage where
  scheme := "https://".toList
  www := []
  spelling := examplePage
  slashes := 1
  isScheme := by decide
  isWww := by decide
  spelled := rfl

def mixedAddress : WrittenAddress examplePage where
  scheme := "http://".toList
  www := "www.".toList
  spelling := "Example.ORG/Foo".toList
  slashes := 2
  isScheme := by decide
  isWww := by decide
  spelled := by decide

/-- With scheme and `www.` in lower case, their presence, the case of the page and the slashes make
no difference. -/
theorem sameAddress_iff_alike_mixed :
    IsPage examplePage ∧ mixedAddress.text = "http://www.Example.ORG/Foo//" ∧
      plainAddress.text = "https://example.org/foo/" ∧
      sameAddress mixedAddress.text plainAddress.text ∧
      (headerFindings default { pluginUri := mixedAddress.text, authorUri := plainAddress.text }).filter
        (·.code == "plugin_header_same_plugin_author_uri") = [sameAddresses (default : PluginContext).mainFile] := by
  obtain ⟨same, warned⟩ := sameAddress_iff_alike isPage_examplePage mixedAddress plainAddress
  have alike : mixedAddress.Alike plainAddress := by decide
  refine ⟨isPage_examplePage, by decide, by decide, same.mpr alike, ?_⟩
  rw [warned default _ rfl rfl, if_pos alike]

def capitalAddress : WrittenAddress examplePage where
  scheme := "http://".toList
  www := "WWW.".toList
  spelling := examplePage
  slashes := 0
  isScheme := by decide
  isWww := by decide
  spelled := rfl

/-- In capital letters `www.` stays, and the addresses of one page are not the same. -/
theorem sameAddress_capitals :
    IsPage examplePage ∧ capitalAddress.text = "http://WWW.example.org/foo" ∧
      plainAddress.text = "https://example.org/foo/" ∧
      sameAddress capitalAddress.text plainAddress.text = false :=
  ⟨isPage_examplePage, by decide, by decide, by decide +kernel⟩

end PluginAudit.HeaderFieldsCheck
