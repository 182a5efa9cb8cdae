import PluginAudit.Error
import PluginAudit.Text.Version

/-!
# Plugin readmes

The readme of a plugin: a title, header fields, a short description and
sections.

    === Plugin Name ===
    Tags: forms, contact
    Stable tag: 1.2.0

    Short description.

    == Description ==
    ...

A readme whose first line starts with `#` is written in Markdown; its headings
and bold labels are brought into the form above first.  A malformed part never
makes a readme unreadable; it is left out, and a warning says so.
-/

namespace PluginAudit

open PluginAudit.Text

/-- A part of a readme that was left out or cut short. -/
inductive ReadmeWarning
  | invalidPluginNameHeader
  /-- A tag without meaning was dropped. -/
  | ignoredTags
  | tooManyTags
  | requiresHeaderIgnored
  | testedHeaderIgnored
  | requiresPhpHeaderIgnored
  | noShortDescriptionPresent
  | trimmedShortDescription
deriving DecidableEq, Inhabited

namespace ReadmeWarning

def rank : ReadmeWarning → Nat
  | invalidPluginNameHeader => 0
  | ignoredTags => 1
  | tooManyTags => 2
  | requiresHeaderIgnored => 3
  | testedHeaderIgnored => 4
  | requiresPhpHeaderIgnored => 5
  | noShortDescriptionPresent => 6
  | trimmedShortDescription => 7

def code : ReadmeWarning → String
  | invalidPluginNameHeader => "invalid_plugin_name_header"
  | ignoredTags => "ignored_tags"
  | tooManyTags => "too_many_tags"
  | requiresHeaderIgnored => "requires_header_ignored"
  | testedHeaderIgnored => "tested_header_ignored"
  | requiresPhpHeaderIgnored => "requires_php_header_ignored"
  | noShortDescriptionPresent => "no_short_description_present"
  | trimmedShortDescription => "trimmed_short_description"

def message : ReadmeWarning → String
  | invalidPluginNameHeader => "The plugin name header in the readme is missing or malformed."
  | ignoredTags => "One or more tags were ignored."
  | tooManyTags => "Only the first five tags are used."
  | requiresHeaderIgnored =>
      "The \"Requires at least\" field was ignored. It must be a WordPress version."
  | testedHeaderIgnored =>
      "The \"Tested up to\" field was ignored. It must be a WordPress version."
  | requiresPhpHeaderIgnored =>
      "The \"Requires PHP\" field was ignored. It must be a PHP version."
  | noShortDescriptionPresent => "The readme has no short description."
  | trimmedShortDescription => "The short description exceeds the limit of 150 characters."

end ReadmeWarning

structure Readme where
  name : String := ""
  /-- The items of `Contributors`. -/
  contributors : List String := []
  /-- The items of `Tags` that are kept. -/
  tags : List String := []
  donateLink : String := ""
  requires : String := ""
  tested : String := ""
  requiresPhp : String := ""
  stableTag : String := ""
  license : String := ""
  licenseUri : String := ""
  /-- The text between the header fields and the first section. -/
  shortDescription : String := ""
  sections : List (String × String) := []
  upgradeNotice : List (String × String) := []
  /-- What was left out or cut short, each warning once. -/
  warnings : List ReadmeWarning := []
deriving DecidableEq, Inhabited

namespace Readme

def maximalTags : Nat := 5

/-- The number of characters of the short description that are kept. -/
def maximalShortDescription : Nat := 150

def ignoredTags : List (List Char) := ["plugin".toList, "wordpress".toList]

def warn (readme : Readme) (warning : ReadmeWarning) : Readme :=
  { readme with
    warnings := SortedList.insert (fun a b => a.rank < b.rank) warning readme.warnings }

/-! ## Headings -/

/-- The level and title of a heading line: one to three equals signs in front
of a title, and at least one behind it. -/
def heading? (line : List Char) : Option (Nat × List Char) :=
  let trimmed := trim line
  let level := (trimmed.takeWhile (· == '=')).length
  let title := trim (trimBy (· == '=') trimmed)
  if level == 0 || level > 3 || title.isEmpty then none
  else if trimmed.getLast? == some '=' then some (level, title)
  else none

/-- Whether a line is a heading of the given level. -/
def isHeadingOf (level : Nat) (line : List Char) : Bool :=
  match heading? line with
  | some (l, _) => l == level
  | none => false

/-! ## Markdown -/

/-- A Markdown line in readme form: a heading, a bold label, or unchanged. -/
def plainLine (line : List Char) : List Char :=
  let trimmed := trim line
  let level := (trimmed.takeWhile (· == '#')).length
  if 1 ≤ level && level ≤ 3 && (trimmed.drop level).head? == some ' ' then
    let marks := List.replicate (4 - level) '='
    marks ++ [' '] ++ trim (trimBy (· == '#') trimmed) ++ [' '] ++ marks
  else
    match after? ['*', '*'] trimmed with
    | none => line
    | some rest =>
        match upTo? [':', '*', '*'] rest with
        | none => line
        | some label => label ++ [':'] ++ rest.drop (label.length + 3)

/-- Whether the first line that is not blank starts with `#`. -/
def isMarkdown (ls : List (List Char)) : Bool :=
  match ls.find? fun line => !isBlankText line with
  | some line => (line.dropWhile isBlank).head? == some '#'
  | none => false

/-- The lines of a readme text in readme form. -/
def plainLines (text : List Char) : List (List Char) :=
  let body := replace ['\r', '\n'] ['\n'] (text.dropWhile (· == Char.ofNat 0xFEFF))
  let ls := lines body
  if isMarkdown ls then lines (joinWith ['\n'] (ls.map plainLine)) else ls

/-! ## Header fields -/

/-- The items of a list without those that differ from an earlier one only by
case. -/
def distinctItems : (seen : List (List Char)) → List (List Char) → List (List Char)
  | _, [] => []
  | seen, item :: items =>
      let key := lowercase item
      if seen.contains key then distinctItems seen items
      else item :: distinctItems (key :: seen) items

def distinctCommaItems (value : List Char) : List (List Char) := distinctItems [] (commaItems value)

def withTags (readme : Readme) (value : List Char) : Readme :=
  let all := distinctCommaItems value
  let useful := all.filter fun tag => !ignoredTags.contains (lowercase tag)
  let kept := useful.take maximalTags
  let noted := if useful.length == all.length then readme else readme.warn .ignoredTags
  let noted := if kept.length == useful.length then noted else noted.warn .tooManyTags
  { noted with tags := kept.map String.ofList }

/-- Take over a header field; unknown fields are refused. -/
def withField? (readme : Readme) (key value : List Char) : Option Readme :=
  let text := String.ofList value
  match String.ofList (lowercase key) with
  | "contributors" =>
      some { readme with contributors := (distinctCommaItems value).map String.ofList }
  | "tags" => some (readme.withTags value)
  | "donate link" => some { readme with donateLink := text }
  | "requires at least" =>
      some (if isReleaseVersion value then { readme with requires := text }
        else readme.warn .requiresHeaderIgnored)
  | "tested up to" | "tested" =>
      some (if isReleaseVersion value then { readme with tested := text }
        else readme.warn .testedHeaderIgnored)
  | "requires php" =>
      some (if isReleaseVersion value then { readme with requiresPhp := text }
        else readme.warn .requiresPhpHeaderIgnored)
  | "stable tag" => some { readme with stableTag := text }
  | "license" => some { readme with license := text }
  | "license uri" => some { readme with licenseUri := text }
  | _ => none

/-- Read header fields up to the blank line behind them and give the lines that
follow.  `started` says whether a field was read. -/
def readFields (readme : Readme) (started : Bool) : List (List Char) → Readme × List (List Char)
  | [] => (readme, [])
  | line :: rest =>
      if isBlankText line then
        -- blank lines in front of the first field are passed over
        if started then (readme, rest) else readFields readme started rest
      else if (heading? line).isSome then (readme, line :: rest)
      else
        match splitOnce? ':' line with
        | none => (readme, line :: rest)
        | some (key, value) =>
            match readme.withField? (trim key) (trim value) with
            | some readme' => readFields readme' true rest
            -- an unknown field is ignored among fields and ends a header without any
            | none => if started then readFields readme true rest else (readme, line :: rest)

/-! ## Title, short description and sections -/

/-- Take over the title if the first line holds one. -/
def readTitle (readme : Readme) : List (List Char) → Readme × List (List Char)
  | [] => (readme.warn .invalidPluginNameHeader, [])
  | line :: rest =>
      match heading? line with
      | some (3, title) => ({ readme with name := String.ofList title }, rest)
      | _ => (readme.warn .invalidPluginNameHeader, line :: rest)

/-- Take over the lines of the short description as one line. -/
def withShortDescription (readme : Readme) (ls : List (List Char)) : Readme :=
  let collapsed := joinWith [' '] (words (joinWith [' '] (ls.map trim)))
  if collapsed.isEmpty then readme.warn .noShortDescriptionPresent
  else if collapsed.length > maximalShortDescription then
    { readme.warn .trimmedShortDescription with
      shortDescription := String.ofList (collapsed.take maximalShortDescription) }
  else { readme with shortDescription := String.ofList collapsed }

/-- Cut lines into the parts that headings of one level start: the title of
each part and its lines. -/
def partsAt (level : Nat) : List (List Char) → List (List Char × List (List Char))
  | [] => []
  | line :: rest =>
      match heading? line with
      | some (l, title) =>
          if l == level then
            (title, rest.takeWhile fun next => !isHeadingOf level next) :: partsAt level rest
          -- lines in front of the first heading of the level belong to no part
          else partsAt level rest
      | none => partsAt level rest

def withNotice (readme : Readme) (part : List Char × List (List Char)) : Readme :=
  { readme with
    upgradeNotice := Assoc.put textLess (String.ofList part.1)
      (String.ofList (trim (joinWith [' '] (part.2.map trim)))) readme.upgradeNotice }

def sectionTitle (title : List Char) : String :=
  let lower := String.ofList (lowercase title)
  if lower == "frequently asked questions" then "faq" else lower

def withSection (readme : Readme) (part : List Char × List (List Char)) : Readme :=
  let title := sectionTitle part.1
  let noted :=
    if title == "upgrade notice" then (partsAt 1 part.2).foldl withNotice readme else readme
  { noted with
    sections := Assoc.put textLess title (String.ofList (trim (joinWith ['\n'] part.2)))
      noted.sections }

/-- Read the lines of a readme in readme form. -/
def ofLines (ls : List (List Char)) : Readme :=
  let (titled, rest) := readTitle {} (ls.dropWhile isBlankText)
  let (described, rest) := readFields titled false rest
  let short := rest.takeWhile fun line => !isHeadingOf 2 line
  let body := rest.dropWhile fun line => !isHeadingOf 2 line
  (partsAt 2 body).foldl withSection (described.withShortDescription short)

def parse (text : String) : Readme := ofLines (plainLines text.toList)

/-- Read the readme in the file a path leads to. -/
def read (disk : Disk) (path : Path) : Except Error Readme :=
  match disk.readLossy path with
  | .ok text => .ok (parse text)
  | .error fault => .error (.file path fault)

/-! ## Finding the file -/

/-- How well a file name fits: a plain readme is preferred to a Markdown one. -/
def nameRank? (name : String) : Option Nat :=
  match name.lowercased with
  | "readme.txt" => some 0
  | "readme.md" => some 1
  | _ => none

/-- The regular files in a directory whose name has the given rank, in the
order of their names. -/
def candidates (disk : Disk) (directory : Path) (rank : Nat) : List Path :=
  match disk.locate directory with
  | .error _ => []
  | .ok location =>
      (disk.childNames location).filterMap fun name =>
        match disk.entry? (location ++ [name]) with
        | some (.file _ _) =>
            if nameRank? name == some rank then some (directory.join name) else none
        | _ => none

/-- The readme file of the plugin in a directory. -/
def find? (disk : Disk) (directory : Path) : Option Path :=
  (candidates disk directory 0 ++ candidates disk directory 1).head?

end Readme

end PluginAudit
