import PluginAudit.Disk

/-!
# Shell scripts

A linter may be a shell script.  This module runs scripts that print text and
end: simple commands with quoting, parameters and here-documents, joined by
line ends, semicolons and the two conditional signs.  A script cannot change
the file tree.
-/

namespace PluginAudit.Script

open PluginAudit.Text

/-- How a script ended and what it printed. -/
structure Outcome where
  /-- The exit status; there is none if the script was killed. -/
  status : Option Nat
  output : List Char
  complaints : List Char
deriving Inhabited

inductive Piece
  | literal (c : Char)
  /-- A parameter; one between double quotes is not split into words. -/
  | parameter (name : Char) (quoted : Bool)
  /-- A quotation starts here, so there is a word even if it is empty. -/
  | quotation
deriving DecidableEq

inductive Token
  | word (pieces : List Piece)
  /-- An operator between commands, or a redirection. -/
  | operator (sign : String)
  /-- A here-document: its end mark, whether parameters in it are replaced, and
  whether tabs at the start of its lines are dropped. -/
  | hereDocument (mark : List Char) (expands dropTabs : Bool)
deriving DecidableEq

inductive Quoting
  | bare
  | single
  | double
  | comment
deriving DecidableEq

def isParameterName (c : Char) : Bool := isAsciiDigit c || "*@#?$".toList.contains c

/-- The tokens with the current word behind them. -/
def flush (word : List Piece) (tokens : List Token) : List Token :=
  if word.isEmpty then tokens else .word word.reverse :: tokens

/-- Read one command line: its tokens and the text behind it.  Words and tokens
are collected in reverse. -/
def readLine : Quoting → List Piece → List Token → List Char → List Token × List Char
  | _, word, tokens, [] => ((flush word tokens).reverse, [])
  | .comment, word, tokens, c :: rest =>
      if c == '\n' then ((flush word tokens).reverse, rest)
      else readLine .comment word tokens rest
  | .single, word, tokens, c :: rest =>
      if c == '\'' then readLine .bare word tokens rest
      else readLine .single (.literal c :: word) tokens rest
  | .double, word, tokens, '"' :: rest => readLine .bare word tokens rest
  | .double, word, tokens, '\\' :: d :: rest =>
      -- between double quotes a backslash is an escape only before these signs
      if "$\\\"\x60".toList.contains d then readLine .double (.literal d :: word) tokens rest
      else if d == '\n' then readLine .double word tokens rest
      else readLine .double (.literal d :: .literal '\\' :: word) tokens rest
  | .double, word, tokens, '$' :: d :: rest =>
      if isParameterName d then readLine .double (.parameter d true :: word) tokens rest
      else readLine .double (.literal '$' :: word) tokens (d :: rest)
  | .double, word, tokens, c :: rest => readLine .double (.literal c :: word) tokens rest
  | .bare, word, tokens, '\n' :: rest => ((flush word tokens).reverse, rest)
  | .bare, word, tokens, ' ' :: rest => readLine .bare [] (flush word tokens) rest
  | .bare, word, tokens, '\t' :: rest => readLine .bare [] (flush word tokens) rest
  | .bare, word, tokens, '\'' :: rest => readLine .single (.quotation :: word) tokens rest
  | .bare, word, tokens, '"' :: rest => readLine .double (.quotation :: word) tokens rest
  | .bare, word, tokens, ';' :: rest => readLine .bare [] (.operator ";" :: flush word tokens) rest
  | .bare, word, tokens, '&' :: '&' :: rest =>
      readLine .bare [] (.operator "&&" :: flush word tokens) rest
  | .bare, word, tokens, '|' :: '|' :: rest =>
      readLine .bare [] (.operator "||" :: flush word tokens) rest
  | .bare, word, tokens, '>' :: '&' :: '2' :: rest =>
      -- a word that is the digit belongs to the redirection
      let before := if word == [.literal '1'] then tokens else flush word tokens
      readLine .bare [] (.operator ">&2" :: before) rest
  | .bare, word, tokens, '<' :: '<' :: '-' :: rest =>
      readLine .bare [] (.operator "<<-" :: flush word tokens) rest
  | .bare, word, tokens, '<' :: '<' :: rest =>
      readLine .bare [] (.operator "<<" :: flush word tokens) rest
  | .bare, word, tokens, '\\' :: d :: rest =>
      if d == '\n' then readLine .bare word tokens rest
      else readLine .bare (.literal d :: .quotation :: word) tokens rest
  | .bare, word, tokens, '$' :: d :: rest =>
      if isParameterName d then readLine .bare (.parameter d false :: word) tokens rest
      else readLine .bare (.literal '$' :: word) tokens (d :: rest)
  | .bare, word, tokens, c :: rest =>
      if c == '#' && word.isEmpty then readLine .comment word tokens rest
      else readLine .bare (.literal c :: word) tokens rest

/-- The characters of a word that is the end mark of a here-document. -/
def markOf (pieces : List Piece) : List Char :=
  pieces.filterMap fun
    | .literal c => some c
    | _ => none

/-- The tokens with each redirection from here and its mark made one. -/
def withDocuments : List Token → List Token
  | .operator sign :: .word pieces :: rest =>
      if sign == "<<" || sign == "<<-" then
        .hereDocument (markOf pieces) (!pieces.contains .quotation) (sign == "<<-") ::
          withDocuments rest
      else .operator sign :: .word pieces :: withDocuments rest
  | token :: rest => token :: withDocuments rest
  | [] => []

/-- The lines up to an end mark, and the text behind it. -/
def readDocument (mark : List Char) (dropTabs : Bool) :
    List (List Char) → List (List Char) × List (List Char)
  | [] => ([], [])
  | line :: rest =>
      let line := if dropTabs then line.dropWhile (· == '\t') else line
      if line == mark then ([], rest)
      else
        let (body, behind) := readDocument mark dropTabs rest
        (line :: body, behind)

/-- A simple command: its words, the text of its here-document, and whether it
prints to standard error. -/
structure Command where
  /-- The words, the name of the command first. -/
  words : List (List Piece) := []
  document : Option (List Piece) := none
  toErrors : Bool := false

/-- The parts of the text of a here-document. -/
def documentPieces (expands : Bool) : List Char → List Piece
  | [] => []
  | '$' :: d :: rest =>
      if expands && isParameterName d then .parameter d true :: documentPieces expands rest
      else .literal '$' :: documentPieces expands (d :: rest)
  | '\\' :: d :: rest =>
      if expands && "$\\\x60".toList.contains d then .literal d :: documentPieces expands rest
      else .literal '\\' :: documentPieces expands (d :: rest)
  | c :: rest => .literal c :: documentPieces expands rest

structure State where
  name : String
  arguments : List String
  status : Nat := 0
  output : List Char := []
  complaints : List Char := []
  /-- Whether it has ended, and how. -/
  ended : Option (Option Nat) := none

namespace State

def parameter (s : State) (name : Char) : List Char :=
  if name == '0' then s.name.toList
  else if isAsciiDigit name then
    ((s.arguments[name.toNat - '1'.toNat]?).getD "").toList
  else if name == '#' then (toString s.arguments.length).toList
  else if name == '?' then (toString s.status).toList
  else if name == '$' then "1".toList
  else joinWith [' '] (s.arguments.map String.toList)

/-- The characters of a word; `none` ends one word and starts another. -/
def expand (s : State) : List Piece → List (Option Char)
  | [] => []
  | .literal c :: rest => some c :: expand s rest
  | .quotation :: rest => expand s rest
  | .parameter name quoted :: rest =>
      let value : List (Option Char) :=
        if name == '@' then
          -- the arguments stay words of their own
          (s.arguments.map fun a => a.toList.map some).intersperse [none] |>.flatten
        else if quoted then (s.parameter name).map some
        else (s.parameter name).map fun c => if c == ' ' then none else some c
      value ++ expand s rest

/-- Cut a word at the places where it is split. -/
def cutWords : List (Option Char) → List (List Char)
  | [] => [[]]
  | none :: rest => [] :: cutWords rest
  | some c :: rest =>
      match cutWords rest with
      | [] => [[c]]
      | word :: words => (c :: word) :: words

def words (s : State) (pieces : List Piece) : List (List Char) :=
  let cut := cutWords (s.expand pieces)
  if pieces.contains .quotation then cut else cut.filter fun word => !word.isEmpty

def documentText (s : State) (pieces : List Piece) : List Char :=
  (s.expand pieces).map fun c => c.getD ' '

def print (s : State) (toErrors : Bool) (text : List Char) : State :=
  if toErrors then { s with complaints := s.complaints ++ text }
  else { s with output := s.output ++ text }

def withStatus (s : State) (status : Nat) : State := { s with status }

end State

/-- A text with the escapes that printing commands know replaced. -/
def unescape : List Char → List Char
  | [] => []
  | '\\' :: c :: rest =>
      match c with
      | 'n' => '\n' :: unescape rest
      | 't' => '\t' :: unescape rest
      | 'r' => '\r' :: unescape rest
      | 'a' => '\x07' :: unescape rest
      | 'b' => '\x08' :: unescape rest
      | 'f' => '\x0c' :: unescape rest
      | 'v' => '\x0b' :: unescape rest
      | '\\' => '\\' :: unescape rest
      | c => '\\' :: c :: unescape rest
  | c :: rest => c :: unescape rest

/-- One round through a format: the text and the arguments that are left. -/
def formatOnce : List Char → List (List Char) → List Char × List (List Char)
  | [], arguments => ([], arguments)
  | '%' :: '%' :: rest, arguments =>
      let (text, left) := formatOnce rest arguments
      ('%' :: text, left)
  | '%' :: 's' :: rest, arguments =>
      let (text, left) := formatOnce rest (arguments.drop 1)
      (arguments.head?.getD [] ++ text, left)
  | '%' :: 'd' :: rest, arguments =>
      let (text, left) := formatOnce rest (arguments.drop 1)
      (arguments.head?.getD ['0'] ++ text, left)
  | c :: rest, arguments =>
      let (text, left) := formatOnce rest arguments
      (c :: text, left)

/-- A format, gone through again as long as arguments are left. -/
def formatAll (format : List Char) : (room : Nat) → List (List Char) → List Char
  | 0, _ => []
  | room + 1, arguments =>
      let (text, left) := formatOnce format arguments
      if left.isEmpty || left.length == arguments.length then text
      else text ++ formatAll format room left

def statusOf (text : List Char) : Nat := ((String.ofList text).toNat?.getD 2) % 256

def Command.run (disk : Disk) (line : Nat) (s : State) (command : Command) : State :=
  match command.words.flatMap s.words with
  | [] => s
  | name :: arguments =>
      let print (text : List Char) : State := (s.print command.toErrors text).withStatus 0
      match String.ofList name with
      | "echo" =>
          match arguments with
          | ['-', 'n'] :: rest => print (unescape (joinWith [' '] rest))
          | _ => print (unescape (joinWith [' '] arguments) ++ ['\n'])
      | "printf" =>
          match arguments with
          | [] => s.withStatus 2
          | format :: rest => print (formatAll (unescape format) (rest.length + 1) rest)
      | "cat" =>
          match arguments with
          | [] => print ((command.document.map s.documentText).getD [])
          | path :: _ =>
              match disk.readLossy ⟨String.ofList path⟩ with
              | .ok text => print text.toList
              | .error fault =>
                  (s.print true ("cat: ".toList ++ path ++ ": ".toList ++
                    (joinWith [] ((upTo? " (os error".toList fault.message.toList).toList)) ++
                    ['\n'])).withStatus 1
      | "true" => s.withStatus 0
      | ":" => s.withStatus 0
      | "false" => s.withStatus 1
      | "exit" =>
          { s with ended := some (some ((arguments.head?.map statusOf).getD s.status)) }
      | "kill" => { s with ended := some none }
      | _ =>
          (s.print true (s.name.toList ++ ": ".toList ++ (toString line).toList ++ ": ".toList ++
            name ++ ": not found\n".toList)).withStatus 127

/-- Run the commands of a line.  `condition` is the sign in front of them; the
here-documents of the line are taken from `documents`. -/
def runTokens (disk : Disk) (line : Nat) (condition : String) (command : Command)
    (documents : List (List Piece)) (s : State) : List Token → State
  | [] => finish condition command s
  | .word pieces :: rest =>
      runTokens disk line condition { command with words := command.words ++ [pieces] } documents
        s rest
  | .hereDocument _ _ _ :: rest =>
      runTokens disk line condition { command with document := documents.head? }
        (documents.drop 1) s rest
  | .operator sign :: rest =>
      if sign == ">&2" then
        runTokens disk line condition { command with toErrors := true } documents s rest
      else runTokens disk line sign {} documents (finish condition command s) rest
where
  /-- Run a command if nothing speaks against it. -/
  finish (condition : String) (command : Command) (s : State) : State :=
    if s.ended.isSome || (condition == "&&" && s.status != 0) ||
        (condition == "||" && s.status == 0) then s
    else command.run disk line s

/-- Take the here-documents of a line from the lines behind it. -/
def takeDocuments : List Token → List (List Char) → List (List Piece) × List (List Char)
  | [], behind => ([], behind)
  | .hereDocument mark expands dropTabs :: rest, behind =>
      let (body, behind) := readDocument mark dropTabs behind
      let text := body.flatMap fun l => l ++ ['\n']
      let (documents, behind) := takeDocuments rest behind
      (documentPieces expands text :: documents, behind)
  | _ :: rest, behind => takeDocuments rest behind

/-- Run the lines of a script; `room` bounds their number. -/
def runLines (disk : Disk) : (room : Nat) → (line : Nat) → State → List Char → State
  | 0, _, s, _ => s
  | room + 1, line, s, text =>
      if text.isEmpty || s.ended.isSome then s
      else
        let (tokens, behind) := readLine .bare [] [] text
        -- here-documents follow behind the line that names them
        let tokens := withDocuments tokens
        let (documents, rest) := takeDocuments tokens (splitOn '\n' behind)
        let behind := joinWith ['\n'] rest
        let s := runTokens disk line ";" {} documents s tokens
        let taken := text.take (text.length - behind.length)
        runLines disk room (line + taken.count '\n') s behind

/-- Run a script under a name with arguments. -/
def run (disk : Disk) (name : String) (arguments : List String) (script : String) : Outcome :=
  let chars := script.toList
  let s := runLines disk (chars.length + 1) 1 { name, arguments } chars
  ⟨s.ended.getD (some s.status), s.output, s.complaints⟩

/-- The interpreter that the first line of a script asks for, as words. -/
def interpreter? (script : String) : Option (List String) :=
  (after? ['#', '!'] (script.toList.takeWhile (· != '\n'))).map fun line =>
    (words line).map String.ofList

def isShell (interpreter : List String) : Bool :=
  [["/bin/sh"], ["/bin/bash"], ["/usr/bin/sh"], ["/usr/bin/bash"], ["/usr/bin/env", "sh"],
    ["/usr/bin/env", "bash"]].contains (interpreter.filter fun word => !word.startsWith "-")

end PluginAudit.Script
