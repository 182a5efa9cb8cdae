/-!
# Bytes as text

Lenient decoding of UTF-8.  `next` cuts a byte sequence into characters and
ill-formed pieces; an ill-formed piece is the longest start of a well-formed
sequence that could not be completed, or a single byte that starts none.  Each
of them is shown as one replacement character.
-/

namespace PluginAudit.Text.Utf8

/-- Continuation bytes. -/
def isContinuation (b : UInt8) : Bool := 0x80 ≤ b && b ≤ 0xBF

/-- Whether `second` may follow `lead` in a well-formed sequence. -/
def mayFollow (lead second : UInt8) : Bool :=
  -- the bounds keep out overlong forms, surrogates and code points past the last one
  if lead == 0xE0 then 0xA0 ≤ second && second ≤ 0xBF
  else if lead == 0xED then 0x80 ≤ second && second ≤ 0x9F
  else if lead == 0xF0 then 0x90 ≤ second && second ≤ 0xBF
  else if lead == 0xF4 then 0x80 ≤ second && second ≤ 0x8F
  else isContinuation second

/-- The payload of a byte below its marker bits. -/
def payload (mask b : UInt8) : Nat := (b &&& mask).toNat

/-- The first piece of a non-empty byte sequence and what follows it. -/
def next (lead : UInt8) (rest : List UInt8) : Option Char × List UInt8 :=
  if lead < 0x80 then (some (Char.ofNat lead.toNat), rest)
  else if 0xC2 ≤ lead && lead ≤ 0xDF then
    match rest with
    | b :: tail =>
        if isContinuation b then
          (some (Char.ofNat (payload 0x1F lead * 0x40 + payload 0x3F b)), tail)
        else (none, rest)
    | [] => (none, rest)
  else if 0xE0 ≤ lead && lead ≤ 0xEF then
    match rest with
    | b :: tail =>
        if mayFollow lead b then
          match tail with
          | c :: tail' =>
              if isContinuation c then
                (some (Char.ofNat
                  (payload 0x0F lead * 0x1000 + payload 0x3F b * 0x40 + payload 0x3F c)), tail')
              else (none, tail)
          | [] => (none, tail)
        else (none, rest)
    | [] => (none, rest)
  else if 0xF0 ≤ lead && lead ≤ 0xF4 then
    match rest with
    | b :: tail =>
        if mayFollow lead b then
          match tail with
          | c :: tail' =>
              if isContinuation c then
                match tail' with
                | d :: tail'' =>
                    if isContinuation d then
                      (some (Char.ofNat (payload 0x07 lead * 0x40000 + payload 0x3F b * 0x1000 +
                        payload 0x3F c * 0x40 + payload 0x3F d)), tail'')
                    else (none, tail')
                | [] => (none, tail')
              else (none, tail)
          | [] => (none, tail)
        else (none, rest)
    | [] => (none, rest)
  else (none, rest)

/-- A piece takes at least the byte it starts with. -/
theorem next_length (lead : UInt8) (rest : List UInt8) :
    (next lead rest).2.length ≤ rest.length := by
  unfold next
  repeat' split
  all_goals simp_all
  all_goals omega

/-- The character that stands for an ill-formed piece. -/
def replacement : Char := Char.ofNat 0xFFFD

/-- Lenient decoding behind the characters already read, which are held in
reverse. -/
def decodeLossyAfter (done : List Char) : List UInt8 → List Char
  | [] => done.reverse
  | lead :: rest =>
      decodeLossyAfter ((next lead rest).1.getD replacement :: done) (next lead rest).2
termination_by bytes => bytes.length
decreasing_by
  have := next_length lead rest
  simp only [List.length_cons]
  omega

/-- The text of a byte sequence, ill-formed pieces replaced. -/
def decodeLossy (bytes : List UInt8) : List Char := decodeLossyAfter [] bytes

/-- The text of a file: what its bytes encode, or else their lenient reading. -/
def textOf (bytes : ByteArray) : String :=
  match String.fromUTF8? bytes with
  | some text => text
  | none => String.ofList (decodeLossy bytes.toList)

def encode (text : List Char) : List UInt8 := text.flatMap String.utf8EncodeChar

end PluginAudit.Text.Utf8
