import ZWave.Yaml.Error

/-!
# Characters and places

The classes of characters that YAML's rules speak of, and a place in a text with its line and
column. The end of the text counts as a break where a rule says so.
-/

namespace ZWave.Yaml

/-! ## Characters -/

/-- Whether a character may stand in a text at all. -/
def isAllowed (c : Char) : Bool :=
  let n := c.toNat
  n == 0x09 || n == 0x0A || n == 0x0D || (0x20 ≤ n && n ≤ 0x7E) || n == 0x85 ||
    (0xA0 ≤ n && n ≤ 0xD7FF) || (0xE000 ≤ n && n ≤ 0xFFFD) || 0x10000 ≤ n

def isBreak (c : Char) : Bool :=
  c == '\n' || c == '\r' || c == '\u0085' || c == '\u2028' || c == '\u2029'

/-- Whether a character is a space or a tab. -/
def isBlank (c : Char) : Bool := c == ' ' || c == '\t'

/-- Whether a character may be part of a name: an ASCII letter or digit, a hyphen or a low line. -/
def isNameChar (c : Char) : Bool :=
  c.isAlphanum || c == '-' || c == '_'

/-- Whether a line ends here: at a break or at the end of the text. -/
def endsLine : Option Char → Bool
  | some c => isBreak c
  | none => true

/-- Whether a word ends here: at a blank, a break or the end of the text. -/
def endsWord : Option Char → Bool
  | some c => isBlank c || isBreak c
  | none => true

def blankHere : Option Char → Bool
  | some c => isBlank c
  | none => false

def hexValue? (c : Char) : Option Nat :=
  if '0' ≤ c ∧ c ≤ '9' then some (c.toNat - '0'.toNat)
  else if 'a' ≤ c ∧ c ≤ 'f' then some (c.toNat - 'a'.toNat + 10)
  else if 'A' ≤ c ∧ c ≤ 'F' then some (c.toNat - 'A'.toNat + 10)
  else none

/-! ## Places -/

/-- A place in a text: what follows it, and where it is. -/
structure Cursor where
  rest : List Char
  /-- The number of bytes before it in the UTF-8 form of the text. -/
  index : Nat := 0
  line : Nat := 0
  /-- The number of characters before it on its line. -/
  column : Nat := 0

namespace Cursor

def here (c : Cursor) : Option Char := c.rest.head?

/-- The character `n` further on. -/
def ahead (c : Cursor) (n : Nat) : Option Char := c.rest[n]?

def isAt (c : Cursor) (ch : Char) : Bool := c.here == some ch

/-- Go over `n` characters of this line. -/
def skip (c : Cursor) (n : Nat) : Cursor where
  rest := c.rest.drop n
  index := (c.rest.take n).foldl (fun bytes ch => bytes + ch.utf8Size) c.index
  line := c.line
  column := c.column + n

/-- The characters of this line as long as they are in a class, and the place behind them. -/
def span (c : Cursor) (p : Char → Bool) : List Char × Cursor :=
  let run := c.rest.takeWhile p
  (run, c.skip run.length)

def skipWhile (c : Cursor) (p : Char → Bool) : Cursor := (c.span p).2

/-- The line break here as a scalar keeps it, and the place behind it. The usual breaks, the two
characters of one included, are kept as a line feed. -/
def takeBreak (c : Cursor) : List Char × Cursor :=
  match c.rest with
  | '\r' :: '\n' :: rest => (['\n'], ⟨rest, c.index + 2, c.line + 1, 0⟩)
  | ch :: rest =>
    if isBreak ch then
      let kept := if ch == '\u2028' || ch == '\u2029' then ch else '\n'
      ([kept], ⟨rest, c.index + ch.utf8Size, c.line + 1, 0⟩)
    else ([], c)
  | [] => ([], c)

/-- Whether a line starts here that marks the start (`---`) or end (`...`) of a document. -/
def atDocumentMark (c : Cursor) (mark : Char) : Bool :=
  c.column == 0 && c.here == some mark && c.ahead 1 == some mark && c.ahead 2 == some mark &&
    endsWord (c.ahead 3)

/-- Whether a line starts here that marks the start or end of a document. -/
def atDocumentBoundary (c : Cursor) : Bool := c.atDocumentMark '-' || c.atDocumentMark '.'

/-- The place behind a byte order mark that may be here, at the start of a line. The mark takes a
column of its line. -/
def skipOrderMark (c : Cursor) : Cursor :=
  if c.column = 0 && c.isAt '\ufeff' then c.skip 1 else c

/-- The place behind a comment that may be here, at the end of its line. -/
def skipComment (c : Cursor) : Cursor :=
  if c.isAt '#' then c.skipWhile (fun ch => !isBreak ch) else c

end Cursor

end ZWave.Yaml
