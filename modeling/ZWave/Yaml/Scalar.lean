import ZWave.Yaml.Cursor

/-!
# Scalars

The text of plain, quoted and block scalars. Where a flow scalar goes over several lines its breaks
are folded: one becomes a space, and of more than one the first is dropped. A block scalar keeps its
lines, or folds those that start with no blank.
-/

namespace ZWave.Yaml

inductive ScalarStyle where
  | plain
  | singleQuoted
  | doubleQuoted
  | literal
  | folded
deriving DecidableEq

/-! ## Gaps between words -/

/-- Blanks and breaks between two words of a flow scalar. -/
structure Gap where
  /-- The blanks, if there is no break. -/
  blanks : List Char := []
  /-- The first break. -/
  first : List Char := []
  /-- The further breaks. -/
  more : List Char := []
  /-- Whether the gap goes on to another line. -/
  broken : Bool := false

/-- What is left of a gap in the text. -/
def Gap.text (g : Gap) : List Char :=
  if g.broken then
    if g.first == ['\n'] then if g.more.isEmpty then [' '] else g.more
    else g.first ++ g.more
  else g.blanks

/-- Read a gap on from `gap`. A tab before column `indent` on a further line is refused. -/
def readGap (indent : Int) : Nat → Gap → Cursor → Except YamlError (Gap × Cursor)
  | 0, gap, c => .ok (gap, c)
  | fuel + 1, gap, c =>
    match c.here with
    | none => .ok (gap, c)
    | some ch =>
      if isBlank ch then
        if gap.broken && ch == '\t' && decide ((c.column : Int) < indent) then .error .tab
        else if gap.broken then readGap indent fuel gap (c.skip 1)
        else readGap indent fuel { gap with blanks := gap.blanks ++ [ch] } (c.skip 1)
      else if isBreak ch then
        let (kept, next) := c.takeBreak
        if gap.broken then readGap indent fuel { gap with more := gap.more ++ kept } next
        else readGap indent fuel { first := kept, broken := true } next
      else .ok (gap, c)

/-! ## Plain scalars -/

/-- A word of a plain scalar: the characters up to a blank, a break, or an indicator that ends the
scalar. -/
def plainWord (inFlow : Bool) : List Char → Except YamlError (List Char)
  | [] => .ok []
  | ch :: rest =>
    if isBlank ch || isBreak ch then .ok []
    else if inFlow && ch == ':' && rest.head?.any (",?[]\x7b\x7d".toList.contains ·) then
      .error (.misplaced ch)
    else if ch == ':' && endsWord rest.head? then .ok []
    else if inFlow && ",[]\x7b\x7d".toList.contains ch then .ok []
    else do return ch :: (← plainWord inFlow rest)

/-- Read a plain scalar on behind `text` and `gap`. Its lines are indented by `indent` at least,
unless it is in a flow collection. The result tells whether it ends on a line of its own. -/
def plainFrom (inFlow : Bool) (indent : Int) :
    Nat → String → Gap → Cursor → Except YamlError (String × Bool × Cursor)
  | 0, text, gap, c => .ok (text, gap.broken, c)
  | fuel + 1, text, gap, c => do
    if c.atDocumentBoundary || c.isAt '#' then
      return (text, gap.broken, c)
    let word ← plainWord inFlow c.rest
    let text := if word.isEmpty then text else text ++ String.ofList (gap.text ++ word)
    let gap := if word.isEmpty then gap else {}
    let c := c.skip word.length
    if c.here.isNone || !endsWord c.here then
      return (text, gap.broken, c)
    let (gap, c) ← readGap indent (fuel + 1) gap c
    if !inFlow && decide ((c.column : Int) < indent) then
      return (text, gap.broken, c)
    plainFrom inFlow indent fuel text gap c

def plainScalar (inFlow : Bool) (indent : Int) (c : Cursor) :
    Except YamlError (String × Bool × Cursor) :=
  plainFrom inFlow indent (c.rest.length + 1) "" {} c

/-! ## Quoted scalars -/

/-- What a character stands for behind a backslash, for the escapes of one character. -/
def simpleEscape? (ch : Char) : Option Char :=
  match ch with
  | '0' => some '\x00'
  | 'a' => some '\x07'
  | 'b' => some '\x08'
  | 't' | '\t' => some '\t'
  | 'n' => some '\n'
  | 'v' => some '\x0b'
  | 'f' => some '\x0c'
  | 'r' => some '\r'
  | 'e' => some '\x1b'
  | ' ' => some ' '
  | '"' => some '"'
  | '/' => some '/'
  | '\\' => some '\\'
  | 'N' => some '\u0085'
  | '_' => some '\u00a0'
  | 'L' => some '\u2028'
  | 'P' => some '\u2029'
  | _ => none

/-- The number of hexadecimal digits behind an escape that takes some. -/
def escapeDigits? (ch : Char) : Option Nat :=
  match ch with
  | 'x' => some 2
  | 'u' => some 4
  | 'U' => some 8
  | _ => none

/-- The character whose number is written in hexadecimal digits. -/
def escapedCharacter? (digits : List Char) : Option Char := do
  let values ← digits.mapM hexValue?
  let number := values.foldl (fun n d => n * 16 + d) 0
  if number.isValidChar then some (Char.ofNat number) else none

/-- An escape in a double-quoted scalar: its character, and the place behind it. -/
def readEscape (c : Cursor) : Except YamlError (Char × Cursor) :=
  match c.ahead 1 with
  | none => .error .escape
  | some ch =>
    match simpleEscape? ch, escapeDigits? ch with
    | some escaped, _ => .ok (escaped, c.skip 2)
    | none, some count =>
      let digits := (c.rest.drop 2).take count
      match escapedCharacter? digits with
      | some escaped =>
        if digits.length = count then .ok (escaped, c.skip (2 + count)) else .error .escape
      | none => .error .escape
    | none, none => .error .escape

/-- The words of a quoted scalar up to a gap or the closing quote: their text behind `text`, and
whether a line break that is escaped follows it. -/
def quotedWord (single : Bool) : Nat → String → Cursor →
    Except YamlError (String × Bool × Cursor)
  | 0, text, c => .ok (text, false, c)
  | fuel + 1, text, c =>
    match c.here with
    | none => .ok (text, false, c)
    | some ch =>
      if isBlank ch || isBreak ch then .ok (text, false, c)
      else if single && ch == '\'' && c.ahead 1 == some '\'' then
        quotedWord single fuel (text.push ch) (c.skip 2)
      else if ch == (if single then '\'' else '"') then .ok (text, false, c)
      else if !single && ch == '\\' then
        if (c.ahead 1).any isBreak then .ok (text, true, (c.skip 1).takeBreak.2)
        else do
          let (escaped, c) ← readEscape c
          quotedWord single fuel (text.push escaped) c
      else quotedWord single fuel (text.push ch) (c.skip 1)

/-- Read a quoted scalar on behind `text`. -/
def quotedFrom (single : Bool) : Nat → String → Cursor → Except YamlError (String × Cursor)
  | 0, _, _ => .error .unclosedQuote
  | fuel + 1, text, c => do
    if c.atDocumentBoundary || c.here.isNone then
      throw .unclosedQuote
    let (text, broken, c) ← quotedWord single (fuel + 1) text c
    if c.isAt (if single then '\'' else '"') then
      return (text, c.skip 1)
    let (gap, c) ← readGap 0 (fuel + 1) { broken } c
    quotedFrom single fuel (text ++ String.ofList gap.text) c

/-- Read a quoted scalar, from its opening quote on. -/
def quotedScalar (single : Bool) (c : Cursor) : Except YamlError (String × Cursor) :=
  quotedFrom single (c.rest.length + 1) "" (c.skip 1)

/-! ## Block scalars -/

/-- What becomes of the breaks at the end of a block scalar. -/
inductive Chomping where
  | strip
  | clip
  | keep
deriving DecidableEq

def chomping? : Option Char → Option Chomping
  | some '+' => some .keep
  | some '-' => some .strip
  | _ => none

def increment? : Option Char → Option Nat
  | some c => if c.isDigit then some (c.toNat - '0'.toNat) else none
  | none => none

/-- The header of a block scalar behind its first character: chomping and indentation in either
order, then at most a comment. -/
def blockHeader (c : Cursor) : Except YamlError (Chomping × Option Nat × Cursor) := do
  let (chomping, increment, c) :=
    match chomping? c.here, increment? c.here with
    | some chomping, _ =>
      match increment? (c.ahead 1) with
      | some n => (chomping, some n, c.skip 2)
      | none => (chomping, none, c.skip 1)
    | none, some n =>
      match chomping? (c.ahead 1) with
      | some chomping => (chomping, some n, c.skip 2)
      | none => (.clip, some n, c.skip 1)
    | none, none => (.clip, none, c)
  if increment = some 0 then
    throw .blockHeader
  let c := (c.skipWhile isBlank).skipComment
  if !endsLine c.here then
    throw .blockHeader
  return (chomping, increment, c.takeBreak.2)

/-- The breaks and indentation before a line of a block scalar. With `indent` zero the indentation is
not known yet; the widest column reached is then the third part of the result. -/
def blockBreaks (indent : Nat) : Nat → List Char → Nat → Cursor →
    Except YamlError (List Char × Nat × Cursor)
  | 0, breaks, widest, c => .ok (breaks, widest, c)
  | fuel + 1, breaks, widest, c =>
    let limit := if indent = 0 then c.rest.length else indent - c.column
    let spaces := (c.rest.takeWhile (· == ' ')).length
    let c := c.skip (min spaces limit)
    let widest := max widest c.column
    if (indent = 0 || c.column < indent) && c.isAt '\t' then .error .tab
    else if c.here.any isBreak then
      let (kept, next) := c.takeBreak
      blockBreaks indent fuel (breaks ++ kept) widest next
    else .ok (breaks, widest, c)

/-- The lines of a block scalar behind `text`. `first` is the break before the present line and
`more` the breaks of empty lines after it; `afterBlank` tells that the last line started with a
blank. -/
def blockLines (literal : Bool) (indent : Nat) :
    Nat → String → List Char → List Char → Bool → Cursor →
    Except YamlError (String × List Char × List Char × Cursor)
  | 0, text, first, more, _, c => .ok (text, first, more, c)
  | fuel + 1, text, first, more, afterBlank, c => do
    if c.column ≠ indent || c.here.isNone then
      return (text, first, more, c)
    let startsBlank := blankHere c.here
    let joint :=
      if !literal && first == ['\n'] && !afterBlank && !startsBlank then
        if more.isEmpty then [' '] else more
      else first ++ more
    let (line, c) := c.span (fun ch => !isBreak ch)
    let text := text ++ String.ofList (joint ++ line)
    let (first, c) := c.takeBreak
    let (more, _, c) ← blockBreaks indent (fuel + 1) [] 0 c
    blockLines literal indent fuel text first more startsBlank c

/-- Read a block scalar, from its indicator on, in a collection that is indented by `parent`. -/
def blockScalar (literal : Bool) (parent : Int) (c : Cursor) :
    Except YamlError (String × Cursor) := do
  let (chomping, increment, c) ← blockHeader (c.skip 1)
  let told := increment.map fun n => n + parent.toNat
  let (more, widest, c) ← blockBreaks (told.getD 0) (c.rest.length + 1) [] 0 c
  let indent := told.getD (max widest (max (parent + 1).toNat 1))
  let (text, first, more, c) ←
    blockLines literal indent (c.rest.length + 1) "" [] more false c
  let tail := match chomping with
    | .strip => []
    | .clip => first
    | .keep => first ++ more
  return (text ++ String.ofList tail, c)

end ZWave.Yaml
