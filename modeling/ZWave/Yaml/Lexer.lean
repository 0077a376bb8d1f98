import ZWave.Yaml.Token

/-!
# From text to tokens

The lexer keeps the column that each open block collection is indented by, and for each open flow
collection whether the last node may be a key. A key is known as one only by the colon behind it, so
its tokens are put in front of what was read since (`Lexer.value`). It stands on one line and takes
no more than 1024 bytes of it.
-/

namespace ZWave.Yaml

/-- A node that is a key if a colon follows. -/
structure KeyCandidate where
  /-- Whether nothing else could start where the node does. -/
  required : Bool
  /-- The number of tokens before the node. -/
  position : Nat
  index : Nat
  line : Nat
  column : Nat

/-- A place in a text, the tokens before it, and what they leave open. -/
structure Lexer where
  cursor : Cursor
  tokens : Array Token := #[]
  /-- The column the innermost block collection is indented by; -1 outside of all. -/
  indent : Int := -1
  /-- The columns of the collections around it. -/
  outer : List Int := []
  /-- Whether a key may start here. -/
  keyAllowed : Bool := true
  /-- The candidate of the innermost flow collection or, outside of all, of the block. -/
  candidate : Option KeyCandidate := none
  /-- The candidates of the flow collections around it and of the block. -/
  outerCandidates : List (Option KeyCandidate) := []

namespace Lexer

def inFlow (l : Lexer) : Bool := !l.outerCandidates.isEmpty

def push (l : Lexer) (token : Token) : Lexer := { l with tokens := l.tokens.push token }

def skip (l : Lexer) (n : Nat) : Lexer := { l with cursor := l.cursor.skip n }

/-! ## Indentation -/

/-- Close the block collections that are indented by more than `column`, innermost first. -/
def unindentFrom (column : Int) : List Int → Int → Array Token → Array Token × Int × List Int
  | [], indent, tokens => (tokens, indent, [])
  | next :: outer, indent, tokens =>
    if column < indent then unindentFrom column outer next (tokens.push .blockEnd)
    else (tokens, indent, next :: outer)

/-- Close the block collections that end at a column. In a flow collection columns mean nothing. -/
def unindent (l : Lexer) (column : Int) : Lexer :=
  if l.inFlow then l
  else
    let (tokens, indent, outer) := unindentFrom column l.outer l.indent l.tokens
    { l with tokens, indent, outer }

/-- Open a block collection at a column if that is further in than the open ones. Its token goes in
front of the token at `position`, or last of all. -/
def openBlock (l : Lexer) (column : Nat) (position : Option Nat) (start : Token) : Lexer :=
  if l.inFlow || decide ((column : Int) ≤ l.indent) then l
  else
    let tokens := match position with
      | some i => l.tokens.insertIdxIfInBounds i start
      | none => l.tokens.push start
    { l with tokens, outer := l.indent :: l.outer, indent := column }

/-! ## Keys -/

/-- Give up the candidate; one that is required is missing its colon. -/
def dropCandidate (l : Lexer) : Except YamlError Lexer :=
  match l.candidate with
  | some { required := true, .. } => .error .missingColon
  | _ => .ok { l with candidate := none }

/-- Take the node that starts here as a candidate if a key may start here. -/
def saveCandidate (l : Lexer) : Except YamlError Lexer :=
  if l.keyAllowed then do
    let l ← l.dropCandidate
    let candidate : KeyCandidate :=
      { required := !l.inFlow && decide (l.indent = l.cursor.column)
        position := l.tokens.size
        index := l.cursor.index
        line := l.cursor.line
        column := l.cursor.column }
    return { l with candidate := some candidate }
  else .ok l

/-- Give up a candidate that has become too long or is on a line before this. -/
def expire (c : Cursor) : Option KeyCandidate → Except YamlError (Option KeyCandidate)
  | some k =>
    if k.line < c.line || k.index + 1024 < c.index then
      if k.required then .error .missingColon else .ok none
    else .ok (some k)
  | none => .ok none

/-- Give up the candidates that have become too long or are on a line before this. -/
def expireCandidates (l : Lexer) : Except YamlError Lexer := do
  let candidate ← expire l.cursor l.candidate
  let outerCandidates ← l.outerCandidates.mapM (expire l.cursor)
  return { l with candidate, outerCandidates }

/-! ## Between tokens -/

/-- Go over blanks, comments and breaks to the next token. A byte order mark may start any line. Tabs
are no indentation, so they may not stand where a key may start, flow collections apart. -/
def skipGap : Nat → Lexer → Lexer
  | 0, l => l
  | fuel + 1, l =>
    let tabs := l.inFlow || !l.keyAllowed
    let c := (l.cursor.skipOrderMark.skipWhile fun ch => ch == ' ' || (tabs && ch == '\t')).skipComment
    if c.here.any isBreak then
      skipGap fuel { l with cursor := c.takeBreak.2, keyAllowed := !l.inFlow || l.keyAllowed }
    else { l with cursor := c }

/-! ## Tokens -/

/-- The end of all block collections, at a document marker, a directive or the end of the text. -/
def closeBlocks (l : Lexer) : Except YamlError Lexer := do
  let l ← (l.unindent (-1)).dropCandidate
  return { l with keyAllowed := false }

def documentMark (l : Lexer) (token : Token) : Except YamlError Lexer := do
  return ((← l.closeBlocks).push token).skip 3

def directive (l : Lexer) : Except YamlError Lexer := do
  let l ← l.closeBlocks
  let (token, cursor) ← readDirective l.cursor
  return { l.push token with cursor }

def openFlow (l : Lexer) (token : Token) : Except YamlError Lexer := do
  let l ← l.saveCandidate
  let l := { l with
    outerCandidates := l.candidate :: l.outerCandidates, candidate := none, keyAllowed := true }
  return (l.push token).skip 1

def closeFlow (l : Lexer) (token : Token) : Except YamlError Lexer := do
  let l ← l.dropCandidate
  let l := match l.outerCandidates with
    | candidate :: outerCandidates => { l with candidate, outerCandidates }
    | [] => l
  return ({ l with keyAllowed := false }.push token).skip 1

def flowEntry (l : Lexer) : Except YamlError Lexer := do
  let l ← l.dropCandidate
  return ({ l with keyAllowed := true }.push .flowEntry).skip 1

/-- The start of something that takes a place of its own in a block collection. -/
def openEntry (l : Lexer) (indicator : Char) (start : Token) : Except YamlError Lexer :=
  if l.inFlow then .ok l
  else if l.keyAllowed then .ok (l.openBlock l.cursor.column none start)
  else .error (.misplaced indicator)

def blockEntry (l : Lexer) : Except YamlError Lexer := do
  let l ← (← l.openEntry '-' .blockSequenceStart).dropCandidate
  return ({ l with keyAllowed := true }.push .blockEntry).skip 1

def key (l : Lexer) : Except YamlError Lexer := do
  let l ← (← l.openEntry '?' .blockMappingStart).dropCandidate
  return ({ l with keyAllowed := !l.inFlow }.push .key).skip 1

/-- The colon of a value. If there is a candidate, it is a key, and maybe the first of a mapping. -/
def value (l : Lexer) : Except YamlError Lexer := do
  let l ← match l.candidate with
    | some k =>
      let l := { l with tokens := l.tokens.insertIdxIfInBounds k.position .key }
      let l := l.openBlock k.column (some k.position) .blockMappingStart
      pure { l with candidate := none, keyAllowed := false }
    | none =>
      let l ← l.openEntry ':' .blockMappingStart
      pure { l with keyAllowed := !l.inFlow }
  return (l.push .value).skip 1

/-- A node or property of a node, which may be the start of a key. -/
def node (l : Lexer) (read : Cursor → Except YamlError (Token × Cursor)) :
    Except YamlError Lexer := do
  let l ← l.saveCandidate
  let (token, cursor) ← read l.cursor
  return { l.push token with cursor, keyAllowed := false }

def block (l : Lexer) (literal : Bool) : Except YamlError Lexer := do
  let l ← l.dropCandidate
  let (text, cursor) ← blockScalar literal l.indent l.cursor
  let token := Token.scalar text (if literal then .literal else .folded)
  return { l.push token with cursor, keyAllowed := true }

/-- A plain scalar. If it ends on a line of its own, a key may follow. -/
def plain (l : Lexer) : Except YamlError Lexer := do
  let l ← l.saveCandidate
  let (text, broken, cursor) ← plainScalar l.inFlow (l.indent + 1) l.cursor
  return { l.push (.scalar text .plain) with cursor, keyAllowed := broken }

/-- Whether a plain scalar may start with a character that `next` follows. -/
def startsPlain (inFlow : Bool) (ch : Char) (next : Option Char) : Bool :=
  !(isBlank ch || isBreak ch || "-?:,[]\x7b\x7d#&*!|>'\"%@\x60".toList.contains ch) ||
    (ch == '-' && !blankHere next) ||
    (!inFlow && (ch == '?' || ch == ':') && !endsWord next)

def token (l : Lexer) (ch : Char) : Except YamlError Lexer :=
  let next := l.cursor.ahead 1
  let indicates := l.inFlow || endsWord next
  if l.cursor.column = 0 && ch == '%' then l.directive
  else if l.cursor.atDocumentMark '-' then l.documentMark .documentStart
  else if l.cursor.atDocumentMark '.' then l.documentMark .documentEnd
  else if ch == '[' then l.openFlow .flowSequenceStart
  else if ch == '\x7b' then l.openFlow .flowMappingStart
  else if ch == ']' then l.closeFlow .flowSequenceEnd
  else if ch == '\x7d' then l.closeFlow .flowMappingEnd
  else if ch == ',' then l.flowEntry
  else if ch == '-' && endsWord next then l.blockEntry
  else if ch == '?' && indicates then l.key
  else if ch == ':' && indicates then l.value
  else if ch == '*' then l.node fun c => do
    let (name, c) ← anchorName c
    return (.aliasOf name, c)
  else if ch == '&' then l.node fun c => do
    let (name, c) ← anchorName c
    return (.anchor name, c)
  else if ch == '!' then l.node (readTag l.inFlow)
  else if ch == '|' && !l.inFlow then l.block true
  else if ch == '>' && !l.inFlow then l.block false
  else if ch == '\'' then l.node fun c => do
    let (text, c) ← quotedScalar true c
    return (.scalar text .singleQuoted, c)
  else if ch == '"' then l.node fun c => do
    let (text, c) ← quotedScalar false c
    return (.scalar text .doubleQuoted, c)
  else if startsPlain l.inFlow ch next then l.plain
  else .error (.character ch)

def all : Nat → Lexer → Except YamlError Lexer
  | 0, l => .ok l
  | fuel + 1, l => do
    let l ← (skipGap (fuel + 1) l).expireCandidates
    let l := l.unindent l.cursor.column
    match l.cursor.here with
    | some ch => all fuel (← l.token ch)
    | none => l.closeBlocks

end Lexer

def tokens (text : String) : Except YamlError (List Token) := do
  let characters := text.toList
  if let some c := characters.find? fun c => !isAllowed c then
    throw (.character c)
  let lexer ← Lexer.all (characters.length + 1) { cursor := { rest := characters } }
  return lexer.tokens.toList

end ZWave.Yaml
