import ZWave.Yaml.Scalar

/-!
# Tokens

The pieces a YAML text is made of, and how those with a name of their own are read: anchors and
aliases, tags, and directives.
-/

namespace ZWave.Yaml

/-- The bytes of a tag. Those that are written as escapes need not make up characters. -/
abbrev Tag := List UInt8

namespace Tag

def ofString (text : String) : Tag := text.toUTF8.toList

/-- The tag of the values of a kind that YAML names. -/
def standard (kind : String) : Tag := ofString ("tag:yaml.org,2002:" ++ kind)

/-- A tag ends before its first zero byte. -/
def cut (tag : Tag) : Tag := tag.takeWhile (· != 0)

/-- The name a local tag gives: the characters behind its exclamation mark, if its bytes make up
some. -/
def localName? : Tag → Option String
  | first :: rest =>
    if first = 0x21 then String.fromUTF8? ⟨rest.toArray⟩ else none
  | [] => none

end Tag

/-- A piece of a text. Block collections have no brackets in the text; their start and end follow
from the indentation. -/
inductive Token where
  | versionDirective (major minor : Nat)
  /-- What a tag handle stands for. -/
  | tagDirective (handle : String) (expansion : Tag)
  | documentStart
  | documentEnd
  | blockSequenceStart
  | blockMappingStart
  | blockEnd
  | flowSequenceStart
  | flowSequenceEnd
  | flowMappingStart
  | flowMappingEnd
  /-- The hyphen of an item. -/
  | blockEntry
  /-- The comma of a flow collection. -/
  | flowEntry
  | key
  | value
  | aliasOf (name : String)
  | anchor (name : String)
  /-- A tag: its handle, empty if the suffix is all of it, and its suffix. -/
  | tag (handle : String) (suffix : Tag)
  | scalar (text : String) (style : ScalarStyle)
deriving DecidableEq

/-! ## Anchors and aliases -/

/-- The name behind the indicator of an anchor or alias. -/
def anchorName (c : Cursor) : Except YamlError (String × Cursor) :=
  let (name, c) := (c.skip 1).span isNameChar
  let ends := endsWord c.here || c.here.any ("?:,]\x7d%@\x60".toList.contains ·)
  if name.isEmpty || !ends then .error .anchorName else .ok (String.ofList name, c)

/-! ## Tags -/

/-- Whether a character may be part of a tag. Commas and brackets may be in verbatim tags only. -/
def isTagChar (verbatim : Bool) (c : Char) : Bool :=
  isNameChar c || ";/?:@&=+$.!~*'()".toList.contains c || (verbatim && ",[]".toList.contains c)

/-- The number of bytes in the UTF-8 form of a character that starts with byte `first`. -/
def encodedLength? (first : UInt8) : Option Nat :=
  if first < 0x80 then some 1
  else if first < 0xC0 then none
  else if first < 0xE0 then some 2
  else if first < 0xF0 then some 3
  else if first < 0xF8 then some 4
  else none

/-- The byte that a percent sign and two hexadecimal digits stand for. -/
def escapedByte? : List Char → Option UInt8
  | '%' :: a :: b :: _ => do return UInt8.ofNat ((← hexValue? a) * 16 + (← hexValue? b))
  | _ => none

/-- The bytes of one escaped character in a tag, which has as many as its first byte tells. -/
def tagEscape? (rest : List Char) : Option Tag := do
  let first ← escapedByte? rest
  let length ← encodedLength? first
  let bytes ← (List.range length).mapM fun i => escapedByte? (rest.drop (3 * i))
  if bytes.tail.all fun b => 0x80 ≤ b && b < 0xC0 then return bytes else none

/-- Read the characters of a tag on behind `tag`. -/
def tagCharacters (verbatim : Bool) : Nat → Tag → Cursor → Except YamlError (Tag × Cursor)
  | 0, tag, c => .ok (tag, c)
  | fuel + 1, tag, c =>
    if c.isAt '%' then
      match tagEscape? c.rest with
      | some bytes => tagCharacters verbatim fuel (tag ++ bytes) (c.skip (3 * bytes.length))
      | none => .error .tag
    else match c.here with
      | some ch =>
        if isTagChar verbatim ch then
          tagCharacters verbatim fuel (tag ++ [ch.val.toUInt8]) (c.skip 1)
        else .ok (tag, c)
      | none => .ok (tag, c)

/-- The handle a tag starts with: an exclamation mark, and with a name behind it a second one if
there is one. -/
def tagHandle (c : Cursor) : String × Cursor :=
  let (name, c) := (c.skip 1).span isNameChar
  if c.isAt '!' then (String.ofList ('!' :: name ++ ['!']), c.skip 1)
  else (String.ofList ('!' :: name), c)

/-- Whether a handle ends in an exclamation mark of its own. -/
def isClosed (handle : String) : Bool := 1 < handle.length && handle.endsWith "!"

/-- Read a tag, from its exclamation mark on. An exclamation mark alone is a tag without a handle. -/
def readTag (inFlow : Bool) (c : Cursor) : Except YamlError (Token × Cursor) := do
  let (handle, suffix, c) ←
    if c.ahead 1 == some '<' then
      let (suffix, c) ← tagCharacters true (c.rest.length + 1) [] (c.skip 2)
      if suffix.isEmpty || !c.isAt '>' then
        throw .tag
      pure ("", suffix.cut, c.skip 1)
    else
      let (handle, c) := tagHandle c
      if isClosed handle then
        let (suffix, c) ← tagCharacters false (c.rest.length + 1) [] c
        if suffix.isEmpty then
          throw .tag
        pure (handle, suffix.cut, c)
      else
        let name := Tag.ofString (handle.drop 1).toString
        let (suffix, c) ← tagCharacters false (c.rest.length + 1) name c
        if suffix.cut.isEmpty then pure ("", Tag.ofString "!", c) else pure ("!", suffix.cut, c)
  if endsWord c.here || (inFlow && c.isAt ',') then
    return (.tag handle suffix, c)
  else throw .tag

/-! ## Directives -/

/-- A part of a version number, of nine digits at most. -/
def versionNumber (c : Cursor) : Except YamlError (Nat × Cursor) :=
  let (digits, c) := c.span Char.isDigit
  if digits.isEmpty || 9 < digits.length then .error .directive
  else .ok (digits.foldl (fun n d => n * 10 + (d.toNat - '0'.toNat)) 0, c)

/-- What follows the name of a version directive. -/
def versionDirective (c : Cursor) : Except YamlError (Token × Cursor) := do
  let (major, c) ← versionNumber (c.skipWhile isBlank)
  if !c.isAt '.' then
    throw .directive
  let (minor, c) ← versionNumber (c.skip 1)
  return (.versionDirective major minor, c)

/-- What follows the name of a tag directive. -/
def tagDirective (c : Cursor) : Except YamlError (Token × Cursor) := do
  let c := c.skipWhile isBlank
  if !c.isAt '!' then
    throw .directive
  let (handle, c) := tagHandle c
  if handle != "!" && !isClosed handle then
    throw .directive
  if !blankHere c.here then
    throw .directive
  let c := c.skipWhile isBlank
  let (expansion, c) ← tagCharacters true (c.rest.length + 1) [] c
  if expansion.isEmpty || !endsWord c.here then
    throw .directive
  return (.tagDirective handle expansion.cut, c)

/-- Read a directive with the rest of its line, from its percent sign on. -/
def readDirective (c : Cursor) : Except YamlError (Token × Cursor) := do
  let (name, c) := (c.skip 1).span isNameChar
  if name.isEmpty || !endsWord c.here then
    throw .directive
  let (token, c) ←
    if name == "YAML".toList then versionDirective c
    else if name == "TAG".toList then tagDirective c
    else throw .directive
  let c := (c.skipWhile isBlank).skipComment
  if !endsLine c.here then
    throw .directive
  return (token, c.takeBreak.2)

end ZWave.Yaml
