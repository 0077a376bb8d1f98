/-!
# YAML errors

Why a text is not YAML, or not the YAML that was expected.
-/

namespace ZWave

inductive YamlError where
  /-- A character that may not stand in a text, or where it does. -/
  | character (c : Char)
  /-- A tab in place of the spaces of an indentation. -/
  | tab
  /-- A key without its colon. -/
  | missingColon
  /-- An item, key or value where none may start. -/
  | misplaced (indicator : Char)
  /-- A quoted scalar that does not end, or is cut by a document marker. -/
  | unclosedQuote
  /-- A backslash with what it cannot escape. -/
  | escape
  /-- The indicator of a block scalar with what cannot follow it. -/
  | blockHeader
  /-- An anchor or alias without a proper name. -/
  | anchorName
  | tag
  /-- A directive that is unknown, repeated or not well formed. -/
  | directive
  /-- A collection that is not closed, or a node where none is expected. -/
  | shape
  /-- A tag whose handle is not declared. -/
  | unknownHandle (handle : String)
  /-- An alias of a name that no node was anchored with. -/
  | unknownAlias (name : String)
  | secondDocument
  /-- Aliases stand for more nodes than a text of this size may. -/
  | repetition
  | unexpected (wanted : String)
  | duplicateField (name : String)
  | missingField (name : String)
deriving DecidableEq

def YamlError.message : YamlError → String
  | character c => s!"unexpected character {c}"
  | tab => "found a tab where the indentation needs spaces"
  | missingColon => "could not find the colon of a key"
  | misplaced indicator => s!"{indicator} is not allowed in this context"
  | unclosedQuote => "a quoted scalar does not end"
  | escape => "unknown escape in a quoted scalar"
  | blockHeader => "a block scalar has a malformed header"
  | anchorName => "an anchor or alias has no proper name"
  | tag => "a tag is malformed"
  | directive => "a directive is malformed"
  | shape => "a node or the end of a collection is missing"
  | unknownHandle handle => s!"undefined tag handle {handle}"
  | unknownAlias name => s!"unknown anchor {name}"
  | secondDocument => "more than one document"
  | repetition => "repetition limit exceeded"
  | unexpected wanted => s!"invalid value, expected {wanted}"
  | duplicateField name => s!"duplicate field {name}"
  | missingField name => s!"missing field {name}"

end ZWave
