import ZWave.Yaml.Node

/-!
# Values of a document

How typed values are read from the nodes of a document. Only a plain scalar can be a number, a
boolean or nothing at all; an empty place also counts as an empty collection. Aliases are followed
wherever a node is looked at, a limited number of times, so that a short text does not stand for a
huge value.
-/

namespace ZWave.Yaml

/-- A document and the number of aliases that may still be followed in it. -/
abbrev Decode := ReaderT Document (StateT Nat (Except YamlError))

namespace Decode

/-- The number of aliases that may be followed for every node of a document. -/
def aliasesPerNode : Nat := 100

/-- Read a value from the root of a document. -/
def run {α : Type} (decode : Node → Decode α) (d : Document) : Except YamlError α := do
  let (value, _) ← StateT.run (ReaderT.run (decode d.root) d) (aliasesPerNode * d.size)
  return value

/-- The node that is meant: the one an alias stands for, or else the node itself. -/
def follow : Node → Decode Node
  | .aliasOf anchor => do
    match ← get with
    | 0 => throw .repetition
    | left + 1 =>
      set left
      match (← read).target? anchor with
      | some node => return node
      | none => throw .repetition
  | node => return node

/-! ## Scalars -/

/-- Whether a plain scalar says that there is no value. -/
def isNull (text : String) : Bool :=
  text == "~" || text == "null" || text == "Null" || text == "NULL"

/-- The text that may be a number or boolean: that of a plain scalar, or of a literal one that is
tagged as such. -/
def untyped? (name : String) : Node → Option String
  | .scalar text .plain _ => some text
  | .scalar text .literal tag => if tag == some (.standard name) then some text else none
  | _ => none

/-- The number that digits of a base make, if they are digits of it and not none. -/
def digits? (base : Nat) (cs : List Char) : Option Nat := do
  if cs.isEmpty then none
  let values ← cs.mapM fun c => (hexValue? c).filter (· < base)
  return values.foldl (fun n d => n * base + d) 0

/-- The digits behind the mark of a base. -/
def behindMark? (mark : List Char) (cs : List Char) : Option (List Char) :=
  if mark.isPrefixOf cs then some (cs.drop mark.length) else none

/-- The natural number a scalar writes: in decimal, or with a mark in another base, a plus sign in
front of it or not. Decimal digits with needless zeros in front are no number. -/
def natural? (text : String) : Option Nat :=
  let written := text.toList
  let cs := match written with
    | '+' :: rest => rest
    | all => all
  let signed (rest : List Char) := rest.head? == some '+' || rest.head? == some '-'
  let padded := match cs with
    | '0' :: rest => !rest.isEmpty && rest.all Char.isDigit
    | _ => false
  match behindMark? ['0', 'x'] cs, behindMark? ['0', 'o'] cs, behindMark? ['0', 'b'] cs with
  | some rest, _, _ => if signed rest then none else digits? 16 rest
  | _, some rest, _ => if signed rest then none else digits? 8 rest
  | _, _, some rest => if signed rest then none else digits? 2 rest
  | none, none, none => if padded then none else digits? 10 cs

def natural (limit : Nat) (node : Node) : Decode Nat := do
  match (untyped? "int" (← follow node)).bind natural? with
  | some n => if n < limit then return n else throw (.unexpected "a smaller number")
  | none => throw (.unexpected "a number")

def byte (node : Node) : Decode UInt8 := do return UInt8.ofNat (← natural UInt8.size node)

def word (node : Node) : Decode UInt16 := do return UInt16.ofNat (← natural UInt16.size node)

def longWord (node : Node) : Decode Nat := natural UInt32.size node

/-- A boolean, in lower case, in upper case or capitalised. -/
def bool (node : Node) : Decode Bool := do
  match untyped? "bool" (← follow node) with
  | some text =>
    if text == "true" || text == "True" || text == "TRUE" then return true
    else if text == "false" || text == "False" || text == "FALSE" then return false
    else throw (.unexpected "a boolean")
  | none => throw (.unexpected "a boolean")

/-- A text, which any scalar is. -/
def string (node : Node) : Decode String := do
  match ← follow node with
  | .scalar text _ _ => return text
  | _ => throw (.unexpected "a string")

/-- A value that may be missing: a plain scalar that is empty or null says so. -/
def optional {α : Type} (decode : Node → Decode α) (node : Node) : Decode (Option α) := do
  let node ← follow node
  match node with
  | .scalar text .plain none =>
    if text.isEmpty || isNull text then return none else return some (← decode node)
  | .scalar text .plain (some tag) =>
    if tag != .standard "null" then return some (← decode node)
    else if isNull text then return none
    else throw (.unexpected "null")
  | _ => return some (← decode node)

/-- One of some named values. The name is a scalar's text, or its tag if that is a local one; then
nothing else may be there. -/
def named {α : Type} (values : List α) (name : α → String) (node : Node) : Decode α := do
  match ← follow node with
  | .scalar text style tag =>
    let chosen ←
      match tag.bind Tag.localName? with
      | some name =>
        if style == .plain && (text.isEmpty || isNull text) then pure name
        else throw (.unexpected "nothing beside the tag")
      | none => pure text
    match values.find? fun v => name v == chosen with
    | some value => return value
    | none => throw (.unexpected "a known name")
  | _ => throw (.unexpected "a name")

/-! ## Collections -/

def items (node : Node) : Decode (List Node) := do
  match ← follow node with
  | .sequence items => return items
  | .scalar "" .plain _ => return []
  | _ => throw (.unexpected "a sequence")

def list {α : Type} (decode : Node → Decode α) (node : Node) : Decode (List α) := do
  (← items node).mapM decode

def pair {α β : Type} (decode : Node → Decode α) (f : α → α → β) (node : Node) : Decode β := do
  match ← items node with
  | [a, b] => return f (← decode a) (← decode b)
  | _ => throw (.unexpected "two items")

def entries (node : Node) : Decode (List (Node × Node)) := do
  match ← follow node with
  | .mapping entries => return entries
  | .scalar "" .plain _ => return []
  | _ => throw (.unexpected "a mapping")

/-- The values of a mapping by its keys. Of a key that is given more than once the last counts. -/
def keyed {α β : Type} [BEq α] (key : Node → Decode α) (value : Node → Decode β) (node : Node) :
    Decode (List (α × β)) := do
  let pairs ← (← entries node).mapM fun (k, v) => do return (← key k, ← value v)
  return pairs.foldl (fun kept (k, v) => kept.filter (fun e => !(e.1 == k)) ++ [(k, v)]) []

/-! ## Records -/

/-- The entries of a record by name, of which only those with a known name count. None of these may
be given twice. -/
def fields (known : List String) (node : Node) : Decode (List (String × Node)) := do
  let named ← (← entries node).mapM fun (k, v) => do return (← string k, v)
  let fields := named.filter fun e => known.contains e.1
  match known.find? fun name => 1 < fields.countP fun e => e.1 == name with
  | some name => throw (.duplicateField name)
  | none => return fields

def field {α : Type} (fields : List (String × Node)) (name : String) (decode : Node → Decode α) :
    Decode α :=
  match fields.lookup name with
  | some node => decode node
  | none => throw (.missingField name)

/-- A field that has a value if it is not given. -/
def fieldD {α : Type} (fields : List (String × Node)) (name : String) (standard : α)
    (decode : Node → Decode α) : Decode α :=
  match fields.lookup name with
  | some node => decode node
  | none => return standard

end Decode

end ZWave.Yaml
