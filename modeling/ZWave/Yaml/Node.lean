import ZWave.Yaml.Lexer

/-!
# Documents

A document is a tree of scalars, sequences and mappings. An alias stands for a node that is anchored
elsewhere in the document. Anchors are known by number: an anchor gets the number of names that are
known where it stands, and an alias means the last node whose anchor has the number of its name.
-/

namespace ZWave.Yaml

inductive Node where
  | scalar (text : String) (style : ScalarStyle) (tag : Option Tag)
  | sequence (items : List Node)
  | mapping (entries : List (Node × Node))
  | aliasOf (anchor : Nat)

/-- The node of a place that is left empty. -/
def Node.blank : Node := .scalar "" .plain none

instance : Inhabited Node := ⟨.blank⟩

/-- A document: its root, the nodes its aliases stand for, and its size. -/
structure Document where
  root : Node
  /-- Where the last node with a number starts. -/
  anchors : List (Nat × Nat) := []
  /-- Anchored nodes by where they start. -/
  anchored : List (Nat × Node) := []
  /-- The number of nodes and of ends of collections. -/
  size : Nat := 1

/-- The node that aliases of a number stand for. -/
def Document.target? (d : Document) (anchor : Nat) : Option Node := do
  d.anchored.lookup (← d.anchors.lookup anchor)

/-! ## From tokens to a tree -/

/-- The tokens that are left and what was found before them. -/
structure Reading where
  tokens : List Token
  /-- What each tag handle stands for. -/
  handles : List (String × Tag) := []
  /-- The numbers of the names that nodes were anchored with. -/
  names : List (String × Nat) := []
  anchors : List (Nat × Nat) := []
  anchored : List (Nat × Node) := []
  size : Nat := 0

abbrev Read := StateT Reading (Except YamlError)

namespace Read

def peek : Read (Option Token) := do return (← get).tokens.head?

def advance : Read Unit := modify fun r => { r with tokens := r.tokens.tail }

/-- Whether the next token is a certain one. -/
def isNext (token : Token) : Read Bool := do return (← peek) == some token

/-- Whether the next token is one of some. -/
def isOneOf (tokens : List Token) : Read Bool := do return (← peek).any tokens.contains

/-- Count a node or the end of a collection. -/
def count : Read Unit := modify fun r => { r with size := r.size + 1 }

/-- The node of a place that is left empty. -/
def blank : Read Node := do
  count
  return .blank

/-! ### Tags and anchors -/

/-- The tag that a handle and a suffix make. -/
def resolveTag (handle : String) (suffix : Tag) : Read Tag := do
  if handle.isEmpty then return suffix
  match (← get).handles.lookup handle with
  | some expansion => return expansion ++ suffix
  | none => throw (.unknownHandle handle)

/-- The anchor and tag in front of a node, in either order. -/
def properties : Read (Option String × Option Tag) := do
  match ← peek with
  | some (.anchor name) =>
    advance
    match ← peek with
    | some (.tag handle suffix) =>
      advance
      return (some name, some (← resolveTag handle suffix))
    | _ => return (some name, none)
  | some (.tag handle suffix) =>
    advance
    match ← peek with
    | some (.anchor name) =>
      advance
      return (some name, some (← resolveTag handle suffix))
    | _ => return (none, some (← resolveTag handle suffix))
  | _ => return (none, none)

/-- Give an anchor its number, and note that its node starts here. -/
def openAnchor (name : String) : Read Unit := modify fun r =>
  let number := r.names.length
  { r with
    names := (name, number) :: r.names.filter (fun e => e.1 != name)
    anchors := (number, r.size) :: r.anchors }

/-- Keep an anchored node that starts at `start`. -/
def closeAnchor (start : Nat) (node : Node) : Read Unit := modify fun r =>
  { r with anchored := (start, node) :: r.anchored }

/-- The node an alias stands for, by number. -/
def aliasNode (name : String) : Read Node := do
  match (← get).names.lookup name with
  | some number =>
    count
    return .aliasOf number
  | none => throw (.unknownAlias name)

/-! ### Nodes -/

mutual

/-- Read a node. Block collections are expected where `block` says so; items without a bracket of
their own where `bare` does, which is in a mapping. -/
def node : Nat → (block bare : Bool) → Read Node
  | 0, _, _ => throw .shape
  | fuel + 1, block, bare => do
    if let some (.aliasOf name) ← peek then
      advance
      return ← aliasNode name
    let (anchor, tag) ← properties
    let start := (← get).size
    if let some name := anchor then
      openAnchor name
    let node ← content fuel block bare (anchor.isSome || tag.isSome) tag
    if anchor.isSome then
      closeAnchor start node
    return node

/-- Read what follows the properties of a node. Only a node with properties may be left empty. -/
def content : Nat → (block bare marked : Bool) → Option Tag → Read Node
  | 0, _, _, _, _ => throw .shape
  | fuel + 1, block, bare, marked, tag => do
    match ← peek with
    | some (.scalar text style) =>
      advance
      count
      return .scalar text style tag
    | some .flowSequenceStart =>
      advance
      count
      return .sequence (← flowItems fuel true)
    | some .flowMappingStart =>
      advance
      count
      return .mapping (← flowEntries fuel true)
    | some token =>
      if bare && token == .blockEntry then
        count
        return .sequence (← bareItems fuel)
      else if block && token == .blockSequenceStart then
        advance
        count
        return .sequence (← blockItems fuel)
      else if block && token == .blockMappingStart then
        advance
        count
        return .mapping (← blockEntries fuel)
      else if marked then
        count
        return .scalar "" .plain tag
      else throw .shape
    | none =>
      if marked then
        count
        return .scalar "" .plain tag
      else throw .shape

/-- Read a node unless one of `ends` shows that its place is left empty. -/
def nodeUnless : Nat → (ends : List Token) → (block bare : Bool) → Read Node
  | 0, _, _, _ => throw .shape
  | fuel + 1, ends, block, bare => do
    if ← isOneOf ends then blank else node fuel block bare

def blockItems : Nat → Read (List Node)
  | 0 => throw .shape
  | fuel + 1 => do
    match ← peek with
    | some .blockEntry =>
      advance
      let item ← nodeUnless fuel [.blockEntry, .blockEnd] true false
      return item :: (← blockItems fuel)
    | some .blockEnd =>
      advance
      count
      return []
    | _ => throw .shape

/-- The items of a sequence that is indented like the mapping it is a value of. -/
def bareItems : Nat → Read (List Node)
  | 0 => throw .shape
  | fuel + 1 => do
    if ← isNext .blockEntry then
      advance
      let item ← nodeUnless fuel [.blockEntry, .key, .value, .blockEnd] true false
      return item :: (← bareItems fuel)
    else
      count
      return []

def blockEntries : Nat → Read (List (Node × Node))
  | 0 => throw .shape
  | fuel + 1 => do
    match ← peek with
    | some .key =>
      advance
      let key ← nodeUnless fuel [.key, .value, .blockEnd] true true
      let value ← blockValue fuel
      return (key, value) :: (← blockEntries fuel)
    | some .blockEnd =>
      advance
      count
      return []
    | _ => throw .shape

/-- The value of an entry of a block mapping. -/
def blockValue : Nat → Read Node
  | 0 => throw .shape
  | fuel + 1 => do
    if ← isNext .value then
      advance
      nodeUnless fuel [.key, .value, .blockEnd] true true
    else blank

/-- The items of a flow sequence, with a comma between two. An item may be a mapping of one entry. -/
def flowItems : Nat → (first : Bool) → Read (List Node)
  | 0, _ => throw .shape
  | fuel + 1, first => do
    if ← isNext .flowSequenceEnd then
      advance
      count
      return []
    if !first then
      if ← isNext .flowEntry then advance else throw .shape
    if ← isNext .key then
      advance
      count
      let entry ← flowPair fuel
      count
      return .mapping [entry] :: (← flowItems fuel false)
    else if ← isNext .flowSequenceEnd then
      flowItems fuel false
    else
      let item ← node fuel false false
      return item :: (← flowItems fuel false)

/-- The entry of a mapping that is an item of a flow sequence. The token that shows its key to be
left empty is taken with it. -/
def flowPair : Nat → Read (Node × Node)
  | 0 => throw .shape
  | fuel + 1 => do
    let key ←
      if ← isOneOf [.value, .flowEntry, .flowSequenceEnd] then
        advance
        blank
      else node fuel false false
    let value ← flowValue fuel [.flowEntry, .flowSequenceEnd]
    return (key, value)

/-- The value of an entry in a flow collection. -/
def flowValue : Nat → (ends : List Token) → Read Node
  | 0, _ => throw .shape
  | fuel + 1, ends => do
    if ← isNext .value then
      advance
      nodeUnless fuel ends false false
    else blank

/-- The entries of a flow mapping, with a comma between two. -/
def flowEntries : Nat → (first : Bool) → Read (List (Node × Node))
  | 0, _ => throw .shape
  | fuel + 1, first => do
    if ← isNext .flowMappingEnd then
      advance
      count
      return []
    if !first then
      if ← isNext .flowEntry then advance else throw .shape
    if ← isNext .key then
      advance
      let key ← nodeUnless fuel [.value, .flowEntry, .flowMappingEnd] false false
      let value ← flowValue fuel [.flowEntry, .flowMappingEnd]
      return (key, value) :: (← flowEntries fuel false)
    else if ← isNext .flowMappingEnd then
      flowEntries fuel false
    else
      let key ← node fuel false false
      let value ← blank
      return (key, value) :: (← flowEntries fuel false)

end

/-! ### Directives and the document -/

/-- The handles that are declared without a directive. -/
def standardHandles : List (String × Tag) := [("!", .ofString "!"), ("!!", .standard "")]

/-- Read directives. A version may be told once, and each handle declared once. -/
def directives : Nat → (versioned : Bool) → Read Unit
  | 0, _ => return
  | fuel + 1, versioned => do
    match ← peek with
    | some (.versionDirective major minor) =>
      if versioned || major != 1 || (minor != 1 && minor != 2) then
        throw .directive
      advance
      directives fuel true
    | some (.tagDirective handle expansion) =>
      if ((← get).handles.lookup handle).isSome then
        throw .directive
      modify fun r => { r with handles := r.handles ++ [(handle, expansion)] }
      advance
      directives fuel versioned
    | _ => return

/-- Whether a token belongs to the head of a document. -/
def isHead : Token → Bool
  | .versionDirective _ _ | .tagDirective _ _ | .documentStart => true
  | _ => false

def documentEnds : Nat → Read Unit
  | 0 => return
  | fuel + 1 => do
    if ← isNext .documentEnd then
      advance
      documentEnds fuel

/-- Read the only document of a text. An empty text is a document with an empty root. -/
def document (fuel : Nat) : Read Node := do
  match ← peek with
  | none => blank
  | some first =>
    let root ←
      if isHead first then
        directives fuel false
        if ← isNext .documentStart then advance else throw .shape
        modify fun r => { r with handles := r.handles ++ standardHandles }
        let next ← peek
        if next.isNone || next.any (fun t => isHead t || t == .documentEnd) then blank
        else node fuel true false
      else
        modify fun r => { r with handles := standardHandles }
        node fuel true false
    documentEnds fuel
    if (← peek).isSome then
      throw .secondDocument
    return root

end Read

def Document.ofTokens (tokens : List Token) : Except YamlError Document := do
  let fuel := 4 * tokens.length + 8
  let (root, r) ← (Read.document fuel).run { tokens }
  return { root, anchors := r.anchors, anchored := r.anchored, size := r.size }

def Document.parse (text : String) : Except YamlError Document := do
  Document.ofTokens (← tokens text)

end ZWave.Yaml
