import TmuxPlan.Yaml.Scan

/-!
From tokens to the nodes of a document. Anchors are numbered in the order in which new names appear,
and a number stands for the last node that was given it.
-/

set_option autoImplicit false

namespace TmuxPlan.Yaml

inductive Node where
  | scalar (tag : Option String) (style : Style) (text : String)
  | list (tag : Option String) (items : List Node)
  | map (tag : Option String) (entries : List (Node × Node))
  /-- The node with this number. -/
  | alias (number : Nat)
  deriving Repr, Inhabited

/-- A node that carries an anchor. -/
structure Anchored where
  number : Nat
  /-- The place of the node in the document; of two nodes with one number the later counts. -/
  place : Nat
  node : Node

/-- The nodes of the only document of a stream. -/
structure Tree where
  /-- Absent in a stream without documents. -/
  root : Option Node
  anchored : List Anchored
  /-- How many marks the document has: one for a scalar, two for a collection. -/
  size : Nat

/-- The node that a number stands for. -/
def Tree.node? (tree : Tree) (number : Nat) : Option Node :=
  let named := tree.anchored.filter (·.number == number)
  (named.foldl (fun latest next =>
    match latest with
    | none => some next
    | some found => if found.place < next.place then some next else some found) none).map (·.node)

/-- Where the reader of a document stands. -/
structure Reading where
  tokens : List Token
  tagRules : List (String × String) := []
  /-- The names of anchors so far, with their numbers. -/
  names : List (String × Nat) := []
  anchored : List Anchored := []
  size : Nat := 0

abbrev Read := StateT Reading Option

namespace Read

def peek : Read (Option Token) := fun reading =>
  some (reading.tokens.head?, reading)

def next : Read Unit :=
  modify fun reading => { reading with tokens := reading.tokens.drop 1 }

/-- Takes the token if it is the next one. -/
def accept (token : Token) : Read Bool := do
  if (← peek) = some token then
    next
    return true
  else return false

def expect (token : Token) : Read Unit := do
  if !(← accept token) then failure

def count (marks : Nat) : Read Unit :=
  modify fun reading => { reading with size := reading.size + marks }

def emptyScalar : Read Node := do
  count 1
  return .scalar none .plain ""

/-- Numbers an anchor where its node starts. -/
def enter : Option String → Read (Option (Nat × Nat))
  | none => return none
  | some name => do
    let reading ← get
    let number := reading.names.length
    let known := reading.names.any (·.1 == name)
    let names := if known then
        reading.names.map fun named => if named.1 == name then (name, number) else named
      else reading.names ++ [(name, number)]
    set { reading with names }
    return some (number, reading.size)

/-- Keeps a node under its anchor. -/
def keep (start : Option (Nat × Nat)) (node : Node) : Read Node := do
  match start with
  | none => return node
  | some (number, place) =>
    modify fun reading =>
      { reading with anchored := ⟨number, place, node⟩ :: reading.anchored }
    return node

/-- The tag that a handle and a suffix stand for. -/
def resolveTag (handle suffix : String) : Read String := do
  if handle.isEmpty then return suffix
  else
    let reading ← get
    let rules := reading.tagRules ++ [("!", "!"), ("!!", "tag:yaml.org,2002:")]
    match rules.lookup handle with
    | some start => return start ++ suffix
    | none => failure

/-- An anchor and a tag, in any order. -/
def properties : Read (Option String × Option String) := do
  match ← peek with
  | some (.anchor name) =>
    next
    match ← peek with
    | some (.tag handle suffix) =>
      next
      return (some name, some (← resolveTag handle suffix))
    | _ => return (some name, none)
  | some (.tag handle suffix) =>
    next
    let tag ← resolveTag handle suffix
    match ← peek with
    | some (.anchor name) =>
      next
      return (some name, some tag)
    | _ => return (none, some tag)
  | _ => return (none, none)

/-- Whether a node may start here: not at a token that closes or goes on with what is around it. -/
def startsNode (closers : List (Option Token)) : Read Bool := do
  return !closers.contains (← peek)

mutual

/-- A node. Block collections are allowed if `block` is set, and a sequence that is not indented if
`indentless` is. The fuel bounds the steps and is taken from the number of tokens. -/
def node (block indentless : Bool) : Nat → Read Node
  | 0 => failure
  | fuel + 1 => do
    match ← peek with
    | some (.alias name) =>
      next
      count 1
      match (← get).names.lookup name with
      | some number => return .alias number
      | none => failure
    | _ =>
      let (anchor, tag) ← properties
      match ← peek with
      | some .blockEntry =>
        if indentless then
          let start ← enter anchor
          count 1
          let items ← indentlessItems fuel
          count 1
          keep start (.list tag items)
        else bare anchor tag
      | some (.scalar style text) =>
        next
        let start ← enter anchor
        count 1
        keep start (.scalar tag style text)
      | some .flowSequenceStart =>
        next
        let start ← enter anchor
        count 1
        let items ← flowItems true fuel
        count 1
        keep start (.list tag items)
      | some .flowMappingStart =>
        next
        let start ← enter anchor
        count 1
        let entries ← flowEntries true fuel
        count 1
        keep start (.map tag entries)
      | some .blockSequenceStart =>
        if block then
          next
          let start ← enter anchor
          count 1
          let items ← blockItems fuel
          count 1
          keep start (.list tag items)
        else bare anchor tag
      | some .blockMappingStart =>
        if block then
          next
          let start ← enter anchor
          count 1
          let entries ← blockEntries fuel
          count 1
          keep start (.map tag entries)
        else bare anchor tag
      | _ => bare anchor tag

/-- A node of properties alone is an empty scalar. -/
def bare (anchor tag : Option String) : Read Node := do
  if anchor.isNone && tag.isNone then failure
  else
    let start ← enter anchor
    count 1
    keep start (.scalar tag .plain "")

def blockItems : Nat → Read (List Node)
  | 0 => failure
  | fuel + 1 => do
    if ← accept .blockEntry then
      let item ← if ← startsNode [some .blockEntry, some .blockEnd] then node true false fuel
        else emptyScalar
      return item :: (← blockItems fuel)
    else
      expect .blockEnd
      return []

def indentlessItems : Nat → Read (List Node)
  | 0 => failure
  | fuel + 1 => do
    if ← accept .blockEntry then
      let item ←
        if ← startsNode [some .blockEntry, some .key, some .value, some .blockEnd] then
          node true false fuel
        else emptyScalar
      return item :: (← indentlessItems fuel)
    else return []

def blockEntries : Nat → Read (List (Node × Node))
  | 0 => failure
  | fuel + 1 => do
    if ← accept .key then
      let key ← blockSide fuel
      let value ← if ← accept .value then blockSide fuel else emptyScalar
      return (key, value) :: (← blockEntries fuel)
    else
      expect .blockEnd
      return []

/-- A key or a value of a block mapping. -/
def blockSide : Nat → Read Node
  | 0 => failure
  | fuel + 1 => do
    if ← startsNode [some .key, some .value, some .blockEnd] then node true true fuel
    else emptyScalar

def flowItems (first : Bool) : Nat → Read (List Node)
  | 0 => failure
  | fuel + 1 => do
    if ← accept .flowSequenceEnd then return []
    else
      if !first then expect .flowEntry
      if ← accept .flowSequenceEnd then return []
      else
        let item ← if ← accept .key then flowPair fuel else node false false fuel
        return item :: (← flowItems false fuel)

/-- A mapping of one entry inside a flow sequence. -/
def flowPair : Nat → Read Node
  | 0 => failure
  | fuel + 1 => do
    count 1
    let key ← if ← startsNode [some .value, some .flowEntry, some .flowSequenceEnd] then
        node false false fuel
      else
        next
        emptyScalar
    let value ← if ← accept .value then flowSide .flowSequenceEnd fuel else emptyScalar
    count 1
    return .map none [(key, value)]

/-- A value inside a flow collection, up to its end or the next entry. -/
def flowSide (close : Token) : Nat → Read Node
  | 0 => failure
  | fuel + 1 => do
    if ← startsNode [some .flowEntry, some close] then node false false fuel else emptyScalar

def flowEntries (first : Bool) : Nat → Read (List (Node × Node))
  | 0 => failure
  | fuel + 1 => do
    if ← accept .flowMappingEnd then return []
    else
      if !first then expect .flowEntry
      if ← accept .flowMappingEnd then return []
      else
        let entry ← if ← accept .key then
            let key ← if ← startsNode [some .value, some .flowEntry, some .flowMappingEnd] then
                node false false fuel
              else emptyScalar
            let value ← if ← accept .value then flowSide .flowMappingEnd fuel else emptyScalar
            pure (key, value)
          else
            let key ← node false false fuel
            pure (key, ← emptyScalar)
        return entry :: (← flowEntries false fuel)

end

/-- The directives in front of a document: one version at most, and no handle twice. -/
def directives (versioned : Bool) : Nat → Read Unit
  | 0 => failure
  | fuel + 1 => do
    match ← peek with
    | some (.versionDirective major minor) =>
      if versioned || major ≠ 1 || (minor ≠ 1 && minor ≠ 2) then failure
      else
        next
        directives true fuel
    | some (.tagDirective handle start) =>
      let reading ← get
      if reading.tagRules.any (·.1 == handle) then failure
      else
        set { reading with tagRules := reading.tagRules ++ [(handle, start)] }
        next
        directives versioned fuel
    | _ => return ()

/-- Whether the next token belongs to the frame of a document and not to its content. -/
def atFrame : Read Bool := do
  match ← peek with
  | none | some (.versionDirective ..) | some (.tagDirective ..) | some .documentStart |
    some .documentEnd => return true
  | _ => return false

/-- The root of the only document of a stream; absent if the stream is empty. -/
def root (fuel : Nat) : Read (Option Node) := do
  match ← peek with
  | none => return none
  | some (.versionDirective ..) | some (.tagDirective ..) | some .documentStart =>
    directives false fuel
    expect .documentStart
    let content ← if ← atFrame then emptyScalar else node true false fuel
    return some content
  | _ => return some (← node true false fuel)

/-- Only ends of documents may follow the document. -/
def ending : Read Unit := do
  let reading ← get
  if reading.tokens.all (· == .documentEnd) then return () else failure

end Read

/-- The tree of a stream of tokens, if it holds one document at most. -/
def Tree.ofTokens? (tokens : List Token) : Option Tree := do
  let fuel := 4 * tokens.length + 8
  let (root, reading) ← (do
    let root ← Read.root fuel
    Read.ending
    return root : Read (Option Node)).run { tokens }
  return ⟨root, reading.anchored, if root.isNone then 1 else reading.size⟩

end TmuxPlan.Yaml
