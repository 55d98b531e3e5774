/-
# YAML documents

The tree of a YAML text. A text holds at most one document here; a text without any is told apart
from a document without content.

An alias is a node of its own, which names another one by number. A name that is given to a node
is numbered by how many names are known: a new name gets a new number, but a name that is given
anew gets the number that the next new name will get too. The number stands for the last node that
it was given to in the whole document, before the alias or after it (`Document.follow?`).
-/
import AlertLedger.Yaml.Token

namespace AlertLedger.Yaml

/-- A node of a document. A tag is a string of bytes. -/
inductive Node where
  | scalar (text : String) (style : ScalarStyle) (tag : Option (List UInt8))
  | sequence (tag : Option (List UInt8)) (items : List Node)
  | mapping (tag : Option (List UInt8)) (pairs : List (Node × Node))
  | alias (number : Nat)

/-- A node without content. -/
def Node.empty : Node := .scalar "" .plain none

/-- A document: its topmost node, and the nodes with numbers in the order in which they start. -/
structure Document where
  root : Node
  anchored : List (Nat × Node) := []

namespace Document

/-- The node that a node stands for: for an alias the last one with its number, else itself. -/
def follow? (d : Document) : Node → Option Node
  | .alias number => d.anchored.reverse.lookup number
  | n => some n

/-! ## Reading documents from tokens -/

/-- What is known while a document is read: the tokens that are left, what the tag handles expand
to, the numbers of the names, and the nodes with numbers in the order in which they start. -/
structure Reader where
  tokens : List Token
  handles : List (String × List UInt8) := []
  names : List (String × Nat) := []
  anchored : Array (Nat × Node) := #[]

/-- Reads from tokens, if they allow it. -/
abbrev Read := StateT Reader Option

namespace Read

/-- The next token; it is left where it is. -/
def peek : Read (Option Token) := return (← get).tokens.head?

/-- Drops the next token. -/
def skip : Read Unit := modify fun r => { r with tokens := r.tokens.tail }

/-- Drops the next token if it is the given one, and says whether it was. -/
def accept (t : Token) : Read Bool := do
  if (← peek) == some t then
    skip
    return true
  else return false

/-- Drops the next token, which must be the given one. -/
def expect (t : Token) : Read Unit := do
  unless ← accept t do failure

/-- Whether the next token is one of those given. -/
def sees (ts : List Token) : Read Bool := do
  match ← peek with
  | some t => return ts.contains t
  | none => return false

/-- Numbers a name that is given to a node which starts here, and keeps a place for the node. -/
def openAnchor (name : String) : Read Nat := do
  let r ← get
  let number := r.names.length
  set { r with
    names := (name, number) :: r.names.filter (·.1 != name)
    anchored := r.anchored.push (number, .empty) }
  return r.anchored.size

/-- Puts a node at the place that was kept for it. -/
def closeAnchor (place : Nat) (n : Node) : Read Unit :=
  modify fun r => { r with anchored := r.anchored.modify place fun (number, _) => (number, n) }

/-- The alias with a name, which must be known. -/
def resolveAlias (name : String) : Read Node := do
  return .alias (← (← get).names.lookup name)

/-- The full form of a tag. -/
def resolveTag (handle : String) (suffix : List UInt8) : Read (List UInt8) := do
  if handle == "" then return suffix
  else
    let expansion ← (← get).handles.lookup handle
    return expansion ++ suffix

/-- Reads the anchor and the tag of a node, in either order. -/
def properties : Read (Option String × Option (List UInt8)) := do
  match ← peek with
  | some (.anchor name) =>
    skip
    match ← peek with
    | some (.tag handle suffix) =>
      skip
      return (some name, some (← resolveTag handle suffix))
    | _ => return (some name, none)
  | some (.tag handle suffix) =>
    skip
    match ← peek with
    | some (.anchor name) =>
      skip
      return (some name, some (← resolveTag handle suffix))
    | _ => return (none, some (← resolveTag handle suffix))
  | _ => return (none, none)

mutual

/-- Reads a node. Block collections are allowed only outside of flow collections; as the value of
a key in a block mapping a sequence need not be indented. -/
def node (block indentless : Bool) : (fuel : Nat) → Read Node
  | 0 => failure
  | fuel + 1 => do
    if let some (.alias name) ← peek then
      skip
      resolveAlias name
    else
      let (anchor?, tag?) ← properties
      let place? ← anchor?.mapM openAnchor
      let n ← content block indentless (anchor?.isSome || tag?.isSome) tag? fuel
      if let some place := place? then closeAnchor place n
      return n

/-- Reads a node after its anchor and tag. With one of these a node may have no content. -/
def content (block indentless described : Bool) (tag? : Option (List UInt8)) :
    (fuel : Nat) → Read Node
  | 0 => failure
  | fuel + 1 => do
    match ← peek with
    | some .blockEntry =>
      if indentless then return .sequence tag? (← entries false fuel)
      else if described then return .scalar "" .plain tag?
      else failure
    | some (.scalar text style) =>
      skip
      return .scalar text style tag?
    | some .flowSequenceStart =>
      skip
      return .sequence tag? (← flowItems true fuel)
    | some .flowMappingStart =>
      skip
      return .mapping tag? (← flowPairs true fuel)
    | some .blockSequenceStart =>
      if block then
        skip
        return .sequence tag? (← entries true fuel)
      else if described then return .scalar "" .plain tag?
      else failure
    | some .blockMappingStart =>
      if block then
        skip
        return .mapping tag? (← pairs fuel)
      else if described then return .scalar "" .plain tag?
      else failure
    | _ => if described then return .scalar "" .plain tag? else failure

/-- Reads the entries of a block sequence, which has an end of its own if it is indented. -/
def entries (indented : Bool) : (fuel : Nat) → Read (List Node)
  | 0 => failure
  | fuel + 1 => do
    if ← accept .blockEntry then
      -- A sequence that is not indented ends where the mapping around it goes on.
      let ends := if indented then [.blockEntry, .blockEnd]
        else [.blockEntry, .key, .value, .blockEnd]
      let n ← if (← sees ends) || (← peek).isNone then pure .empty else node true false fuel
      return n :: (← entries indented fuel)
    else
      if indented then expect .blockEnd
      return []

/-- Reads the pairs of a block mapping. -/
def pairs : (fuel : Nat) → Read (List (Node × Node))
  | 0 => failure
  | fuel + 1 => do
    if ← accept .key then
      let ends := [.key, .value, .blockEnd]
      let k ← if ← sees ends then pure .empty else node true true fuel
      let v ←
        if ← accept .value then
          if ← sees ends then pure .empty else node true true fuel
        else pure .empty
      return (k, v) :: (← pairs fuel)
    else
      expect .blockEnd
      return []

/-- Reads the items of a flow sequence. An item may be a single pair without braces. -/
def flowItems (first : Bool) : (fuel : Nat) → Read (List Node)
  | 0 => failure
  | fuel + 1 => do
    if ← accept .flowSequenceEnd then return []
    else
      unless first do expect .flowEntry
      if ← accept .key then
        let n ← flowSinglePair fuel
        return n :: (← flowItems false fuel)
      else if ← accept .flowSequenceEnd then return []
      else
        let n ← node false false fuel
        return n :: (← flowItems false fuel)

/-- Reads a single pair in a flow sequence after its key indicator. A key without content takes
the token after it along. -/
def flowSinglePair : (fuel : Nat) → Read Node
  | 0 => failure
  | fuel + 1 => do
    let k ←
      if ← sees [.value, .flowEntry, .flowSequenceEnd] then do
        skip
        pure .empty
      else node false false fuel
    let v ←
      if ← accept .value then
        if ← sees [.flowEntry, .flowSequenceEnd] then pure .empty else node false false fuel
      else pure .empty
    return .mapping none [(k, v)]

/-- Reads the pairs of a flow mapping. A key without indicator has no value. -/
def flowPairs (first : Bool) : (fuel : Nat) → Read (List (Node × Node))
  | 0 => failure
  | fuel + 1 => do
    if ← accept .flowMappingEnd then return []
    else
      unless first do expect .flowEntry
      if ← accept .key then
        let ends := [.flowEntry, .flowMappingEnd]
        let k ← if ← sees (.value :: ends) then pure .empty else node false false fuel
        let v ←
          if ← accept .value then
            if ← sees ends then pure .empty else node false false fuel
          else pure .empty
        return (k, v) :: (← flowPairs false fuel)
      else if ← accept .flowMappingEnd then return []
      else
        let k ← node false false fuel
        return (k, .empty) :: (← flowPairs false fuel)

end

/-- Reads the directives before a document: at most one version, which must be 1.1 or 1.2, and at
most one expansion for each tag handle. -/
def directives : (fuel : Nat) → (versionSeen : Bool) → (own : List (String × List UInt8)) →
    Read (List (String × List UInt8))
  | 0, _, _ => failure
  | fuel + 1, versionSeen, own => do
    match ← peek with
    | some (.version major minor) =>
      if versionSeen || major != 1 || (minor != 1 && minor != 2) then failure
      skip
      directives fuel true own
    | some (.shorthand handle expansion) =>
      if own.any (·.1 == handle) then failure
      skip
      directives fuel versionSeen ((handle, expansion) :: own)
    | _ => return own

/-- The tag handles that need no directive. -/
def defaultHandles : List (String × List UInt8) :=
  [(Token.plainHandle, Text.encode "!"), ("!!", Text.encode "tag:yaml.org,2002:")]

/-- Drops the tokens that end a document. -/
def skipEnds : Read Unit :=
  modify fun r => { r with tokens := r.tokens.dropWhile (· == .documentEnd) }

/-- Reads the topmost node of a document, up to its end. Only an unmarked document starts without
three dashes. -/
def document (fuel : Nat) : Read Node := do
  let marked ← match ← peek with
    | some (.version ..) | some (.shorthand ..) | some .documentStart => pure true
    | _ => pure false
  if !marked then
    modify fun r => { r with handles := defaultHandles }
    let n ← node true false fuel
    discard <| accept .documentEnd
    return n
  else
    let own ← directives fuel false []
    -- Directives come first in the list and hide the handles that need none.
    modify fun r => { r with handles := own ++ defaultHandles }
    expect .documentStart
    let n ← match ← peek with
      | none | some (.version ..) | some (.shorthand ..) | some .documentStart
      | some .documentEnd => pure .empty
      | _ => node true false fuel
    discard <| accept .documentEnd
    return n

/-- Reads the whole of a text: nothing at all, or one document. -/
def text (fuel : Nat) : Read (Option Node) := do
  if (← peek).isNone then return none
  else
    let n ← document fuel
    skipEnds
    if (← peek).isNone then return some n else failure

end Read

/-- The document of a text, if the text can be read; none if there is no document in it. -/
def parse? (text : String) : Option (Option Document) := do
  let tokens ← Token.scan? text
  let (root?, r) ← (Read.text (4 * tokens.length + 8)).run { tokens }
  return root?.map fun root => { root, anchored := r.anchored.toList }

end Document

end AlertLedger.Yaml
