/-
# YAML tokens

The words of a YAML text. Indentation is turned into tokens here: a collection that is set off by
indentation starts and ends with a token, as one in brackets does. That a scalar is a key shows
only at the colon after it, so places where a key may have started are remembered, and a token is
put there afterwards.
-/
import AlertLedger.Text.Utf8
import AlertLedger.Yaml.Scalar

namespace AlertLedger.Yaml

/-- The words of a YAML text. What a tag says beyond its handle is a string of bytes, which need not
be text. -/
inductive Token where
  | version (major minor : Nat)
  | shorthand (handle : String) (expansion : List UInt8)
  | documentStart
  | documentEnd
  | blockSequenceStart
  | blockMappingStart
  | blockEnd
  | flowSequenceStart
  | flowSequenceEnd
  | flowMappingStart
  | flowMappingEnd
  | blockEntry
  | flowEntry
  | key
  | value
  | alias (name : String)
  | anchor (name : String)
  | tag (handle : String) (suffix : List UInt8)
  | scalar (text : String) (style : ScalarStyle)
deriving DecidableEq, Repr

/-! ## Tags and directives -/

namespace Token

/-- Whether a character may stand in a tag; a verbatim tag may hold some more. -/
def isTagChar (verbatim : Bool) (c : Char) : Bool :=
  isNameChar c || ";/?:@&=+$.%!~*'()".toList.contains c || (verbatim && ",[]".toList.contains c)

/-- How many bytes the UTF-8 form of a character has that starts with a byte. -/
def utf8Width (n : Nat) : Nat :=
  if n < 0x80 then 1
  else if 0xc0 ≤ n && n < 0xe0 then 2
  else if 0xe0 ≤ n && n < 0xf0 then 3
  else if 0xf0 ≤ n && n < 0xf8 then 4
  else 0

/-- Whether a byte is one that follows the first in the UTF-8 form of a character. -/
def isFurtherByte (b : UInt8) : Bool := 0x80 ≤ b && b < 0xc0

/-- Reads bytes written as a percent sign and two hexadecimal digits each. -/
def percentBytes? : (count : Nat) → Cursor → Option (List UInt8 × Cursor)
  | 0, c => some ([], c)
  | count + 1, c =>
    match c.rest with
    | '%' :: h :: l :: _ => do
      let n := 16 * (← Text.hexValueAnyCase? h) + (← Text.hexValueAnyCase? l)
      let (bytes, c) ← percentBytes? count (c.skip 3)
      return (UInt8.ofNat n :: bytes, c)
    | _ => none

/-- Reads the bytes of a character that is written in percent signs: a first byte, and as many
further ones as it announces. Whether the bytes together are a character is not asked. -/
def percentChar? (c : Cursor) : Option (List UInt8 × Cursor) := do
  let (first, _) ← percentBytes? 1 c
  let width := utf8Width (first.headD 0).toNat
  if width == 0 then none
  else
    let (bytes, c) ← percentBytes? width c
    if (bytes.drop 1).all isFurtherByte then some (bytes, c) else none

/-- Reads the bytes of a tag. -/
def tagBytes? (verbatim : Bool) : (fuel : Nat) → Cursor → Option (List UInt8 × Cursor)
  | 0, _ => none
  | fuel + 1, c =>
    match c.look 0 with
    | none => some ([], c)
    | some ch =>
      if ch == '%' then do
        let (bytes, c) ← percentChar? c
        let (more, c) ← tagBytes? verbatim fuel c
        return (bytes ++ more, c)
      else if isTagChar verbatim ch then do
        let (more, c) ← tagBytes? verbatim fuel (c.skip 1)
        return (String.utf8EncodeChar ch ++ more, c)
      else some ([], c)

/-- The bytes of a tag that count: those before the first that is zero. -/
def beforeZero (bytes : List UInt8) : List UInt8 := bytes.takeWhile (· != 0)

/-- Reads a tag handle: an exclamation mark, a name and perhaps a second mark. -/
def tagHandle? (c : Cursor) : Option (String × Cursor) :=
  if !c.sees '!' then none
  else
    let (name, c) := (c.skip 1).span isNameChar
    if c.sees '!' then some (String.ofList ('!' :: name ++ ['!']), c.skip 1)
    else some (String.ofList ('!' :: name), c)

/-- The handle of tags that have no other. -/
def plainHandle : String := "!"

/-- Whether a handle is closed by a second mark. -/
def isClosedHandle (handle : String) : Bool := handle != plainHandle && handle.endsWith "!"

/-- Reads a tag: a verbatim one, one with a named handle, or one with the mark alone as its
handle. White space must follow, or a comma in a flow collection. -/
def tag? (inFlow : Bool) (c : Cursor) : Option (Token × Cursor) := do
  let (handle, bytes, c) ←
    if c.look 1 == some '<' then do
      let (bytes, c) ← tagBytes? true (c.rest.length + 1) (c.skip 2)
      if bytes.isEmpty || !c.sees '>' then none else some ("", bytes, c.skip 1)
    else do
      let (handle, c) ← tagHandle? c
      let (bytes, c) ← tagBytes? false (c.rest.length + 1) c
      if isClosedHandle handle then
        if bytes.isEmpty then none else some (handle, bytes, c)
      else
        -- What was read as a handle is the start of the tag, but for the mark.
        let bytes := Text.encode (String.ofList (handle.toList.drop 1)) ++ bytes
        if (beforeZero bytes).isEmpty then some ("", Text.encode plainHandle, c)
        else some (plainHandle, bytes, c)
  if c.gapAt 0 || (inFlow && c.sees ',') then
    return (.tag handle (beforeZero bytes), c)
  else none

/-- Reads a number of at most nine digits. -/
def versionNumber? (c : Cursor) : Option (Nat × Cursor) :=
  let (ds, c) := c.span Char.isDigit
  if ds.isEmpty || ds.length > 9 then none
  else some (ds.foldl (fun n d => 10 * n + (d.toNat - 0x30)) 0, c)

/-- Reads a directive: the version of the language, or a tag handle with its expansion. -/
def directive? (c : Cursor) : Option (Token × Cursor) := do
  let (name, c) := (c.skip 1).span isNameChar
  if name.isEmpty || !c.gapAt 0 then none
  else
    let word := String.ofList name
    let c := c.skipWhile isSpaceOrTab
    let (token, c) ←
      if word == "YAML" then do
        let (major, c) ← versionNumber? c
        if !c.sees '.' then none
        else
          let (minor, c) ← versionNumber? (c.skip 1)
          some (Token.version major minor, c)
      else if word == "TAG" then do
        let (handle, c) ← tagHandle? c
        if !(handle == plainHandle || isClosedHandle handle) || !c.blankAt 0 then none
        else
          let (expansion, c) ← tagBytes? true (c.rest.length + 1) (c.skipWhile isSpaceOrTab)
          if expansion.isEmpty || !c.gapAt 0 then none
          else some (.shorthand handle (beforeZero expansion), c)
      else none
    return (token, ← c.skipToLineEnd?)

/-- Reads the name of an anchor or of an alias. What may follow is limited. -/
def anchorName? (c : Cursor) : Option (String × Cursor) :=
  let (name, c) := (c.skip 1).span isNameChar
  let ends := c.gapAt 0
    || (c.look 0).any fun ch => "?:,]\x7d%@".toList.contains ch || ch.toNat == 0x60
  if name.isEmpty || !ends then none else some (String.ofList name, c)

end Token

/-! ## The scanner -/

/-- A place where a key may have started: the number of tokens before it, and whether there must
be a key. -/
structure PossibleKey where
  required : Bool
  token : Nat
  place : Cursor

/-- What the scanner knows at a place: the tokens so far, the indentations of the open block
collections, whether a key may start here, and for each open flow collection and for what is
outside of all of them where a key may have started, the innermost first. -/
structure Scanner where
  place : Cursor
  tokens : Array Token := #[]
  indent : Int := -1
  outerIndents : List Int := []
  keyAllowed : Bool := true
  keys : List (Option PossibleKey) := [none]

namespace Scanner

/-- How many flow collections are open. -/
def flowLevel (s : Scanner) : Nat := s.keys.length - 1

/-- Whether a flow collection is open. -/
def inFlow (s : Scanner) : Bool := s.flowLevel > 0

/-- The column of the place. -/
def column (s : Scanner) : Int := s.place.column

/-- Adds a token. -/
def emit (t : Token) (s : Scanner) : Scanner := { s with tokens := s.tokens.push t }

/-- Adds a token that takes up some characters. -/
def take (t : Token) (width : Nat) (s : Scanner) : Scanner :=
  { (s.emit t) with place := s.place.skip width }

/-- Puts a token before those from a number on. -/
def insertToken (number : Nat) (t : Token) (s : Scanner) : Scanner :=
  { s with
    tokens := s.tokens.extract 0 number ++ #[t] ++ s.tokens.extract number s.tokens.size }

/-- Closes the block collections that are indented more than a column. -/
def unindent (column : Int) : (outers : List Int) → Scanner → Scanner
  | [], s => s
  | outer :: rest, s =>
    if s.indent > column then
      unindent column rest { (s.emit .blockEnd) with indent := outer, outerIndents := rest }
    else s

/-- Closes the block collections that are indented more than a column; within a flow collection
indentation means nothing. -/
def unroll (column : Int) (s : Scanner) : Scanner :=
  if s.inFlow then s else unindent column s.outerIndents s

/-- Opens a block collection at a column if it is indented more than the innermost one; its token
goes before those from a number on. -/
def roll (column : Int) (number : Nat) (t : Token) (s : Scanner) : Scanner :=
  if s.inFlow || s.indent ≥ column then s
  else
    { (s.insertToken number t) with indent := column, outerIndents := s.indent :: s.outerIndents }

/-- Forgets where a key may have started; a key that must be there is missed. -/
def forgetKey? (s : Scanner) : Option Scanner :=
  match s.keys with
  | some k :: rest => if k.required then none else some { s with keys := none :: rest }
  | _ => some s

/-- Remembers that a key may start here. -/
def saveKey? (s : Scanner) : Option Scanner :=
  if s.keyAllowed then do
    let s ← s.forgetKey?
    -- At the indentation of a block mapping nothing but a key may stand.
    let k : PossibleKey :=
      { required := !s.inFlow && s.indent == s.column, token := s.tokens.size, place := s.place }
    return { s with keys := some k :: s.keys.drop 1 }
  else some s

/-- A key has at most so many characters. -/
def maxKeyLength : Nat := 1024

/-- Forgets the places too far back for a key: it stands in one line and is not too long. -/
def forgetStaleKeys? (s : Scanner) : Option Scanner := do
  let keys ← s.keys.mapM fun k? =>
    match k? with
    | none => some none
    | some k =>
      if k.place.line < s.place.line || k.place.index + maxKeyLength < s.place.index then
        if k.required then none else some none
      else some (some k)
  return { s with keys }

/-- Goes on to the next token: past blanks, comments and breaks. A tab does not count as a blank
where indentation counts. The mark that may open a line takes up a column of it. -/
def skipGap : (fuel : Nat) → Scanner → Scanner
  | 0, s => s
  | fuel + 1, s =>
    let c := s.place
    let c := if c.column == 0 && c.sees byteOrderMark then c.skip 1 else c
    let c := c.skipWhile fun ch => ch == ' ' || ((s.inFlow || !s.keyAllowed) && ch == '\t')
    let c := if c.sees '#' then c.skipWhile (!isBreak ·) else c
    if c.breakAt 0 then
      skipGap fuel { s with place := c.skipBreak, keyAllowed := s.keyAllowed || !s.inFlow }
    else { s with place := c }

/-- A token at the start of a line that ends all collections. -/
def endBlocks? (s : Scanner) : Option Scanner :=
  (s.unroll (-1)).forgetKey?.map fun s => { s with keyAllowed := false }

/-- Opens a flow collection. -/
def openFlow? (t : Token) (s : Scanner) : Option Scanner := do
  let s ← s.saveKey?
  return { (s.take t 1) with keys := none :: s.keys, keyAllowed := true }

/-- Closes a flow collection. -/
def closeFlow? (t : Token) (s : Scanner) : Option Scanner := do
  let s ← s.forgetKey?
  return { (s.take t 1) with
    keys := if s.inFlow then s.keys.drop 1 else s.keys, keyAllowed := false }

/-- The comma of a flow collection. -/
def flowEntry? (s : Scanner) : Option Scanner := do
  let s ← s.forgetKey?
  return { (s.take .flowEntry 1) with keyAllowed := true }

/-- The dash of a block sequence. -/
def blockEntry? (s : Scanner) : Option Scanner :=
  if !s.inFlow && !s.keyAllowed then none
  else do
    let s ← (s.roll s.column s.tokens.size .blockSequenceStart).forgetKey?
    return { (s.take .blockEntry 1) with keyAllowed := true }

/-- The question mark of a key. -/
def key? (s : Scanner) : Option Scanner :=
  if !s.inFlow && !s.keyAllowed then none
  else do
    let s ← (s.roll s.column s.tokens.size .blockMappingStart).forgetKey?
    return { (s.take .key 1) with keyAllowed := !s.inFlow }

/-- The colon before a value. What may have been a key is one. -/
def value? (s : Scanner) : Option Scanner :=
  match s.keys with
  | some k :: rest =>
    -- A mapping that opens here opens before its key, so its token is put in after that of the key.
    let s := (s.insertToken k.token .key).roll k.place.column k.token .blockMappingStart
    some { (s.take .value 1) with keys := none :: rest, keyAllowed := false }
  | _ =>
    if !s.inFlow && !s.keyAllowed then none
    else
      let s := s.roll s.column s.tokens.size .blockMappingStart
      some { (s.take .value 1) with keyAllowed := !s.inFlow }

/-- A token at which a key may start. -/
def keyLike? (read? : Cursor → Option (Token × Cursor)) (s : Scanner) : Option Scanner := do
  let s ← s.saveKey?
  let (t, place) ← read? s.place
  return { (s.emit t) with place, keyAllowed := false }

/-- A block scalar. -/
def block? (folded : Bool) (s : Scanner) : Option Scanner := do
  let s ← s.forgetKey?
  let (text, place) ← Yaml.block? folded s.indent s.place
  let t := Token.scalar (String.ofList text) (if folded then .folded else .literal)
  return { (s.emit t) with place, keyAllowed := true }

/-- A plain scalar. If it ends with a break a key may start after it. -/
def plain? (s : Scanner) : Option Scanner := do
  let s ← s.saveKey?
  let (text, broken, place) ← Yaml.plain? s.inFlow (s.indent + 1).toNat s.place
  return { (s.emit (.scalar (String.ofList text) .plain)) with place, keyAllowed := broken }

/-- The characters that start no plain scalar. -/
def reserved : List Char := "-?:,[]\x7b\x7d#&*!|>'\"%@".toList ++ [Char.ofNat 0x60]

/-- Reads the token that starts here, or several that indentation brings about. -/
def next? (s : Scanner) : Option Scanner := do
  let s := s.unroll s.column
  let c := s.place
  let ch ← c.look 0
  if c.column == 0 && ch == '%' then
    let s ← s.endBlocks?
    let (t, place) ← Token.directive? s.place
    return { (s.emit t) with place }
  else if c.marksDocument '-' then return (← s.endBlocks?).take .documentStart 3
  else if c.marksDocument '.' then return (← s.endBlocks?).take .documentEnd 3
  else if ch == '[' then s.openFlow? .flowSequenceStart
  else if ch == '\x7b' then s.openFlow? .flowMappingStart
  else if ch == ']' then s.closeFlow? .flowSequenceEnd
  else if ch == '\x7d' then s.closeFlow? .flowMappingEnd
  else if ch == ',' then s.flowEntry?
  else if ch == '-' && c.gapAt 1 then s.blockEntry?
  else if ch == '?' && (s.inFlow || c.gapAt 1) then s.key?
  else if ch == ':' && (s.inFlow || c.gapAt 1) then s.value?
  else if ch == '*' then
    s.keyLike? fun c => (Token.anchorName? c).map fun (name, c) => (.alias name, c)
  else if ch == '&' then
    s.keyLike? fun c => (Token.anchorName? c).map fun (name, c) => (.anchor name, c)
  else if ch == '!' then s.keyLike? (Token.tag? s.inFlow)
  else if ch == '|' && !s.inFlow then s.block? false
  else if ch == '>' && !s.inFlow then s.block? true
  else if ch == '\'' then
    s.keyLike? fun c => (quoted? true c).map fun (text, c) =>
      (.scalar (String.ofList text) .singleQuoted, c)
  else if ch == '"' then
    s.keyLike? fun c => (quoted? false c).map fun (text, c) =>
      (.scalar (String.ofList text) .doubleQuoted, c)
  -- A dash, a question mark and a colon start a scalar where they do not stand alone.
  else if (!c.gapAt 0 && !reserved.contains ch) || (ch == '-' && !c.blankAt 1)
      || (!s.inFlow && (ch == '?' || ch == ':') && !c.gapAt 1) then s.plain?
  else none

/-- Reads tokens up to the end of the text. -/
def run? : (fuel : Nat) → Scanner → Option (List Token)
  | 0, _ => none
  | fuel + 1, s => do
    let s ← (skipGap (s.place.rest.length + 1) s).forgetStaleKeys?
    if s.place.atEnd then return (← (s.unroll (-1)).forgetKey?).tokens.toList
    else run? fuel (← s.next?)

end Scanner

/-- The tokens of a text. A character that may not stand in a text makes it unreadable. -/
def Token.scan? (text : String) : Option (List Token) :=
  let cs := text.toList
  if cs.all isAllowed then Scanner.run? (cs.length + 1) { place := { rest := cs } } else none

end AlertLedger.Yaml
