/-
# YAML scalars

The four ways to write a scalar: plain, in quotes of two kinds, and as a block that is kept or
folded. Where a scalar runs over several lines, white space at the ends of lines is dropped and a
single break becomes a space.
-/
import AlertLedger.Text.Hex
import AlertLedger.Yaml.Cursor

namespace AlertLedger.Yaml

/-- The ways to write a scalar. -/
inductive ScalarStyle where
  | plain
  | singleQuoted
  | doubleQuoted
  | literal
  | folded
deriving DecidableEq, Repr

/-! ## Gaps -/

/-- The white space between two words of a scalar: the blanks before the first break, whether
there was a break, what the first break is, and what the further ones are. -/
structure Gap where
  blanks : List Char := []
  broken : Bool := false
  firstBreak : List Char := []
  moreBreaks : List Char := []

namespace Gap

/-- What a gap becomes in the value of a scalar. -/
def folded (g : Gap) : List Char :=
  if g.broken then
    if g.firstBreak == ['\n'] then (if g.moreBreaks.isEmpty then [' '] else g.moreBreaks)
    else g.firstBreak ++ g.moreBreaks
  else g.blanks

/-- Reads on in a gap. In a plain scalar no tab may stand where a line is indented less than
`tabIndent`. -/
def scan? (tabIndent : Nat) : (fuel : Nat) → Gap → Cursor → Option (Gap × Cursor)
  | 0, _, _ => none
  | fuel + 1, g, c =>
    match c.look 0 with
    | none => some (g, c)
    | some ch =>
      if isSpaceOrTab ch then
        if g.broken && c.column < tabIndent && ch == '\t' then none
        else scan? tabIndent fuel (if g.broken then g else { g with blanks := g.blanks ++ [ch] })
          (c.skip 1)
      else if isBreak ch then
        let (text, next) := c.takeBreak
        let g : Gap :=
          if g.broken then { g with moreBreaks := g.moreBreaks ++ text }
          else { g with blanks := [], broken := true, firstBreak := text }
        scan? tabIndent fuel g next
      else some (g, c)

end Gap

/-! ## Plain scalars -/

/-- Whether a character delimits the parts of a flow collection. -/
def isFlowIndicator (c : Char) : Bool :=
  c == ',' || c == '[' || c == ']' || c == '\x7b' || c == '\x7d'

/-- Reads a word of a plain scalar: up to white space, to a colon before white space and, within
a flow collection, to a delimiter. A colon directly before a delimiter is refused there. -/
def plainWord? (inFlow : Bool) : (fuel : Nat) → Cursor → Option (List Char × Cursor)
  | 0, _ => none
  | fuel + 1, c =>
    match c.look 0 with
    | none => some ([], c)
    | some ch =>
      if c.gapAt 0 then some ([], c)
      else if inFlow && ch == ':' && (c.look 1).any (fun d => isFlowIndicator d || d == '?') then
        none
      else if (ch == ':' && c.gapAt 1) || (inFlow && isFlowIndicator ch) then some ([], c)
      else (plainWord? inFlow fuel (c.skip 1)).map fun (cs, c) => (ch :: cs, c)

/-- Reads on in a plain scalar after some text and a gap. Gives the whole text, whether the gap at
the end holds a break, and the place. -/
def plainFrom? (inFlow : Bool) (indent : Nat) :
    (fuel : Nat) → List Char → Gap → Cursor → Option (List Char × Bool × Cursor)
  | 0, _, _, _ => none
  | fuel + 1, text, gap, c => do
    if c.atDocumentMark || c.sees '#' then return (text, gap.broken, c)
    let (word, c) ← plainWord? inFlow (c.rest.length + 1) c
    let text := if word.isEmpty then text else text ++ gap.folded ++ word
    let gap := if word.isEmpty then gap else {}
    if c.atEnd || !c.gapAt 0 then return (text, gap.broken, c)
    let (gap, c) ← gap.scan? indent (c.rest.length + 1) c
    if !inFlow && c.column < indent then return (text, gap.broken, c)
    plainFrom? inFlow indent fuel text gap c

/-- Reads a plain scalar. -/
def plain? (inFlow : Bool) (indent : Nat) (c : Cursor) : Option (List Char × Bool × Cursor) :=
  plainFrom? inFlow indent (c.rest.length + 1) [] {} c

/-! ## Quoted scalars -/

/-- The characters that a letter after a backslash stands for. -/
def letterEscapes : List (Char × Nat) :=
  [('0', 0x00), ('a', 0x07), ('b', 0x08), ('t', 0x09), ('\t', 0x09), ('n', 0x0a), ('v', 0x0b),
    ('f', 0x0c), ('r', 0x0d), ('e', 0x1b), (' ', 0x20), ('"', 0x22), ('/', 0x2f), ('\\', 0x5c),
    ('N', 0x85), ('_', 0xa0), ('L', 0x2028), ('P', 0x2029)]

/-- How many digits follow the letter of an escape by number. -/
def numberEscapes : List (Char × Nat) := [('x', 2), ('u', 4), ('U', 8)]

/-- Reads an escape after its backslash. -/
def escape? (c : Cursor) : Option (Char × Cursor) := do
  let letter ← c.look 0
  match letterEscapes.lookup letter with
  | some n => return (Char.ofNat n, c.skip 1)
  | none =>
    let width ← numberEscapes.lookup letter
    let ds ← ((c.rest.drop 1).take width).mapM Text.hexValueAnyCase?
    if ds.length < width then none
    else
      let n := ds.foldl (16 * · + ·) 0
      if h : n.isValidChar then return (Char.ofNatAux n h, c.skip (1 + width)) else none

/-- Reads a word of a quoted scalar, up to white space or the closing quote. A backslash at the
end of a line takes the break away; the flag says that this has happened. -/
def quotedWord? (single : Bool) : (fuel : Nat) → Cursor → Option (List Char × Bool × Cursor)
  | 0, _ => none
  | fuel + 1, c =>
    match c.look 0 with
    | none => some ([], false, c)
    | some ch =>
      if c.gapAt 0 then some ([], false, c)
      else if single && ch == '\'' && c.look 1 == some '\'' then
        (quotedWord? single fuel (c.skip 2)).map fun (cs, r) => (ch :: cs, r)
      else if ch == (if single then '\'' else '"') then some ([], false, c)
      else if !single && ch == '\\' then
        if c.breakAt 1 then some ([], true, (c.skip 1).skipBreak)
        else
          match escape? (c.skip 1) with
          | none => none
          | some (e, c) => (quotedWord? single fuel c).map fun (cs, r) => (e :: cs, r)
      else (quotedWord? single fuel (c.skip 1)).map fun (cs, r) => (ch :: cs, r)

/-- Reads on in a quoted scalar after some text. -/
def quotedFrom? (single : Bool) :
    (fuel : Nat) → List Char → Cursor → Option (List Char × Cursor)
  | 0, _, _ => none
  | fuel + 1, text, c => do
    if c.atDocumentMark || c.atEnd then none
    else
      let (word, joined, c) ← quotedWord? single (c.rest.length + 1) c
      let text := text ++ word
      if c.sees (if single then '\'' else '"') then return (text, c.skip 1)
      let (gap, c) ← Gap.scan? 0 (c.rest.length + 1) { broken := joined } c
      quotedFrom? single fuel (text ++ gap.folded) c

/-- Reads a quoted scalar from its opening quote on. -/
def quoted? (single : Bool) (c : Cursor) : Option (List Char × Cursor) :=
  let c := c.skip 1
  quotedFrom? single (c.rest.length + 1) [] c

/-! ## Block scalars -/

/-- What is done with the breaks at the end of a block. -/
inductive Chomping where
  | strip
  | clip
  | keep
deriving DecidableEq, Repr

/-- Reads the two indicators of a block, in either order: what is done with the breaks at its end,
and by how much it is indented. -/
def blockHeader? (c : Cursor) : Option (Chomping × Option Nat × Cursor) :=
  let chomping? (c : Cursor) : Option Chomping :=
    if c.sees '+' then some .keep else if c.sees '-' then some .strip else none
  let digit? (c : Cursor) : Option Nat :=
    (c.look 0).bind fun ch => if ch.isDigit then some (ch.toNat - 0x30) else none
  match chomping? c, digit? c with
  | some ch, _ =>
    match digit? (c.skip 1) with
    | some 0 => none
    | some n => some (ch, some n, c.skip 2)
    | none => some (ch, none, c.skip 1)
  | none, some 0 => none
  | none, some n =>
    match chomping? (c.skip 1) with
    | some ch => some (ch, some n, c.skip 2)
    | none => some (.clip, some n, c.skip 1)
  | none, none => some (.clip, none, c)

/-- Reads empty lines of a block and the indentation of the first line that is not empty. While
the indentation is not known, all spaces are taken; the widest line is remembered. -/
def blockBreaks? (indent : Option Nat) :
    (fuel : Nat) → (widest : Nat) → List Char → Cursor → Option (Nat × List Char × Cursor)
  | 0, _, _, _ => none
  | fuel + 1, widest, breaks, c =>
    let room := match indent with
      | some n => n - c.column
      | none => c.rest.length
    let c := c.skip ((c.rest.take room).takeWhile (· == ' ')).length
    let widest := max widest c.column
    if indent.all (c.column < ·) && c.sees '\t' then none
    else if c.breakAt 0 then
      let (text, c) := c.takeBreak
      blockBreaks? indent fuel widest (breaks ++ text) c
    else some (widest, breaks, c)

/-- What is carried from one line of a block to the next: the text so far, the break after the
last line, and whether that line starts with a blank. -/
structure BlockText where
  text : List Char := []
  lastBreak : List Char := []
  startsBlank : Bool := false

/-- Reads the lines of a block at an indentation, of which the breaks before the first one are
given. Gives what was read and the breaks after the last line. -/
def blockLines? (folded : Bool) (indent : Nat) :
    (fuel : Nat) → BlockText → List Char → Cursor → Option (BlockText × List Char × Cursor)
  | 0, _, _, _ => none
  | fuel + 1, b, breaks, c => do
    if c.column != indent || c.atEnd then return (b, breaks, c)
    let blank := c.blankAt 0
    let joint :=
      if folded && b.lastBreak == ['\n'] && !b.startsBlank && !blank then
        if breaks.isEmpty then [' '] else []
      else b.lastBreak
    let (line, c) := c.span (!isBreak ·)
    let (lastBreak, c) := c.takeBreak
    let b : BlockText :=
      { text := b.text ++ joint ++ breaks ++ line, lastBreak, startsBlank := blank }
    let (_, breaks, c) ← blockBreaks? (some indent) (c.rest.length + 1) 0 [] c
    blockLines? folded indent fuel b breaks c

/-- Reads a block scalar from its indicator on, inside a collection with the given indentation,
which is -1 outside of all. -/
def block? (folded : Bool) (outer : Int) (c : Cursor) : Option (List Char × Cursor) := do
  let (chomping, increment, c) ← blockHeader? (c.skip 1)
  let c ← c.skipToLineEnd?
  let given := increment.map fun n => if 0 ≤ outer then outer.toNat + n else n
  let (widest, breaks, c) ← blockBreaks? given (c.rest.length + 1) 0 [] c
  let indent := given.getD (max (max widest (outer + 1).toNat) 1)
  let (b, breaks, c) ← blockLines? folded indent (c.rest.length + 1) {} breaks c
  let ending := match chomping with
    | .strip => []
    | .clip => b.lastBreak
    | .keep => b.lastBreak ++ breaks
  return (b.text ++ ending, c)

end AlertLedger.Yaml
