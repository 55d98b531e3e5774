/-
# Patterns

What a filter may ask of the value of a field: to be a truth value or a number, or to match a
regular expression. Nothing is matched here; what matters is whether a text has the form of one.

A value ends at a comma and at a closing brace, so an expression holds no repetition by count, and
an opening brace stands in it only as itself, in brackets or after a backslash.
-/
import AlertLedger.Text.Alphanumeric
import AlertLedger.Text.Hex

namespace AlertLedger.Pattern

/-! ## Escapes -/

/-- What a backslash and the characters after it stand for. -/
inductive Escaped where
  /-- One character. -/
  | literal (c : Char)
  /-- A character of some class. -/
  | oneOf
  /-- A place between characters. -/
  | place
deriving DecidableEq, Repr

/-- The control characters that have an escape of their own. -/
def controls : List (Char × Nat) :=
  [('a', 0x07), ('t', 0x09), ('n', 0x0a), ('v', 0x0b), ('f', 0x0c), ('r', 0x0d)]

/-- How many hexadecimal digits follow the letter of an escape by number. -/
def numberEscapes : List (Char × Nat) := [('x', 2), ('u', 4), ('U', 8)]

/-- The classes of characters with an escape of their own. -/
def classLetters : List Char := "dDsSwW".toList

/-- The general categories with a name of one letter. -/
def categoryLetters : List Char := "cClLmMnNpPsSzZ".toList

/-- The places with an escape: the start and the end. Where words start or end is not among them,
since it depends on the characters on both sides. -/
def placeLetters : List Char := ['A', 'z']

/-- Whether a character stands for itself after a backslash. -/
def standsForItself (c : Char) : Bool :=
  c.toNat < 0x80 && !c.isAlphanum && c != '<' && c != '>'

/-- Reads an escape after its backslash. -/
def escape? : List Char → Option (Escaped × List Char)
  | [] => none
  | c :: rest =>
    if standsForItself c then some (.literal c, rest)
    else if classLetters.contains c then some (.oneOf, rest)
    else if placeLetters.contains c then some (.place, rest)
    else if c == 'p' || c == 'P' then
      if rest.head?.any categoryLetters.contains then some (.oneOf, rest.tail) else none
    else
      match controls.lookup c, numberEscapes.lookup c with
      | some n, _ => some (.literal (Char.ofNat n), rest)
      | none, some width => do
        let digits := rest.take width
        let n ← Text.readDigits? 16 Text.hexValueAnyCase? digits
        if digits.length == width && n.isValidChar then
          some (.literal (Char.ofNat n), rest.drop width)
        else none
      | none, none => none

/-! ## Brackets -/

/-- The names of classes that stand between colons in brackets of their own. -/
def classNames : List String :=
  ["alnum", "alpha", "ascii", "blank", "cntrl", "digit", "graph", "lower", "print", "punct",
    "space", "upper", "word", "xdigit"]

/-- Reads a named class after its opening bracket. -/
def namedClass? (cs : List Char) : Option (List Char) :=
  match cs with
  | ':' :: rest =>
    let rest := if rest.head? == some '^' then rest.tail else rest
    let name := rest.takeWhile (· != ':')
    match rest.drop name.length with
    | ':' :: ']' :: rest => if classNames.contains (String.ofList name) then some rest else none
    | _ => none
  | _ => none

/-- What follows the start of brackets: the mark that turns them round, and hyphens or a closing
bracket that stand for themselves there. -/
def afterOpening (cs : List Char) : List Char :=
  let cs := if cs.head? == some '^' then cs.tail else cs
  match cs with
  | ']' :: rest => rest
  | _ => cs.dropWhile (· == '-')

/-- Reads a member of brackets. -/
def member? : List Char → Option (Escaped × List Char)
  | [] => none
  | '\\' :: rest => (escape? rest).filter (·.1 != .place)
  | c :: rest => some (.literal c, rest)

/-- Reads brackets after what follows their start, up to where these and those around them are
closed; `around` counts the latter. -/
def brackets? : (fuel : Nat) → (around : Nat) → List Char → Option (List Char)
  | 0, _, _ => none
  | fuel + 1, around, cs =>
    match cs with
    | ']' :: rest =>
      match around with
      | 0 => some rest
      | around + 1 => brackets? fuel around rest
    | '[' :: rest =>
      match namedClass? rest with
      | some rest => brackets? fuel around rest
      | none => brackets? fuel (around + 1) (afterOpening rest)
    -- The signs of intersection and of the two differences.
    | '&' :: '&' :: rest | '-' :: '-' :: rest | '~' :: '~' :: rest => brackets? fuel around rest
    | _ => do
      let (first, rest) ← member? cs
      match rest with
      | '-' :: c :: more =>
        -- Not every hyphen makes a range.
        if c == ']' || c == '-' then brackets? fuel around rest
        else
          match first, ← member? (c :: more) with
          | .literal low, (.literal high, rest) =>
            if low ≤ high then brackets? fuel around rest else none
          | _, _ => none
      | _ => brackets? fuel around rest

/-! ## Groups -/

/-- The letters that set how a group is read. -/
def flagLetters : List Char := "imsUuRx".toList

/-- Reads settings after the opening parenthesis and the question mark: letters without
repetition, of which some may stand after a hyphen. The flag says whether a group follows. -/
def settings? (cs : List Char) : Option (Bool × List Char) :=
  let given := cs.takeWhile fun c => c == '-' || flagLetters.contains c
  if !decide given.Nodup || given.getLast? == some '-' then none
  else
    match cs.drop given.length with
    | ':' :: rest => some (true, rest)
    | ')' :: rest => if given.isEmpty then none else some (false, rest)
    | _ => none

/-- Reads the name of a group after its opening angle. -/
def groupName? (cs : List Char) : Option (List Char) :=
  let name := cs.takeWhile (· != '>')
  let mayFollow (c : Char) := Text.isAlphanumeric c || "_.[]".toList.contains c
  let mayStart (c : Char) := c == '_' || (Text.isAlphanumeric c && !c.isDigit)
  match cs.drop name.length with
  | '>' :: rest => if name.head?.any mayStart && name.all mayFollow then some rest else none
  | _ => none

/-- Reads what stands at the start of a group after its parenthesis. The flag says whether there
is a group, or settings alone. -/
def groupStart? : List Char → Option (Bool × List Char)
  | '?' :: 'P' :: '<' :: rest => (groupName? rest).map fun rest => (true, rest)
  | '?' :: '<' :: rest => (groupName? rest).map fun rest => (true, rest)
  | '?' :: rest => settings? rest
  | rest => some (true, rest)

/-! ## Expressions -/

/-- Whether the rest of a regular expression has its form, inside of some groups. A sign of
repetition must have something before it that can be repeated. -/
def wellFormed : (fuel : Nat) → (groups : Nat) → (repeatable : Bool) → List Char → Bool
  | 0, _, _, _ => false
  | fuel + 1, groups, repeatable, cs =>
    match cs with
    | [] => groups == 0
    | '(' :: rest =>
      match groupStart? rest with
      | none => false
      | some (isGroup, rest) =>
        wellFormed fuel (if isGroup then groups + 1 else groups) false rest
    | ')' :: rest =>
      match groups with
      | 0 => false
      | groups + 1 => wellFormed fuel groups true rest
    | '|' :: rest => wellFormed fuel groups false rest
    | '[' :: rest =>
      match brackets? (rest.length + 1) 0 (afterOpening rest) with
      | none => false
      | some rest => wellFormed fuel groups true rest
    | '\x7b' :: _ => false
    | '\\' :: rest =>
      match escape? rest with
      | none => false
      | some (_, rest) => wellFormed fuel groups true rest
    | c :: rest =>
      if c == '*' || c == '+' || c == '?' then
        -- A question mark after it makes the repetition a lazy one.
        let rest := if rest.head? == some '?' then rest.tail else rest
        repeatable && wellFormed fuel groups true rest
      else wellFormed fuel groups true rest

/-- Whether a text has the form of a regular expression. -/
def isExpression (cs : List Char) : Bool := wellFormed (cs.length + 1) 0 false cs

/-! ## Numbers -/

/-- The characters after a sign, if there is one. -/
def unsigned : List Char → List Char
  | '+' :: rest | '-' :: rest => rest
  | cs => cs

/-- Whether characters are digits, one at least. -/
def areDigits (cs : List Char) : Bool := !cs.isEmpty && cs.all Char.isDigit

/-- Whether a text is a number: digits with perhaps a point among them and an exponent after them,
or a word for what is no finite number. -/
def isNumber (cs : List Char) : Bool :=
  let cs := unsigned cs
  let (whole, rest) := cs.span Char.isDigit
  let (part, rest) := match rest with
    | '.' :: rest => rest.span Char.isDigit
    | _ => ([], rest)
  ["inf", "infinity", "nan"].contains (String.ofList (cs.map Char.toLower))
    || (areDigits (whole ++ part) && match rest with
      | [] => true
      | e :: rest => e.toLower == 'e' && areDigits (unsigned rest))

/-- Whether a filter may ask for a text as a value. Truth values are expressions too. -/
def isValue (text : String) : Bool := isNumber text.toList || isExpression text.toList

end AlertLedger.Pattern
