/-
# JSON values

JSON values that have been read, how they are read from written ones and how they are printed.

Reading looks closer than parsing: a string must be text, which lone surrogates and ill-formed
UTF-8 are not, a number must fit a double, and the nesting must not be too deep. Printing is
compact, or spread over lines with two blanks for each level.
-/
import AlertLedger.Json.Written
import AlertLedger.Text.Hex

namespace AlertLedger.Json

/-- A JSON value. Of the numbers only natural numbers of 64 bits are kept. -/
inductive Value where
  | null
  | bool (b : Bool)
  | natural (n : Nat)
  | otherNumber
  | string (s : String)
  | array (items : List Value)
  | object (members : List (String × Value))

/-! ## Reading strings -/

/-- The number written with four hexadecimal digits. -/
def fourDigits (h₁ h₂ h₃ h₄ : UInt8) : Option Nat := do
  let a ← Token.hexDigitValue? h₁
  let b ← Token.hexDigitValue? h₂
  let c ← Token.hexDigitValue? h₃
  let d ← Token.hexDigitValue? h₄
  return ((a * 16 + b) * 16 + c) * 16 + d

/-- Whether a unit of 16 bits opens a pair. -/
def isLeading (n : Nat) : Bool := 0xd800 ≤ n && n < 0xdc00

/-- Whether a unit of 16 bits closes a pair. -/
def isTrailing (n : Nat) : Bool := 0xdc00 ≤ n && n < 0xe000

/-- The character of a pair of units. -/
def pairChar (leading trailing : Nat) : Char :=
  Char.ofNat (0x10000 + (leading - 0xd800) * 0x400 + (trailing - 0xdc00))

/-- The bytes that a string stands for, with its escapes resolved. A character outside the basic
plane is escaped as a pair of units; half a pair is refused. -/
def unescape? : List UInt8 → Option (List UInt8)
  | [] => some []
  | 0x5c :: 0x75 :: h₁ :: h₂ :: h₃ :: h₄ :: rest =>
    match fourDigits h₁ h₂ h₃ h₄ with
    | none => none
    | some n =>
      if isTrailing n then none
      else if isLeading n then
        match rest with
        | 0x5c :: 0x75 :: t₁ :: t₂ :: t₃ :: t₄ :: rest =>
          match fourDigits t₁ t₂ t₃ t₄ with
          | none => none
          | some m =>
            if isTrailing m then
              (unescape? rest).map (String.utf8EncodeChar (pairChar n m) ++ ·)
            else none
        | _ => none
      else (unescape? rest).map (String.utf8EncodeChar (Char.ofNat n) ++ ·)
  | 0x5c :: e :: rest =>
    match Token.simpleEscape? e with
    | none => none
    | some b => (unescape? rest).map (b :: ·)
  | b :: rest => (unescape? rest).map (b :: ·)

/-- The string with the given bytes between its quotes. -/
def stringOfBody? (body : List UInt8) : Option String :=
  (unescape? body).bind Text.decode?

/-! ## Reading values -/

/-- How many arrays and objects may be open at once in a value that is read. -/
def maxDepth : Nat := 127

/-- Reads a written value in which at most `depth` arrays and objects are open at once. -/
def Written.value? : (depth : Nat) → Written → Option Value
  | _, .null => some .null
  | _, .bool b => some (.bool b)
  | _, .number n =>
    match n.natural? with
    | some k => some (.natural k)
    | none => if n.tooLarge then none else some .otherNumber
  | _, .string body => (stringOfBody? body).map .string
  | 0, .array _ => none
  | depth + 1, .array items => (items.mapM fun v => value? depth v).map .array
  | 0, .object _ => none
  | depth + 1, .object members =>
    (members.mapM fun (p : List UInt8 × Written) => do
      let key ← stringOfBody? p.1
      let v ← value? depth p.2
      return (key, v)).map .object

/-- Reads a JSON text. -/
def Value.parse? (bytes : List UInt8) : Option Value :=
  (Written.parse? bytes).bind (Written.value? maxDepth)

/-! ## Printing -/

/-- The escaped form of a character inside a string: quotes, backslashes and control characters
are escaped, nothing else is. -/
def escapeChar (c : Char) : List Char :=
  if c = '"' then ['\\', '"']
  else if c = '\\' then ['\\', '\\']
  else if c = Char.ofNat 0x08 then ['\\', 'b']
  else if c = Char.ofNat 0x0c then ['\\', 'f']
  else if c = '\n' then ['\\', 'n']
  else if c = '\r' then ['\\', 'r']
  else if c = '\t' then ['\\', 't']
  else if c.toNat < 0x20 then '\\' :: 'u' :: Text.hexDigits 4 c.toNat
  else [c]

/-- A string with its quotes. -/
def quoted (s : String) : List Char :=
  '"' :: (s.toList.flatMap escapeChar ++ ['"'])

namespace Value

mutual

/-- The compact form of a value. A number that was not kept is printed as zero. -/
def chars : Value → List Char
  | .null => "null".toList
  | .bool true => "true".toList
  | .bool false => "false".toList
  | .natural n => Nat.toDigits 10 n
  | .otherNumber => ['0']
  | .string s => quoted s
  | .array items => '[' :: (itemsChars items ++ [']'])
  | .object members => '{' :: (membersChars members ++ ['}'])

/-- The values of an array with commas between them. -/
def itemsChars : List Value → List Char
  | [] => []
  | [v] => v.chars
  | v :: w :: rest => v.chars ++ ',' :: itemsChars (w :: rest)

/-- The members of an object with commas between them. -/
def membersChars : List (String × Value) → List Char
  | [] => []
  | [(key, v)] => quoted key ++ ':' :: v.chars
  | (key, v) :: m :: rest => quoted key ++ ':' :: (v.chars ++ ',' :: membersChars (m :: rest))

end

/-- The compact form of a value. -/
def render (v : Value) : String := String.ofList v.chars

/-- The start of a line at a level of nesting. -/
def newLine (level : Nat) : List Char :=
  '\n' :: List.replicate (2 * level) ' '

mutual

/-- The form of a value over several lines, at a level of nesting. -/
def prettyChars (level : Nat) : Value → List Char
  | .array [] => ['[', ']']
  | .array items => '[' :: (prettyItems (level + 1) items ++ newLine level ++ [']'])
  | .object [] => ['{', '}']
  | .object members => '{' :: (prettyMembers (level + 1) members ++ newLine level ++ ['}'])
  | .null => chars .null
  | .bool b => chars (.bool b)
  | .natural n => chars (.natural n)
  | .otherNumber => chars .otherNumber
  | .string s => chars (.string s)

/-- The values of an array, each on lines of its own. -/
def prettyItems (level : Nat) : List Value → List Char
  | [] => []
  | [v] => newLine level ++ prettyChars level v
  | v :: w :: rest => newLine level ++ prettyChars level v ++ ',' :: prettyItems level (w :: rest)

/-- The members of an object, each on lines of its own. -/
def prettyMembers (level : Nat) : List (String × Value) → List Char
  | [] => []
  | [(key, v)] => newLine level ++ quoted key ++ ':' :: ' ' :: prettyChars level v
  | (key, v) :: m :: rest =>
    newLine level ++ quoted key ++ ':' :: ' ' :: prettyChars level v
      ++ ',' :: prettyMembers level (m :: rest)

end

/-- The form of a value over several lines. -/
def pretty (v : Value) : String := String.ofList (v.prettyChars 0)

end Value

end AlertLedger.Json
