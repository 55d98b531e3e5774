/-
# Universally unique identifiers

The ids of events: 128-bit numbers, ordered as numbers. They are written in five groups of
lower-case hexadecimal digits. Three further spellings are read: without hyphens, in braces and
as a URN; digits of either case will do. A reader may be strict about the word that opens a URN.
-/
import AlertLedger.Text.Hex

namespace AlertLedger

/-- In which case the letters may be of the word that opens a URN. -/
inductive UrnCase where
  | any
  | lower
deriving DecidableEq, Repr

/-- A universally unique identifier. -/
structure Uuid where
  bits : BitVec 128
deriving DecidableEq, Repr, Inhabited

namespace Uuid

/-- Identifiers in the order of their numbers. -/
instance : Ord Uuid := ⟨fun a b => compare a.bits b.bits⟩

instance : Std.TransOrd Uuid where
  eq_swap {a b} := @Std.OrientedCmp.eq_swap (BitVec 128) compare _ a.bits b.bits
  isLE_trans {a b c} := @Std.TransCmp.isLE_trans (BitVec 128) compare _ a.bits b.bits c.bits

instance : Std.LawfulEqOrd Uuid where
  compare_self := Std.compare_self (α := BitVec 128)
  eq_of_compare {a b} h := by
    cases a; cases b
    exact congrArg mk (Std.LawfulEqOrd.eq_of_compare (α := BitVec 128) h)

/-- The identifier with a given number, which counts modulo `2 ^ 128`. -/
def ofNat (n : Nat) : Uuid := ⟨BitVec.ofNat 128 n⟩

/-- The identifier of a time in milliseconds, of which 48 bits count, with 74 further bits that
tell apart what happens at that time. The identifiers of later times are larger. -/
def ofTime (milliseconds further : Nat) : Uuid :=
  let version := 7
  let variantBits := 2
  ⟨BitVec.ofNat 48 milliseconds ++ BitVec.ofNat 4 version ++ BitVec.ofNat 12 (further >>> 62)
    ++ BitVec.ofNat 2 variantBits ++ BitVec.ofNat 62 further⟩

/-- The sizes of the groups of digits. -/
def groupSizes : List Nat := [8, 4, 4, 4, 12]

/-- Puts hyphens between groups of the given sizes. -/
def hyphenate : List Nat → List Char → List Char
  | [], _ => []
  | [n], cs => cs.take n
  | n :: m :: ns, cs => cs.take n ++ '-' :: hyphenate (m :: ns) (cs.drop n)

/-- The digits of groups of the given sizes with a hyphen between any two. -/
def unhyphenate? : List Nat → List Char → Option (List Char)
  | [], _ => none
  | [n], cs => if cs.length = n then some cs else none
  | n :: m :: ns, cs =>
    match cs.drop n with
    | '-' :: rest => (unhyphenate? (m :: ns) rest).map (cs.take n ++ ·)
    | _ => none

/-- The written form of an identifier. -/
def render (u : Uuid) : String :=
  String.ofList (hyphenate groupSizes (Text.hexDigits 32 u.bits.toNat))

instance : ToString Uuid := ⟨render⟩

/-- Thirty-two digits as an identifier. -/
def ofDigits? (cs : List Char) : Option Uuid :=
  (Text.readDigits? 16 Text.hexValueAnyCase? cs).map ofNat

/-- The word that opens an identifier written as a URN. -/
def urnOpening : List Char := "urn:uuid:".toList

/-- Whether characters are the word that opens a URN. -/
def isUrnOpening (urnCase : UrnCase) (cs : List Char) : Bool :=
  match urnCase with
  | .any => cs.map Char.toLower == urnOpening
  | .lower => cs == urnOpening

/-- Reads an identifier in any of its four spellings. -/
def readAs? (urnCase : UrnCase) (s : String) : Option Uuid :=
  let cs := s.toList
  if cs.length = 32 then ofDigits? cs
  else if cs.length = 36 then (unhyphenate? groupSizes cs).bind ofDigits?
  -- The 36 characters with a brace on either side, or after the word of nine characters.
  else if cs.length = 38 then
    match cs with
    | '{' :: rest =>
      if rest.getLast? = some '}' then (unhyphenate? groupSizes rest.dropLast).bind ofDigits?
      else none
    | _ => none
  else if cs.length = 45 ∧ isUrnOpening urnCase (cs.take 9) then
    (unhyphenate? groupSizes (cs.drop 9)).bind ofDigits?
  else none

/-- Reads an identifier in any of its four spellings, with the letters of a URN in either case. -/
def parse? (s : String) : Option Uuid := readAs? .any s

end Uuid

end AlertLedger
