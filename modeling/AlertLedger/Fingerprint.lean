/-
# Fingerprints

An alert is known by its fingerprint, a 64-bit number. In texts it is written with sixteen
lower-case hexadecimal digits, and no other spelling is read.
-/
import AlertLedger.Fault
import AlertLedger.Text.Hex

namespace AlertLedger

/-- The identity of an alert. -/
structure Fingerprint where
  bits : UInt64
deriving DecidableEq, Repr, Inhabited

namespace Fingerprint

/-- How many hexadecimal digits a fingerprint is written with. -/
def width : Nat := 16

/-- Fingerprints in the order of their numbers. -/
instance : Ord Fingerprint := ⟨fun a b => compare a.bits b.bits⟩

instance : Std.TransOrd Fingerprint where
  eq_swap {a b} := @Std.OrientedCmp.eq_swap UInt64 compare _ a.bits b.bits
  isLE_trans {a b c} := @Std.TransCmp.isLE_trans UInt64 compare _ a.bits b.bits c.bits

instance : Std.LawfulEqOrd Fingerprint where
  compare_self := Std.compare_self (α := UInt64)
  eq_of_compare {a b} h := by
    cases a; cases b
    exact congrArg mk (Std.LawfulEqOrd.eq_of_compare (α := UInt64) h)

/-- The digits of a fingerprint. -/
def digits (f : Fingerprint) : List Char :=
  Text.hexDigits width f.bits.toNat

/-- The written form of a fingerprint. -/
def render (f : Fingerprint) : String :=
  String.ofList f.digits

instance : ToString Fingerprint := ⟨render⟩

/-- Reads a written fingerprint: exactly sixteen digits, none of them upper case. -/
def parse (s : String) : Except Fault Fingerprint :=
  let cs := s.toList
  match if cs.length = width then Text.readDigits? 16 Text.hexValue? cs else none with
  | some n => .ok ⟨UInt64.ofNat n⟩
  | none => .error (.invalidFingerprint s!"'{s}': expected {width} lowercase hex digits")

end Fingerprint

end AlertLedger
