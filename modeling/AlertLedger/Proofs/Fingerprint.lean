/-
# Fingerprints read back
-/
import AlertLedger.Fingerprint
import AlertLedger.Proofs.Text.Hex

namespace AlertLedger.Fingerprint

/-- A written fingerprint is read back. -/
theorem parse_render (f : Fingerprint) : parse f.render = .ok f := by
  have hread : Text.readDigits? 16 Text.hexValue? f.digits = some f.bits.toNat := by
    refine Text.readDigits?_hexDigits Text.hexValue?_hexDigit ?_
    exact Nat.lt_of_lt_of_le f.bits.toNat_lt (by decide)
  have hlength : f.digits.length = width := Text.length_hexDigits _ _
  simp only [parse, render, String.toList_ofList, hlength, if_true, hread]
  rw [UInt64.ofNat_toNat]

end AlertLedger.Fingerprint
