/-
# The written form of a fingerprint

A fingerprint is written with sixteen lower-case digits, and the texts of sixteen such digits are
the written forms and nothing else: each is read, and the fingerprint is written the same way again.

A text may be checked before anything is read from it, and its bytes are enough for that
(`Fingerprint.isWellFormed`): no character outside of ASCII has a byte that is a digit, so a text of
sixteen bytes with fewer characters does not pass. What reads the number after the check knows more
spellings, a plus sign or digits in upper case, and has its own reasons to fail, but none of them
comes up (`Fingerprint.parse_eq_parseInSteps`).

The main result is `Fingerprint.written_form_exact`.
-/
import AlertLedger.Proofs.Encoding.Operation
import AlertLedger.Proofs.Text.Hex

namespace AlertLedger

/-! ### Numbers of 64 bits -/

namespace Text

/-- Why a text is no number of 64 bits. -/
inductive WordFault where
  | empty
  | invalidDigit
  | tooLarge

/-- The wording of the fault. -/
def WordFault.message : WordFault → String
  | .empty => "cannot parse integer from empty string"
  | .invalidDigit => "invalid digit found in string"
  | .tooLarge => "number too large to fit in target type"

/-- Takes one more hexadecimal digit into a number, if there is room for it. -/
def pushDigit (n : UInt64) (c : Char) : Except WordFault UInt64 :=
  match hexValueAnyCase? c with
  | none => .error .invalidDigit
  | some d =>
    if 16 * n.toNat + d < UInt64.size then .ok (UInt64.ofNat (16 * n.toNat + d))
    else .error .tooLarge

/-- Reads hexadecimal digits of either case, with or without a plus sign before them. -/
def readWord (cs : List Char) : Except WordFault UInt64 :=
  if cs = [] then .error .empty
  else if cs = ['+'] then .error .invalidDigit
  else (if cs.head? = some '+' then cs.tail else cs).foldlM pushDigit 0

/-- Digits are taken in one by one if there is room for their number. -/
lemma foldlM_pushDigit {cs : List Char} {n : Nat} (hn : n < UInt64.size)
    (h : readDigits? 16 hexValueAnyCase? cs = some n) :
    cs.foldlM pushDigit 0 = .ok (UInt64.ofNat n) := by
  induction cs using List.reverseRecOn generalizing n with
  | nil =>
    obtain rfl : 0 = n := Option.some.inj h
    rfl
  | append_singleton cs c ih =>
    rw [readDigits?, List.foldlM_append] at h
    obtain ⟨m, hm, hc⟩ := Option.bind_eq_some_iff.mp h
    obtain ⟨d, hd, rfl⟩ : ∃ d, hexValueAnyCase? c = some d ∧ 16 * m + d = n := by
      simpa using hc
    have hmn : m < UInt64.size := by omega
    have hword : (UInt64.ofNat m).toNat = m := UInt64.toNat_ofNat_of_lt' hmn
    rw [List.foldlM_append, ih hmn hm]
    change [c].foldlM pushDigit (UInt64.ofNat m) = _
    rw [List.foldlM_cons, pushDigit, hd, hword]
    simp only [if_pos hn]
    rfl

lemma readWord_hexDigits {width n : Nat} (hwidth : width ≠ 0) (h : n < 16 ^ width)
    (hn : n < UInt64.size) : readWord (hexDigits width n) = .ok (UInt64.ofNat n) := by
  have hread := readDigits?_hexDigits hexValueAnyCase?_hexDigit h
  have hne : hexDigits width n ≠ [] := by
    rw [← List.length_pos_iff, length_hexDigits]
    exact Nat.pos_of_ne_zero hwidth
  have hplus : '+' ∉ hexDigits width n := by
    intro hmem
    exact absurd (mem_hexAlphabet_of_mem_hexDigits hmem) (by decide)
  have hsign : hexDigits width n ≠ ['+'] := by
    intro heq
    rw [heq] at hplus
    exact hplus List.mem_cons_self
  have hhead : (hexDigits width n).head? ≠ some '+' := by
    intro hhead
    exact hplus (List.mem_of_mem_head? hhead)
  rw [readWord, if_neg hne, if_neg hsign, if_neg hhead]
  exact foldlM_pushDigit hn hread

/-! ### Bytes of digits -/

/-- Whether a byte is a lower-case digit. -/
def isHexByte (b : UInt8) : Bool :=
  0x30 ≤ b && b ≤ 0x39 || 0x61 ≤ b && b ≤ 0x66

/-- A digit is a single byte, and the byte is a digit, too. -/
lemma encodeChar_of_mem_hexAlphabet {c : Char} (h : c ∈ hexAlphabet) :
    ∃ b, String.utf8EncodeChar c = [b] ∧ isHexByte b := by
  obtain ⟨d, hd, rfl⟩ := mem_hexAlphabet_iff.mp h
  have hbyte : ∀ d < 16, isHexByte (UInt8.ofNat (hexDigit d).toNat) := by decide
  exact ⟨_, encodeChar_hexDigit hd, hbyte d hd⟩

/-- A character with the byte of a digit is that digit. -/
lemma mem_hexAlphabet_of_isHexByte {c : Char} {b : UInt8} (hb : b ∈ String.utf8EncodeChar c)
    (hdigit : isHexByte b) : c ∈ hexAlphabet := by
  have hlt : b < 0x80 := by
    simp only [isHexByte, Bool.or_eq_true, Bool.and_eq_true, decide_eq_true_eq,
      UInt8.le_iff_toNat_le] at hdigit
    rw [UInt8.lt_iff_toNat_lt]
    rcases hdigit with ⟨-, hlast⟩ | ⟨-, hlast⟩
    · exact Nat.lt_of_le_of_lt hlast (by decide)
    · exact Nat.lt_of_le_of_lt hlast (by decide)
  have hall : ∀ n < 0x80, isHexByte (UInt8.ofNat n) → Char.ofNat n ∈ hexAlphabet := by decide
  have hmem := hall b.toNat (UInt8.lt_iff_toNat_lt.mp hlt) (by rwa [UInt8.ofNat_toNat])
  rwa [← toNat_eq_of_mem_encodeChar hb hlt, Char.ofNat_toNat] at hmem

lemma all_isHexByte_iff {cs : List Char} :
    (encodeChars cs).all isHexByte ↔ ∀ c ∈ cs, c ∈ hexAlphabet := by
  rw [List.all_eq_true]
  constructor
  · intro h c hc
    -- Every character has a byte, of which there is only to ask.
    obtain ⟨b, hb⟩ := List.exists_mem_of_length_pos
      (by rw [String.length_utf8EncodeChar]; exact c.utf8Size_pos :
        0 < (String.utf8EncodeChar c).length)
    exact mem_hexAlphabet_of_isHexByte hb (h b (List.mem_flatMap.mpr ⟨c, hc, hb⟩))
  · intro h b hb
    obtain ⟨c, hc, hb⟩ := List.mem_flatMap.mp hb
    obtain ⟨b', hbytes, hdigit⟩ := encodeChar_of_mem_hexAlphabet (h c hc)
    rw [hbytes, List.mem_singleton] at hb
    rwa [hb]

/-- A text of digits has as many bytes as characters. -/
lemma length_encodeChars {cs : List Char} (h : ∀ c ∈ cs, c ∈ hexAlphabet) :
    (encodeChars cs).length = cs.length := by
  induction cs with
  | nil => rfl
  | cons c cs ih =>
    obtain ⟨hc, hcs⟩ := List.forall_mem_cons.mp h
    obtain ⟨b, hbytes, -⟩ := encodeChar_of_mem_hexAlphabet hc
    rw [encodeChars_cons, hbytes, List.length_append, ih hcs, List.length_cons, List.length_cons]
    exact Nat.add_comm _ _

end Text

namespace Fingerprint

open Json (Value)

/-! ### Written forms -/

/-- A text of sixteen lower-case digits. -/
def IsWritten (s : String) : Prop :=
  s.length = 16 ∧ ∀ c ∈ s.toList, c ∈ "0123456789abcdef".toList

instance : DecidablePred IsWritten := fun s =>
  inferInstanceAs (Decidable (s.length = 16 ∧ ∀ c ∈ s.toList, c ∈ "0123456789abcdef".toList))

lemma isWritten_render (f : Fingerprint) : IsWritten f.render := by
  refine ⟨?_, ?_⟩
  · rw [← String.length_toList, render, String.toList_ofList]
    exact Text.length_hexDigits _ _
  · intro c hc
    rw [render, String.toList_ofList] at hc
    exact Text.mem_hexAlphabet_of_mem_hexDigits hc

/-- What is read is a written form. -/
lemma eq_render_of_parse {s : String} {f : Fingerprint} (h : parse s = .ok f) : s = f.render := by
  unfold parse at h
  dsimp only at h
  split at h
  · rename_i n hn
    obtain rfl := Except.ok.inj h
    split_ifs at hn with hlength
    obtain ⟨hlt, hdigits⟩ := Text.readDigits?_eq_some_iff.mp hn
    rw [hlength] at hlt hdigits
    have hword : (UInt64.ofNat n).toNat = n := UInt64.toNat_ofNat_of_lt' hlt
    rw [render, digits, hword, hdigits, String.ofList_toList]
  · cases h

theorem parse_eq_ok_iff {s : String} {f : Fingerprint} : parse s = .ok f ↔ s = f.render := by
  constructor
  · exact eq_render_of_parse
  · rintro rfl
    exact parse_render f

/-- The sixteen digits of a text are those of some fingerprint. -/
lemma isWritten_iff {s : String} : IsWritten s ↔ ∃ f : Fingerprint, s = f.render := by
  constructor
  · rintro ⟨hlength, hdigits⟩
    obtain ⟨n, hn⟩ := Text.exists_readDigits? hdigits
    rw [← String.length_toList] at hlength
    refine ⟨⟨UInt64.ofNat n⟩, eq_render_of_parse ?_⟩
    simp only [parse, width, hlength, if_true, hn]
  · rintro ⟨f, rfl⟩
    exact isWritten_render f

/-- What is said of a text that is no written form. -/
lemma expected_eq (s : String) :
    s!"'{s}': expected {width} lowercase hex digits"
      = s!"'{s}': expected 16 lowercase hex digits" := by
  have hwords : toString "': expected " ++ (toString width ++ toString " lowercase hex digits")
      = toString "': expected 16 lowercase hex digits" := by decide
  rw [String.append_assoc, String.append_assoc, hwords]

lemma parse_eq_error_iff {s : String} :
    parse s = .error (.invalidFingerprint s!"'{s}': expected 16 lowercase hex digits")
      ↔ ¬ IsWritten s := by
  rw [isWritten_iff]
  constructor
  · rintro h ⟨f, hf⟩
    rw [parse_eq_ok_iff.mpr hf] at h
    cases h
  · intro h
    unfold parse
    dsimp only
    split
    · rename_i n hn
      refine absurd ⟨⟨UInt64.ofNat n⟩, eq_render_of_parse ?_⟩ h
      simp only [parse, hn]
    · rw [expected_eq]

/-! ### Checking first, reading then -/

/-- Whether the bytes of a text are as many digits as a fingerprint is written with. -/
def isWellFormed (s : String) : Bool :=
  (Text.encode s).length == width && (Text.encode s).all Text.isHexByte

/-- Reads a fingerprint from the number that a well-formed text stands for. -/
def parseInSteps (s : String) : Except Fault Fingerprint :=
  if isWellFormed s then
    match Text.readWord s.toList with
    | .ok n => .ok ⟨n⟩
    | .error e => .error (.invalidFingerprint s!"'{s}': {e.message}")
  else .error (.invalidFingerprint s!"'{s}': expected {width} lowercase hex digits")

/-- Sixteen digits have sixteen bytes, and sixteen bytes of digits are sixteen digits. -/
lemma isWellFormed_iff {s : String} : isWellFormed s ↔ IsWritten s := by
  have hbytes : (Text.encode s).all Text.isHexByte ↔ ∀ c ∈ s.toList, c ∈ Text.hexAlphabet :=
    Text.all_isHexByte_iff
  rw [isWellFormed, Bool.and_eq_true, beq_iff_eq, hbytes]
  have hlength (h : ∀ c ∈ s.toList, c ∈ Text.hexAlphabet) : (Text.encode s).length = s.length := by
    rw [← String.length_toList]
    exact Text.length_encodeChars h
  constructor
  · rintro ⟨hsize, hdigits⟩
    exact ⟨(hlength hdigits).symm.trans hsize, hdigits⟩
  · rintro ⟨hsize, hdigits⟩
    exact ⟨(hlength hdigits).trans hsize, hdigits⟩

/-- The number of a written form is read without fault. -/
lemma readWord_render (f : Fingerprint) : Text.readWord f.render.toList = .ok f.bits := by
  have hlt : f.bits.toNat < 16 ^ width := Nat.lt_of_lt_of_le f.bits.toNat_lt (by decide)
  rw [render, String.toList_ofList, digits,
    Text.readWord_hexDigits (by decide) hlt f.bits.toNat_lt, UInt64.ofNat_toNat]

/-- **The check leaves nothing to fail.** -/
theorem parse_eq_parseInSteps (s : String) : parse s = parseInSteps s := by
  unfold parseInSteps
  split_ifs with hs
  · obtain ⟨f, rfl⟩ := isWritten_iff.mp (isWellFormed_iff.mp hs)
    rw [parse_render, readWord_render]
  · rw [isWellFormed_iff] at hs
    rw [parse_eq_error_iff.mpr hs, expected_eq]

/-! ### In JSON -/

/-- Reads a fingerprint from a JSON text. -/
def decode? (bytes : List UInt8) : Option Fingerprint := (Value.parse? bytes).bind ofJson?

lemma ofJson?_eq_some_iff {v : Value} {f : Fingerprint} :
    ofJson? v = some f ↔ v = .string f.render := by
  constructor
  · intro h
    cases v with
    | string s =>
      rw [ofJson?] at h
      cases hs : parse s with
      | error e =>
        rw [hs] at h
        cases h
      | ok g =>
        rw [hs] at h
        obtain rfl := Option.some.inj h
        rw [parse_eq_ok_iff.mp hs]
    | null | bool | natural | otherNumber | array | object => cases h
  · rintro rfl
    exact ofJson?_toJson f

lemma decode?_eq_some_iff {bytes : List UInt8} {f : Fingerprint} :
    decode? bytes = some f ↔ Value.parse? bytes = some (.string f.render) := by
  rw [decode?, Option.bind_eq_some_iff]
  constructor
  · rintro ⟨v, hv, hf⟩
    rw [hv, ofJson?_eq_some_iff.mp hf]
  · intro hv
    exact ⟨_, hv, ofJson?_toJson f⟩

/-- Of the texts in JSON strings just the written forms are fingerprints. -/
lemma exists_decode?_string_iff {s : String} :
    (∃ f, decode? (Text.encode (Value.string s).render) = some f) ↔ IsWritten s := by
  have hparse := Value.parse?_render (Value.readable_string Json.maxDepth s)
  simp only [decode?_eq_some_iff, hparse, Option.some.injEq, Value.string.injEq, isWritten_iff]

/-- Digits need no escapes. -/
lemma render_toJson (f : Fingerprint) : f.toJson.render = "\"" ++ f.render ++ "\"" := by
  have hplain : ∀ d < 16, Json.escapeChar (Text.hexDigit d) = [Text.hexDigit d] := by decide
  have hchars : f.digits.flatMap Json.escapeChar = f.digits.flatMap fun c => [c] := by
    refine List.flatMap_congr fun c hc => ?_
    obtain ⟨d, hd, rfl⟩ := Text.mem_hexAlphabet_iff.mp (Text.mem_hexAlphabet_of_mem_hexDigits hc)
    exact hplain d hd
  rw [List.flatMap_singleton'] at hchars
  rw [← String.toList_inj, toJson, Value.render, Value.chars, Json.quoted, render]
  simp [hchars]

/-- **The written form is exact.** Every fingerprint is written with sixteen lower-case digits and
read from them again, and a text is read just if it consists of sixteen such digits; it is then the
written form of what is read. Every other text is refused, with the text and what was expected in
its place. It makes no difference whether the digits are read one by one or the bytes of the text
are checked first and the number is read then, by a reader that knows other spellings, too: after
the check that reader does not fail. The JSON form of a fingerprint is its written form in quotes;
it is read again, and a JSON text is a fingerprint just if it is a string of sixteen such digits. -/
theorem written_form_exact :
    (∀ f : Fingerprint, IsWritten f.render ∧ parse f.render = .ok f)
      ∧ (∀ s, (∃ f, parse s = .ok f) ↔ IsWritten s)
      ∧ (∀ s f, parse s = .ok f ↔ f.render = s)
      ∧ (∀ s, parse s = .error (.invalidFingerprint s!"'{s}': expected 16 lowercase hex digits")
        ↔ ¬ IsWritten s)
      ∧ (∀ s, parse s = parseInSteps s ∧ (isWellFormed s ↔ IsWritten s)
        ∧ (isWellFormed s → ∃ n, Text.readWord s.toList = .ok n))
      ∧ (∀ f : Fingerprint, f.toJson.render = "\"" ++ f.render ++ "\""
        ∧ decode? (Text.encode f.toJson.render) = some f)
      ∧ (∀ s, (∃ f, decode? (Text.encode (Value.string s).render) = some f) ↔ IsWritten s)
      ∧ ∀ bytes f, decode? bytes = some f ↔ Value.parse? bytes = some (.string f.render) := by
  refine ⟨?_, ?_, ?_, fun s => parse_eq_error_iff, ?_, ?_, fun s => exists_decode?_string_iff,
    fun bytes f => decode?_eq_some_iff⟩
  · intro f
    exact ⟨f.isWritten_render, parse_render f⟩
  · intro s
    simp only [isWritten_iff, parse_eq_ok_iff]
  · intro s f
    rw [parse_eq_ok_iff, eq_comm]
  · intro s
    refine ⟨parse_eq_parseInSteps s, isWellFormed_iff, ?_⟩
    intro hs
    obtain ⟨f, rfl⟩ := isWritten_iff.mp (isWellFormed_iff.mp hs)
    exact ⟨f.bits, readWord_render f⟩
  · intro f
    refine ⟨f.render_toJson, ?_⟩
    exact decode?_eq_some_iff.mpr (Value.parse?_render (Value.readable_string Json.maxDepth _))

/-- The largest number has room in 64 bits. A text of as many bytes, with a letter of two bytes in
it, is refused. -/
theorem written_form_exact_sixteenBytes :
    let largest := "ffffffffffffffff"
    let accented := "00000000000000é"
    isWellFormed largest ∧ (∃ n, Text.readWord largest.toList = .ok n)
      ∧ (∃ f, parse largest = .ok f)
      ∧ (Text.encode accented).length = width
      ∧ parse accented
        = .error (.invalidFingerprint s!"'{accented}': expected 16 lowercase hex digits") := by
  intro largest accented
  obtain ⟨-, hread, -, hrefused, hsteps, -⟩ := written_form_exact
  have hlargest : isWellFormed largest := by decide
  have haccented : ¬ IsWritten accented := by decide
  obtain ⟨-, hwritten, hword⟩ := hsteps largest
  exact ⟨hlargest, hword hlargest, (hread largest).mpr (hwritten.mp hlargest), by decide,
    (hrefused accented).mpr haccented⟩

end Fingerprint

end AlertLedger
