/-
# What the hash keeps

A hash of 64 bits has collisions, but none of them comes from a single step: the prime is odd, so it
has an inverse among the words, and what a byte did to the hash can be taken back if the byte is
known (`Fnv1a.takeBack_step`). Hence the bytes of a stream, whichever they are, permute the hashes
(`Fnv1a.extend_bijective`), and two streams that part in one byte and go on alike never meet again
(`Fnv1a.extend_append_cons_ne`).

The main result is `LabelSet.hash_loses_nothing`.
-/
import AlertLedger.Proofs.LabelSet
import Mathlib.Algebra.Ring.Parity

namespace AlertLedger

/-! ### Steps taken back -/

namespace Fnv1a

/-- The word by which the prime has to be multiplied to get one. -/
def inverse : UInt64 := 0xce965057aff6957b

lemma prime_mul_inverse : prime * inverse = 1 := by decide

/-- The hash before a byte was taken in. -/
def takeBack (b : UInt8) (hash : UInt64) : UInt64 :=
  (hash * inverse) ^^^ b.toUInt64

lemma takeBack_step (hash : UInt64) (b : UInt8) : takeBack b (step hash b) = hash := by
  rw [takeBack, step, UInt64.mul_assoc, prime_mul_inverse, UInt64.mul_one, UInt64.xor_assoc,
    UInt64.xor_self, UInt64.xor_zero]

lemma step_takeBack (hash : UInt64) (b : UInt8) : step (takeBack b hash) b = hash := by
  rw [step, takeBack, UInt64.xor_assoc, UInt64.xor_self, UInt64.xor_zero, UInt64.mul_assoc,
    UInt64.mul_comm inverse, prime_mul_inverse, UInt64.mul_one]

/-- The hash before some bytes were taken in: the last one is taken back first. -/
def rewind (bytes : List UInt8) (hash : UInt64) : UInt64 :=
  bytes.foldr takeBack hash

lemma rewind_extend (bytes : List UInt8) (hash : UInt64) :
    rewind bytes (extend hash bytes) = hash := by
  induction bytes generalizing hash with
  | nil => rfl
  | cons b bytes ih =>
    calc rewind (b :: bytes) (extend hash (b :: bytes))
        = takeBack b (rewind bytes (extend (step hash b) bytes)) := rfl
      _ = takeBack b (step hash b) := by rw [ih]
      _ = hash := takeBack_step hash b

lemma extend_rewind (bytes : List UInt8) (hash : UInt64) :
    extend (rewind bytes hash) bytes = hash := by
  induction bytes with
  | nil => rfl
  | cons b bytes ih =>
    calc extend (rewind (b :: bytes) hash) (b :: bytes)
        = extend (step (takeBack b (rewind bytes hash)) b) bytes := rfl
      _ = extend (rewind bytes hash) bytes := by rw [step_takeBack]
      _ = hash := ih

/-- **Bytes permute the hashes.** -/
theorem extend_bijective (bytes : List UInt8) :
    Function.Bijective fun hash => extend hash bytes :=
  Function.bijective_iff_has_inverse.mpr
    ⟨rewind bytes, rewind_extend bytes, extend_rewind bytes⟩

/-! ### Streams that part -/

/-- A hash tells which byte was taken in, if it is known what it was before. -/
lemma step_right_injective (hash : UInt64) : Function.Injective (step hash) := by
  intro b c h
  have hxor : hash ^^^ b.toUInt64 = hash ^^^ c.toUInt64 := by
    calc hash ^^^ b.toUInt64 = (hash ^^^ b.toUInt64) * (prime * inverse) := by
          rw [prime_mul_inverse, UInt64.mul_one]
      _ = step hash b * inverse := (UInt64.mul_assoc _ _ _).symm
      _ = step hash c * inverse := by rw [h]
      _ = (hash ^^^ c.toUInt64) * (prime * inverse) := UInt64.mul_assoc _ _ _
      _ = hash ^^^ c.toUInt64 := by rw [prime_mul_inverse, UInt64.mul_one]
  exact UInt8.toUInt64_inj.mp ((UInt64.xor_right_inj hash).mp hxor)

/-- Streams that part in one byte and go on alike do not meet again. -/
theorem extend_append_cons_ne (hash : UInt64) (front rest : List UInt8) {b c : UInt8}
    (h : b ≠ c) : extend hash (front ++ b :: rest) ≠ extend hash (front ++ c :: rest) := by
  rw [extend_append, extend_append]
  intro heq
  have hstep : step (extend hash front) b = step (extend hash front) c :=
    (extend_bijective rest).injective heq
  exact h (step_right_injective _ hstep)

/-- What two lists of one length with a single difference look like. -/
lemma exists_append_cons_of_existsUnique {bytes bytes' : List UInt8}
    (hlength : bytes.length = bytes'.length) (h : ∃! i : Nat, bytes[i]? ≠ bytes'[i]?) :
    ∃ front b c rest, b ≠ c ∧ bytes = front ++ b :: rest ∧ bytes' = front ++ c :: rest := by
  induction bytes generalizing bytes' with
  | nil =>
    obtain ⟨i, hi, -⟩ := h
    obtain rfl := List.length_eq_zero_iff.mp hlength.symm
    exact absurd rfl hi
  | cons b bytes ih =>
    cases bytes' with
    | nil => simp at hlength
    | cons c bytes' =>
      have hrest : bytes.length = bytes'.length := Nat.succ.inj hlength
      obtain ⟨i, hi, honly⟩ := h
      cases i with
      | zero =>
        -- The heads are the difference, so the tails have none.
        have htails : bytes = bytes' := by
          refine List.ext_getElem? fun j => ?_
          by_contra hj
          exact absurd (honly (j + 1) hj) (Nat.succ_ne_zero j)
        exact ⟨[], b, c, bytes, fun hbc => hi (congrArg some hbc), rfl, htails ▸ rfl⟩
      | succ i =>
        have hheads : b = c := by
          by_contra hbc
          exact absurd (honly 0 fun heq => hbc (Option.some.inj heq)) (Nat.succ_ne_zero i).symm
        have hunique : ∃! j : Nat, bytes[j]? ≠ bytes'[j]? :=
          ⟨i, hi, fun j hj => Nat.succ.inj (honly (j + 1) hj)⟩
        obtain ⟨front, x, y, rest, hxy, hx, hy⟩ := ih hrest hunique
        exact ⟨b :: front, x, y, rest, hxy, by rw [hx, List.cons_append],
          by rw [hy, hheads, List.cons_append]⟩

/-- The loop over labels permutes the hashes, too. -/
lemma foldl_extendLabel_bijective (labels : List (String × String)) :
    Function.Bijective fun hash => labels.foldl extendLabel hash := by
  have hloop : (fun hash => labels.foldl extendLabel hash)
      = fun hash => extend hash (labels.flatMap LabelSet.labelBytes) := by
    funext hash
    rw [extend_flatMap_labelBytes]
  rw [hloop]
  exact extend_bijective _

end Fnv1a

/-! ### Label sets that differ in a byte -/

namespace LabelSet

/-- Where a name is put among the labels does not depend on its value. -/
lemma exists_toList_insert (l : LabelSet) (name : String) :
    ∃ front rest, ∀ value, (l.insert name value).toList = front ++ (name, value) :: rest :=
  SortedMap.exists_insertEntry_eq name l.labels.entries

/-- The streams of two label sets that differ in one ASCII character of one value. -/
lemma exists_bytes_insert (l : LabelSet) (name : String) (before after : List Char) :
    ∃ front rest, ∀ c : Char, c.toNat < 0x80 →
      (l.insert name (String.ofList (before ++ c :: after))).bytes
        = front ++ UInt8.ofNat c.toNat :: rest := by
  obtain ⟨labels, labels', hlabels⟩ := l.exists_toList_insert name
  refine ⟨labels.flatMap labelBytes ++ (Text.encode name ++ separator :: Text.encodeChars before),
    Text.encodeChars after ++ separator :: labels'.flatMap labelBytes, ?_⟩
  intro c hc
  simp only [bytes, hlabels, labelBytes, List.flatMap_append, List.flatMap_cons,
    Text.encode_ofList, Text.encodeChars_append, Text.encodeChars_cons, Text.encodeChar_of_lt hc,
    List.append_assoc, List.cons_append, List.nil_append]

/-- **The hash loses nothing on its way.** Whatever bytes are taken in, different hashes stay
different and each hash is met, for the prime is odd and so has an inverse among the words; bytes
may be taken in at once or part by part, also label by label. So two label sets whose streams have
the same length and differ at exactly one place have different fingerprints, and in particular those
in which one ASCII character of one value is replaced by another one. -/
theorem hash_loses_nothing (bytes more : List UInt8) (labels : List (String × String))
    (l l' : LabelSet) :
    (Odd Fnv1a.prime.toNat ∧ ∃ inverse, Fnv1a.prime * inverse = 1)
    ∧ Function.Bijective (fun hash => Fnv1a.extend hash bytes)
    ∧ (∀ hash, Fnv1a.extend hash (bytes ++ more) = Fnv1a.extend (Fnv1a.extend hash bytes) more)
    ∧ (Function.Bijective (fun hash => labels.foldl Fnv1a.extendLabel hash)
      ∧ ∀ hash, labels.foldl Fnv1a.extendLabel hash
        = Fnv1a.extend hash (labels.flatMap labelBytes))
    ∧ (l.bytes.length = l'.bytes.length → (∃! i : Nat, l.bytes[i]? ≠ l'.bytes[i]?) →
      l.fingerprint ≠ l'.fingerprint)
    ∧ ∀ (name : String) (before after : List Char) (c d : Char), c.toNat < 0x80 → d.toNat < 0x80 →
      c ≠ d → (l.insert name (String.ofList (before ++ c :: after))).fingerprint
        ≠ (l.insert name (String.ofList (before ++ d :: after))).fingerprint := by
  refine ⟨⟨by decide, Fnv1a.inverse, Fnv1a.prime_mul_inverse⟩, Fnv1a.extend_bijective bytes,
    fun hash => Fnv1a.extend_append hash bytes more,
    ⟨Fnv1a.foldl_extendLabel_bijective labels,
      fun hash => (Fnv1a.extend_flatMap_labelBytes hash labels).symm⟩, ?_, ?_⟩
  · intro hlength hunique heq
    obtain ⟨front, b, c, rest, hbc, hl, hl'⟩ :=
      Fnv1a.exists_append_cons_of_existsUnique hlength hunique
    have hbits : Fnv1a.extend Fnv1a.offsetBasis l.bytes
        = Fnv1a.extend Fnv1a.offsetBasis l'.bytes := congrArg Fingerprint.bits heq
    rw [hl, hl'] at hbits
    exact Fnv1a.extend_append_cons_ne _ front rest hbc hbits
  · intro name before after c d hc hd hcd heq
    obtain ⟨front, rest, hbytes⟩ := l.exists_bytes_insert name before after
    have hbyte : UInt8.ofNat c.toNat ≠ UInt8.ofNat d.toNat := by
      intro hcd'
      have hnumber := congrArg UInt8.toNat hcd'
      rw [Text.toNat_byte (by omega), Text.toNat_byte (by omega)] at hnumber
      exact hcd (Char.toNat_inj.mp hnumber)
    have hbits := congrArg Fingerprint.bits heq
    simp only [fingerprint, hbytes c hc, hbytes d hd] at hbits
    exact Fnv1a.extend_append_cons_ne _ front rest hbyte hbits

/-- Label sets whose streams differ in the last letter of the value. -/
theorem hash_loses_nothing_lastLetter :
    let l := ofList [("job", "api")]
    let l' := ofList [("job", "apt")]
    l.bytes.length = l'.bytes.length ∧ (∃! i : Nat, l.bytes[i]? ≠ l'.bytes[i]?)
      ∧ l.fingerprint ≠ l'.fingerprint
      ∧ (l.insert "job" "dba").fingerprint ≠ (l.insert "job" "dbb").fingerprint := by
  intro l l'
  have hlength : l.bytes.length = l'.bytes.length := by decide
  have hunique : ∃! i : Nat, l.bytes[i]? ≠ l'.bytes[i]? := by
    refine ⟨6, by decide, ?_⟩
    intro i hi
    have hbound : i < 8 := by
      by_contra hge
      have hlast (s : LabelSet) (hs : s.bytes.length = 8) : s.bytes[i]? = none :=
        List.getElem?_eq_none (by omega)
      exact hi ((hlast l (by decide)).trans (hlast l' (by decide)).symm)
    have hall : ∀ j < 8, l.bytes[j]? ≠ l'.bytes[j]? → j = 6 := by decide
    exact hall i hbound hi
  obtain ⟨-, -, -, -, hnear, hletter⟩ := hash_loses_nothing [] [] [] l l'
  exact ⟨hlength, hunique, hnear hlength hunique,
    hletter "job" ['d', 'b'] [] 'a' 'b' (by decide) (by decide) (by decide)⟩

end LabelSet

end AlertLedger
