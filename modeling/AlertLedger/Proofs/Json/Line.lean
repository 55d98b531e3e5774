/-
# JSON values on one line

In the compact form of a value all control characters are escaped (`Value.isInline_chars`), so it
has no ends of lines in it, whatever strings the value holds: it stands on a line of its own.
-/
import AlertLedger.Proofs.Json.Value

namespace AlertLedger.Json

open Text (hexDigit hexDigits)

/-- Whether there is no control character in a text. -/
def isInline (cs : List Char) : Bool := cs.all fun c => 0x20 ≤ c.toNat

@[simp] lemma isInline_append (cs ds : List Char) :
    isInline (cs ++ ds) = (isInline cs && isInline ds) := List.all_append

lemma isInline_cons {c : Char} (hc : 0x20 ≤ c.toNat) (cs : List Char) :
    isInline (c :: cs) = isInline cs := by
  rw [isInline, List.all_cons, decide_eq_true hc, Bool.true_and, isInline]

lemma le_of_isInline {cs : List Char} (h : isInline cs) {c : Char} (hc : c ∈ cs) :
    0x20 ≤ c.toNat :=
  of_decide_eq_true (List.all_eq_true.mp h c hc)

/-! ### Digits and strings -/

lemma isInline_hexDigits (width n : Nat) : isInline (hexDigits width n) := by
  have hdigit : ∀ n < 16, isInline [hexDigit n] := by decide
  induction width generalizing n with
  | zero => rfl
  | succ width ih =>
    rw [hexDigits, isInline_append, ih, hdigit _ (Nat.mod_lt _ (by omega))]
    rfl

lemma isInline_toDigits (n : Nat) : isInline (Nat.toDigits 10 n) := by
  refine List.all_eq_true.mpr ?_
  intro c hc
  have hdigit : c.isDigit := Nat.isDigit_of_mem_toDigits (by omega) (by omega) hc
  rw [Char.isDigit, Bool.and_eq_true, decide_eq_true_eq] at hdigit
  exact decide_eq_true (Nat.le_trans (by decide) (UInt32.le_iff_toNat_le.mp hdigit.1))

/-- Escaping leaves no control character. -/
lemma isInline_escapeChar (c : Char) : isInline (escapeChar c) := by
  unfold escapeChar
  split_ifs with hq hb h08 h0c hn hr ht hc
  iterate 7 rfl
  · exact isInline_hexDigits 4 c.toNat
  · exact isInline_cons (Nat.le_of_not_lt hc) []

lemma isInline_quoted (s : String) : isInline (quoted s) := by
  have hbody : isInline (s.toList.flatMap escapeChar) := by
    rw [isInline, List.all_flatMap]
    exact List.all_eq_true.mpr fun c _ => isInline_escapeChar c
  rw [quoted, isInline_cons (by decide), isInline_append, hbody]
  rfl

/-! ### Values -/

namespace Value

lemma isInline_itemsChars {items : List Value} (h : ∀ v ∈ items, isInline v.chars) :
    isInline (itemsChars items) := by
  induction items with
  | nil =>
    rw [itemsChars]
    rfl
  | cons v items ih =>
    obtain ⟨hv, hitems⟩ := List.forall_mem_cons.mp h
    cases items with
    | nil =>
      rw [itemsChars]
      exact hv
    | cons w items =>
      rw [itemsChars, isInline_append, hv, isInline_cons (by decide), ih hitems]
      rfl

lemma isInline_membersChars {members : List (String × Value)}
    (h : ∀ m ∈ members, isInline m.2.chars) : isInline (membersChars members) := by
  induction members with
  | nil =>
    rw [membersChars]
    rfl
  | cons m members ih =>
    obtain ⟨hv, hmembers⟩ := List.forall_mem_cons.mp h
    obtain ⟨key, v⟩ := m
    cases members with
    | nil =>
      rw [membersChars, isInline_append, isInline_quoted, isInline_cons (by decide), hv]
      rfl
    | cons m members =>
      rw [membersChars, isInline_append, isInline_quoted, isInline_cons (by decide),
        isInline_append, hv, isInline_cons (by decide), ih hmembers]
      rfl

/-- **There is no control character in a printed value.** -/
theorem isInline_chars (v : Value) : isInline v.chars := by
  induction v using tree_induction with
  | null | otherNumber =>
    rw [chars]
    rfl
  | bool b => cases b <;> rw [chars] <;> rfl
  | natural n =>
    rw [chars]
    exact isInline_toDigits n
  | string s =>
    rw [chars]
    exact isInline_quoted s
  | array items ih =>
    rw [chars, isInline_cons (by decide), isInline_append, isInline_itemsChars ih]
    rfl
  | object members ih =>
    rw [chars, isInline_cons (by decide), isInline_append, isInline_membersChars ih]
    rfl

end Value

end AlertLedger.Json
