/-
# Trimmed texts

What trimming leaves of a text that does not begin and end with blanks, and of one that begins,
after its blanks, with a character that is none. Nothing is left just of a text of blanks
(`Text.trimChars_eq_nil_iff`).
-/
import AlertLedger.Text.Blank
import Mathlib.Data.List.DropRight
import Mathlib.Tactic.Lemma
import Mathlib.Tactic.SplitIfs

namespace AlertLedger.Text

lemma trimChars_eq_rdropWhile (cs : List Char) :
    trimChars cs = (cs.dropWhile isBlank).rdropWhile isBlank := rfl

/-- Nothing is taken off a text whose two ends are not blank. -/
lemma trimChars_cons_concat {c d : Char} (hc : isBlank c = false) (hd : isBlank d = false)
    (cs : List Char) : trimChars (c :: (cs ++ [d])) = c :: (cs ++ [d]) := by
  rw [trimChars_eq_rdropWhile, List.dropWhile_cons_of_neg (by simp [hc]), ← List.cons_append,
    List.rdropWhile_concat_neg _ _ _ (by simp [hd])]

/-- A blank character at the end is taken off. -/
lemma trimChars_concat {c : Char} (hc : isBlank c) (cs : List Char) :
    trimChars (cs ++ [c]) = trimChars cs := by
  rw [trimChars_eq_rdropWhile, trimChars_eq_rdropWhile, List.dropWhile_append]
  split_ifs with hcs
  · rw [List.isEmpty_iff.mp hcs, List.dropWhile_cons_of_pos hc, List.dropWhile_nil]
  · rw [List.rdropWhile_concat_pos _ _ _ hc]

/-- What comes after the blanks at the head stays at the head. -/
lemma head?_trimChars (cs : List Char) : (trimChars cs).head? = (cs.dropWhile isBlank).head? := by
  rw [trimChars_eq_rdropWhile]
  cases hcs : cs.dropWhile isBlank with
  | nil => rfl
  | cons c rest =>
    have hc : isBlank c = false := by
      have := List.head_dropWhile_not isBlank (l := cs) (by simp [hcs])
      simpa [hcs] using this
    have hne : (c :: rest).rdropWhile isBlank ≠ [] := by
      intro hnil
      have := List.rdropWhile_eq_nil_iff.mp hnil c List.mem_cons_self
      simp [hc] at this
    obtain ⟨t, ht⟩ := List.rdropWhile_prefix isBlank (l := c :: rest)
    cases hr : (c :: rest).rdropWhile isBlank with
    | nil => exact absurd hr hne
    | cons e es =>
      rw [hr] at ht
      exact congrArg some (List.cons.inj ht).1

/-- Nothing is left of blanks, and something of all other texts. -/
lemma trimChars_eq_nil_iff {cs : List Char} : trimChars cs = [] ↔ ∀ c ∈ cs, isBlank c := by
  rw [← List.head?_eq_none_iff, head?_trimChars, List.head?_eq_none_iff, List.dropWhile_eq_nil_iff]

/-- Nothing is taken off a text that neither begins nor ends with a blank. -/
lemma trimChars_eq_self {cs : List Char} (hhead : ∀ c ∈ cs.head?, isBlank c = false)
    (hlast : ∀ c ∈ cs.getLast?, isBlank c = false) : trimChars cs = cs := by
  have hdrop : cs.dropWhile isBlank = cs := by
    cases cs with
    | nil => rfl
    | cons c cs => exact List.dropWhile_cons_of_neg (by simp [hhead c rfl])
  rw [trimChars_eq_rdropWhile, hdrop, List.rdropWhile_eq_self_iff]
  intro hne
  simp [hlast _ (List.getLast?_eq_some_getLast hne)]

lemma trim_eq_empty_iff {s : String} : trim s = "" ↔ isBlankText s := by
  rw [trim, ← String.toList_eq_nil_iff, String.toList_ofList, trimChars_eq_nil_iff, isBlankText,
    List.all_eq_true]

end AlertLedger.Text
