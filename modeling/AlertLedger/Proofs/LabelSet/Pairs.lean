/-
# Written labels

A label is written as name, equals sign, value. What counts is the first equals sign: the name is
before it, the value all that comes after it. Around the name there may be blanks, and some of the
name must be left without them; the value is taken as it is, with its blanks and its equals signs
(`LabelSet.parsePair_eq`). A list of written labels is refused for the first one that is refused
(`LabelSet.parse_eq_error_iff`), and otherwise it is the label set of the pairs.
-/
import AlertLedger.LabelSet
import AlertLedger.Proofs.Text.Blank
import Mathlib.Data.List.Forall2

namespace AlertLedger.LabelSet

/-! ### One label -/

/-- What is before the first equals sign. -/
def beforeEquals (text : String) : List Char := text.toList.takeWhile (· ≠ '=')

/-- What comes after the first equals sign. -/
def afterEquals (text : String) : List Char := (text.toList.dropWhile (· ≠ '=')).tail

lemma splitAtEquals?_eq (cs : List Char) :
    splitAtEquals? cs = if '=' ∈ cs then
      some (cs.takeWhile (· ≠ '='), (cs.dropWhile (· ≠ '=')).tail) else none := by
  induction cs with
  | nil => rfl
  | cons c cs ih =>
    rw [splitAtEquals?]
    by_cases hc : c = '='
    · simp [hc]
    · rw [if_neg hc, ih]
      by_cases hcs : '=' ∈ cs
      · simp [hc, hcs]
      · simp [hcs, Ne.symm hc]

/-- A text with an equals sign is what is before the first one, the sign and what comes after. -/
lemma eq_append {text : String} (h : '=' ∈ text.toList) :
    text = String.ofList (beforeEquals text) ++ "=" ++ String.ofList (afterEquals text)
      ∧ '=' ∉ beforeEquals text := by
  have hdrop : text.toList.dropWhile (· ≠ '=') = '=' :: afterEquals text := by
    have hne : text.toList.dropWhile (· ≠ '=') ≠ [] := by
      intro hnil
      simpa using List.dropWhile_eq_nil_iff.mp hnil '=' h
    have hhead : (text.toList.dropWhile (· ≠ '=')).head hne = '=' :=
      Classical.not_not.mp (of_decide_eq_false (List.head_dropWhile_not (· ≠ '=') hne))
    exact (List.cons_head_tail hne).symm.trans (congrArg (· :: _) hhead)
  constructor
  · rw [← String.toList_inj]
    simp only [String.toList_append, String.toList_ofList, List.append_assoc]
    exact List.takeWhile_append_dropWhile.symm.trans (congrArg _ hdrop)
  · intro hmem
    simpa using List.mem_takeWhile_imp hmem

/-- **How a label is read.** There must be an equals sign, and before the first one something that
is not blank. -/
theorem parsePair_eq (text : String) :
    parsePair text =
      if '=' ∈ text.toList ∧ ¬ (beforeEquals text).all Text.isBlank then
        .ok (Text.trim (String.ofList (beforeEquals text)), String.ofList (afterEquals text))
      else .error (.invalidLabel s!"'{text}': expected name=value") := by
  have hsplit : splitAtEquals? text.toList = if '=' ∈ text.toList then
      some (beforeEquals text, afterEquals text) else none := splitAtEquals?_eq text.toList
  unfold parsePair
  rw [hsplit]
  by_cases hequals : '=' ∈ text.toList
  · have htrim : Text.trimChars (beforeEquals text) = []
        ↔ (beforeEquals text).all Text.isBlank := by
      rw [Text.trimChars_eq_nil_iff, List.all_eq_true]
    rw [if_pos hequals]
    dsimp only
    by_cases hname : Text.trimChars (beforeEquals text) = []
    · rw [if_neg fun h => h.2 (htrim.mp hname), hname]
    · rw [if_pos ⟨hequals, mt htrim.mpr hname⟩, Text.trim, String.toList_ofList]
      split
      · rename_i hnil
        exact absurd hnil hname
      · rfl
  · rw [if_neg hequals, if_neg fun h => hequals h.1]

lemma beforeEquals_append {name : String} (h : '=' ∉ name.toList) (value : String) :
    beforeEquals (name ++ "=" ++ value) = name.toList := by
  have hname : ∀ c ∈ name.toList, decide (c ≠ '=') = true := by
    intro c hc
    refine decide_eq_true ?_
    rintro rfl
    exact h hc
  rw [beforeEquals, String.append_assoc, String.toList_append,
    List.takeWhile_append_of_pos hname, String.toList_append]
  simp

lemma afterEquals_append {name : String} (h : '=' ∉ name.toList) (value : String) :
    afterEquals (name ++ "=" ++ value) = value.toList := by
  have hname : ∀ c ∈ name.toList, decide (c ≠ '=') = true := by
    intro c hc
    refine decide_eq_true ?_
    rintro rfl
    exact h hc
  rw [afterEquals, String.append_assoc, String.toList_append,
    List.dropWhile_append_of_pos hname, String.toList_append]
  simp

/-- A name that can be written as it is: there is something of it, it has no equals sign, and it
neither begins nor ends with a blank. -/
structure IsName (name : String) : Prop where
  ne_empty : name ≠ ""
  equals_notMem : '=' ∉ name.toList
  head : ∀ c ∈ name.toList.head?, Text.isBlank c = false
  last : ∀ c ∈ name.toList.getLast?, Text.isBlank c = false

/-- A label is read as it was written, whatever its value. -/
theorem parsePair_append {name : String} (h : IsName name) (value : String) :
    parsePair (name ++ "=" ++ value) = .ok (name, value) := by
  have hne : name.toList ≠ [] := by
    intro hnil
    exact h.ne_empty (String.toList_eq_nil_iff.mp hnil)
  obtain ⟨c, cs, hcs⟩ := List.exists_cons_of_ne_nil hne
  have hblank : ¬ name.toList.all Text.isBlank := by
    have hc : Text.isBlank c = false := h.head c (by rw [hcs, List.head?_cons]; rfl)
    simp [hcs, hc]
  have hequals : '=' ∈ (name ++ "=" ++ value).toList := by
    simp
  rw [parsePair_eq, beforeEquals_append h.equals_notMem, afterEquals_append h.equals_notMem,
    if_pos ⟨hequals, hblank⟩, Text.trim, String.toList_ofList, Text.trimChars_eq_self h.head h.last,
    String.ofList_toList, String.ofList_toList]

/-! ### Lists of labels -/

variable {texts : List String} {pairs : List (String × String)} {f : Fault}

lemma mapM_parsePair_eq_ok_iff :
    texts.mapM parsePair = .ok pairs
      ↔ List.Forall₂ (fun text p => parsePair text = .ok p) texts pairs := by
  induction texts generalizing pairs with
  | nil =>
    constructor
    · rintro ⟨⟩
      exact .nil
    · rintro ⟨⟩
      rfl
  | cons text texts ih =>
    rw [List.mapM_cons]
    constructor
    · intro h
      cases htext : parsePair text with
      | error e =>
        rw [htext] at h
        cases h
      | ok p =>
        cases hrest : texts.mapM parsePair with
        | error e =>
          rw [htext, hrest] at h
          cases h
        | ok rest =>
          rw [htext, hrest] at h
          cases h
          exact .cons htext (ih.mp hrest)
    · rintro (_ | ⟨htext, hrest⟩)
      rw [htext, ih.mpr hrest]
      rfl

/-- **Labels that are all read make up the label set of their pairs.** -/
theorem parse_eq_ok_iff {l : LabelSet} :
    parse texts = .ok l ↔ ∃ pairs,
      List.Forall₂ (fun text p => parsePair text = .ok p) texts pairs ∧ ofList pairs = l := by
  simp only [← mapM_parsePair_eq_ok_iff]
  rw [parse]
  cases texts.mapM parsePair with
  | error e =>
    constructor
    · rintro ⟨⟩
    · rintro ⟨_, ⟨⟩, -⟩
  | ok pairs =>
    constructor
    · rintro ⟨⟩
      exact ⟨pairs, rfl, rfl⟩
    · rintro ⟨_, ⟨⟩, rfl⟩
      rfl

/-- A step after a result that is there cannot refuse. -/
lemma bind_pure_eq_error_iff {α β : Type} {x : Except Fault α} {g : α → β} :
    (x >>= fun a => pure (g a)) = .error f ↔ x = .error f := by
  cases x with
  | error e =>
    show Except.error e = .error f ↔ Except.error e = .error f
    simp
  | ok a =>
    show Except.ok (g a) = .error f ↔ Except.ok a = .error f
    simp

lemma mapM_parsePair_eq_error_iff :
    texts.mapM parsePair = .error f ↔ ∃ before text after, texts = before ++ text :: after
      ∧ (∀ t ∈ before, ∃ p, parsePair t = .ok p) ∧ parsePair text = .error f := by
  induction texts with
  | nil =>
    constructor
    · rintro ⟨⟩
    · rintro ⟨before, text, after, htexts, -⟩
      simp at htexts
  | cons t texts ih =>
    rw [List.mapM_cons]
    cases ht : parsePair t with
    | error e =>
      constructor
      · rintro ⟨⟩
        exact ⟨[], t, texts, rfl, by simp, ht⟩
      · rintro ⟨before, text, after, htexts, hbefore, htext⟩
        cases before with
        | nil =>
          obtain ⟨rfl, -⟩ := List.cons.inj htexts
          rw [ht] at htext
          exact congrArg _ (Except.error.inj htext)
        | cons t' before =>
          obtain ⟨rfl, -⟩ := List.cons.inj htexts
          obtain ⟨p, hp⟩ := hbefore t List.mem_cons_self
          rw [ht] at hp
          cases hp
    | ok p =>
      refine bind_pure_eq_error_iff.trans (ih.trans ?_)
      constructor
      · rintro ⟨before, text, after, rfl, hbefore, htext⟩
        exact ⟨t :: before, text, after, rfl, List.forall_mem_cons.mpr ⟨⟨p, ht⟩, hbefore⟩, htext⟩
      · rintro ⟨before, text, after, htexts, hbefore, htext⟩
        cases before with
        | nil =>
          obtain ⟨rfl, -⟩ := List.cons.inj htexts
          rw [ht] at htext
          cases htext
        | cons t' before =>
          obtain ⟨-, rfl⟩ := List.cons.inj htexts
          exact ⟨before, text, after, rfl, (List.forall_mem_cons.mp hbefore).2, htext⟩

/-- **The first label that is refused decides.** -/
theorem parse_eq_error_iff :
    parse texts = .error f ↔ ∃ before text after, texts = before ++ text :: after
      ∧ (∀ t ∈ before, ∃ p, parsePair t = .ok p) ∧ parsePair text = .error f :=
  bind_pure_eq_error_iff.trans mapM_parsePair_eq_error_iff

/-- A list of labels is refused just if one of the labels is. -/
lemma exists_parse_eq_error_iff :
    (∃ f, parse texts = .error f) ↔ ∃ text ∈ texts, ∃ f, parsePair text = .error f := by
  constructor
  · rintro ⟨f, hf⟩
    obtain ⟨before, text, after, rfl, -, htext⟩ := parse_eq_error_iff.mp hf
    exact ⟨text, by simp, f, htext⟩
  · rintro ⟨text, htext, f, hf⟩
    cases hparse : parse texts with
    | error f => exact ⟨f, rfl⟩
    | ok l =>
      obtain ⟨pairs, hpairs, -⟩ := parse_eq_ok_iff.mp hparse
      have hread : ∀ t ∈ texts, ∃ p, parsePair t = .ok p := by
        clear htext hparse
        induction hpairs with
        | nil => simp
        | cons ht _ ih => exact List.forall_mem_cons.mpr ⟨⟨_, ht⟩, ih⟩
      obtain ⟨p, hp⟩ := hread text htext
      rw [hf] at hp
      cases hp

end AlertLedger.LabelSet
