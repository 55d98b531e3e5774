/-
# Names in any case

States, suppression reasons, log levels and log formats are read by name from a text in lower case.
The tables of Unicode are behind that, but no name has a `k` in it, and so a text is read exactly if
it is a name in ASCII letters of either case. All four readers are the same look-up in a table of
spellings (`ReadsNames.of_eq`), with a refusal of their own.

The main result is `names_in_any_case`.
-/
import AlertLedger.Alert.State
import AlertLedger.Log.Level
import AlertLedger.Proofs.Text.Lowercase
import AlertLedger.Text.Blank

namespace AlertLedger

namespace Text

/-- A text is a name but for upper and lower case: it consists of ASCII letters, and in lower case
they are those of the name. -/
structure IsVariant (text name : String) : Prop where
  letters : ∀ c ∈ text.toList, c.isAlpha
  same : text.toLower = name

lemma isVariant_iff {text name : String} :
    IsVariant text name
      ↔ (∀ c ∈ text.toList, c.isAlpha) ∧ text.toList.map Char.toLower = name.toList := by
  have hlower : text.toLower.toList = text.toList.map Char.toLower := String.toList_map
  have hsame : text.toLower = name ↔ text.toList.map Char.toLower = name.toList := by
    rw [← String.toList_inj, hlower]
  rw [← hsame]
  exact ⟨fun ⟨hletters, hsame⟩ => ⟨hletters, hsame⟩, fun ⟨hletters, hsame⟩ => ⟨hletters, hsame⟩⟩

instance (text name : String) : Decidable (IsVariant text name) :=
  decidable_of_iff
    (text.toList.all Char.isAlpha ∧ text.toList.map Char.toLower = name.toList)
    (by rw [List.all_eq_true, isVariant_iff])

example : IsVariant "WaRn" "warn" ∧ ¬ IsVariant "warn " "warn" := by decide

/-- No text with a blank or with a character that is not ASCII is a variant of a name. -/
lemma IsVariant.not_mem {text name : String} (h : IsVariant text name) {c : Char}
    (hc : isBlank c ∨ 0x80 ≤ c.toNat) : c ∉ text.toList := by
  intro hmem
  have hletter := h.letters c hmem
  have hlt := lt_of_isAlpha hletter
  have hall : ∀ n < 0x80, isBlank (Char.ofNat n) → ¬ (Char.ofNat n).isAlpha := by decide +kernel
  have hblank := hall c.toNat hlt
  rw [Char.ofNat_toNat] at hblank
  rcases hc with hc | hc
  · exact hblank hc hletter
  · omega

/-- What is asked of a table of spellings: that they are plain letters, and that each one stands for
its own value. -/
structure Legible {α : Type} (spellings : List (String × α)) : Prop where
  plain : ∀ p ∈ spellings, p.1.toList.all (IsPlain ·)
  lookup : ∀ p ∈ spellings, spellings.lookup p.1 = some p.2

/-- Whichever form is looked up, the value is that of the name of which the text is a variant. -/
lemma Legible.lookup_eq_some_iff {α : Type} {spellings : List (String × α)}
    (h : Legible spellings) {text form : String} (hform : LowerForm text.toList form.toList)
    {v : α} :
    spellings.lookup form = some v ↔ ∃ name, (name, v) ∈ spellings ∧ IsVariant text name := by
  have hvariant {name : String} (hname : name.toList.all (IsPlain ·)) :
      form = name ↔ IsVariant text name := by
    have hplain : ∀ c ∈ name.toList, IsPlain c := by simpa using hname
    rw [← String.toList_inj, hform.eq_iff hplain, isVariant_iff]
  constructor
  · intro hlookup
    have hmem : (form, v) ∈ spellings := by
      obtain ⟨before, after, rfl, -⟩ := List.lookup_eq_some_iff.mp hlookup
      simp
    exact ⟨form, hmem, (hvariant (h.plain _ hmem)).mp rfl⟩
  · rintro ⟨name, hmem, htext⟩
    rw [(hvariant (h.plain _ hmem)).mpr htext]
    exact h.lookup _ hmem

lemma lowerForm_lower (text : String) : LowerForm text.toList (lower text).toList := by
  rw [lower, String.toList_ofList]
  exact lowerForm_flatMap text.toList

end Text

/-- A reader takes the names of a table in any case and nothing else, and what it refuses it
quotes as it stands. -/
structure ReadsNames {α ε : Type} (read : String → Except ε α) (spellings : List (String × α))
    (refusal : String → ε) (text : String) : Prop where
  taken : ∀ v, read text = .ok v ↔ ∃ name, (name, v) ∈ spellings ∧ Text.IsVariant text name
  refused : read text = .error (refusal text) ↔ ∀ p ∈ spellings, ¬ Text.IsVariant text p.1
  decided : (∃ v, read text = .ok v) ∨ read text = .error (refusal text)
  strict : (∃ c ∈ text.toList, Text.isBlank c ∨ 0x80 ≤ c.toNat) →
    read text = .error (refusal text)
  anyForm : ∀ form : String, Text.LowerForm text.toList form.toList →
    spellings.lookup form = (read text).toOption

/-- A reader that looks its text up in lower case reads names. -/
lemma ReadsNames.of_eq {α ε : Type} {read : String → Except ε α} {spellings : List (String × α)}
    {refusal : String → ε} {text : String} (h : Text.Legible spellings)
    (hread : read text = (Text.findSpelling? spellings text).elim (.error (refusal text)) .ok) :
    ReadsNames read spellings refusal text := by
  have hfound (v : α) : Text.findSpelling? spellings text = some v
      ↔ ∃ name, (name, v) ∈ spellings ∧ Text.IsVariant text name :=
    h.lookup_eq_some_iff (Text.lowerForm_lower text)
  have hnone : Text.findSpelling? spellings text = none
      ↔ ∀ p ∈ spellings, ¬ Text.IsVariant text p.1 := by
    rw [Option.eq_none_iff_forall_ne_some]
    constructor
    · rintro hno ⟨name, v⟩ hmem htext
      exact hno v ((hfound v).mpr ⟨name, hmem, htext⟩)
    · intro hno v hv
      obtain ⟨name, hmem, htext⟩ := (hfound v).mp hv
      exact hno _ hmem htext
  have hrefused : read text = .error (refusal text)
      ↔ ∀ p ∈ spellings, ¬ Text.IsVariant text p.1 := by
    rw [← hnone, hread]
    cases Text.findSpelling? spellings text <;> simp
  constructor
  case taken =>
    intro v
    rw [← hfound v, hread]
    cases Text.findSpelling? spellings text <;> simp
  case refused => exact hrefused
  case decided =>
    rw [hread]
    cases Text.findSpelling? spellings text <;> simp
  case strict =>
    rintro ⟨c, hmem, hc⟩
    exact hrefused.mpr fun p _ htext => htext.not_mem hc hmem
  case anyForm =>
    intro form hform
    have hsame : spellings.lookup form = Text.findSpelling? spellings text := by
      ext v
      rw [h.lookup_eq_some_iff hform, hfound v]
    rw [hsame, hread]
    cases Text.findSpelling? spellings text <;> rfl

/-! ### The readers -/

lemma AlertState.parse_eq (text : String) : parse text
    = (Text.findSpelling? spellings text).elim (.error (.invalidState text)) .ok := by
  unfold parse
  cases Text.findSpelling? spellings text <;> rfl

lemma SuppressionReason.parse_eq (text : String) : parse text
    = (Text.findSpelling? spellings text).elim (.error (.invalidState text)) .ok := by
  unfold parse
  cases Text.findSpelling? spellings text <;> rfl

lemma LogLevel.parse_eq (text : String) : parse text
    = (Text.findSpelling? spellings text).elim (.error ("invalid log level '" ++ text
      ++ "': expected error|warn|info|debug|trace")) .ok := by
  unfold parse
  cases Text.findSpelling? spellings text <;> rfl

lemma LogFormat.parse_eq (text : String) : parse text
    = (Text.findSpelling? spellings text).elim (.error ("invalid log format '" ++ text
      ++ "': expected json|text")) .ok := by
  unfold parse
  cases Text.findSpelling? spellings text <;> rfl

/-- **Names are read in any case, in ASCII.** A text is read as a state, a suppression reason, a log
level or a log format exactly if it consists of ASCII letters and is one of the names but for upper
and lower case; `warning` is a further name of a level and `pretty` one of a format. A text with a
blank or a character that is not ASCII is refused wherever they stand, although lower-casing knows
all of Unicode, and it makes no difference which form a capital sigma takes. The fault quotes the
text as it stands. -/
theorem names_in_any_case (text : String) :
    ReadsNames AlertState.parse [("unprocessed", .unprocessed), ("active", .active),
      ("suppressed", .suppressed), ("deleted", .deleted)] Fault.invalidState text
    ∧ ReadsNames SuppressionReason.parse [("silenced", .silenced), ("inhibited", .inhibited)]
      Fault.invalidState text
    ∧ ReadsNames LogLevel.parse [("error", .error), ("warn", .warn), ("info", .info),
      ("debug", .debug), ("trace", .trace), ("warning", .warn)]
      (fun s => "invalid log level '" ++ s ++ "': expected error|warn|info|debug|trace") text
    ∧ ReadsNames LogFormat.parse [("json", .json), ("text", .text), ("pretty", .text)]
      (fun s => "invalid log format '" ++ s ++ "': expected json|text") text
    ∧ (Fault.invalidState text).message = "invalid alert state '" ++ text ++ "'" := by
  exact ⟨.of_eq ⟨by decide, by decide⟩ (AlertState.parse_eq text),
    .of_eq ⟨by decide, by decide⟩ (SuppressionReason.parse_eq text),
    .of_eq ⟨by decide, by decide⟩ (LogLevel.parse_eq text),
    .of_eq ⟨by decide, by decide⟩ (LogFormat.parse_eq text), rfl⟩

end AlertLedger
