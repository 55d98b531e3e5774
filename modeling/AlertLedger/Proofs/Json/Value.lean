/-
# JSON values read back

A printed value is a JSON text: it has the tokens of its written form (`Value.scannedAs_chars`), and so
it is parsed as that (`Value.parse?_render_written`). The written form is read as the value again,
if it is one that reading can give, which keeps no number but natural ones of 64 bits and refuses
a deep nesting (`Value.Readable`).
-/
import AlertLedger.Json.Record
import AlertLedger.Proofs.Json.Token
import AlertLedger.Proofs.Json.Written
import Mathlib.Data.List.Forall2

namespace AlertLedger.Json

open Text (encodeChars)
open Token (scan? Delimits)

namespace Value

/-- What holds of an array or object as soon as it holds of its values holds of all values. -/
@[elab_as_elim]
lemma tree_induction {P : Value → Prop} (null : P .null) (bool : ∀ b, P (.bool b))
    (natural : ∀ n, P (.natural n)) (otherNumber : P .otherNumber) (string : ∀ s, P (.string s))
    (array : ∀ items, (∀ v ∈ items, P v) → P (.array items))
    (object : ∀ members : List (String × Value), (∀ m ∈ members, P m.2) → P (.object members))
    (v : Value) : P v := by
  refine Value.rec (motive_1 := P) (motive_2 := fun items => ∀ v ∈ items, P v)
    (motive_3 := fun members => ∀ m ∈ members, P m.2) (motive_4 := fun m => P m.2)
    null bool natural otherNumber string array object ?_ ?_ ?_ ?_ ?_ v
  · intro v hv
    cases hv
  · intro v items hv hitems
    exact List.forall_mem_cons.mpr ⟨hv, hitems⟩
  · intro m hm
    cases hm
  · intro m members hm hmembers
    exact List.forall_mem_cons.mpr ⟨hm, hmembers⟩
  · intro key v hv
    exact hv

/-! ### Written forms -/

mutual

/-- A value as it is written when it is printed. -/
def written : Value → Written
  | .null => .null
  | .bool b => .bool b
  | .natural n => .number (.ofNat n)
  | .otherNumber => .number (.ofNat 0)
  | .string s => .string (stringBody s)
  | .array items => .array (writtenItems items)
  | .object members => .object (writtenMembers members)

/-- The values of an array as they are written. -/
def writtenItems : List Value → List Written
  | [] => []
  | v :: rest => v.written :: writtenItems rest

/-- The members of an object as they are written. -/
def writtenMembers : List (String × Value) → List (List UInt8 × Written)
  | [] => []
  | (key, v) :: rest => (stringBody key, v.written) :: writtenMembers rest

end

lemma writtenItems_eq (items : List Value) : writtenItems items = items.map written := by
  induction items with
  | nil => rw [writtenItems, List.map_nil]
  | cons v items ih => rw [writtenItems, ih, List.map_cons]

lemma writtenMembers_eq (members : List (String × Value)) :
    writtenMembers members = members.map fun m => (stringBody m.1, m.2.written) := by
  induction members with
  | nil => rw [writtenMembers, List.map_nil]
  | cons m members ih => rw [writtenMembers, ih, List.map_cons]

/-! ### Printed values scanned -/

/-- Characters that are scanned as tokens, whatever follows that does not go on with them. -/
def ScannedAs (cs : List Char) (ts : List Token) : Prop :=
  ∀ rest, Delimits rest → scan? (encodeChars cs ++ rest) = (scan? rest).map (ts ++ ·)

lemma scan?_quoted (s : String) (rest : List UInt8) :
    scan? (encodeChars (quoted s) ++ rest) = (scan? rest).map (.string (stringBody s) :: ·) := by
  rw [encodeChars_quoted, List.cons_append, List.append_assoc, List.singleton_append]
  exact Token.scan?_string (scanString_stringBody s rest)

namespace ScannedAs

variable {cs ds : List Char} {ts us : List Token}

/-- Two texts with a mark between them. -/
lemma append_cons (h : ScannedAs cs ts) {c : Char} {t : Token} (hc : Token.IsMark c t)
    (h' : ScannedAs ds us) : ScannedAs (cs ++ c :: ds) (ts ++ t :: us) := by
  intro rest hr
  rw [Text.encodeChars_append, List.append_assoc, h _ (hc.delimits ds rest), hc.scan?_cons,
    h' rest hr, Option.map_map, Option.map_map]
  simp [Function.comp_def]

lemma cons {c : Char} {t : Token} (hc : Token.IsMark c t) (h : ScannedAs ds us) :
    ScannedAs (c :: ds) (t :: us) := by
  intro rest hr
  rw [hc.scan?_cons, h rest hr, Option.map_map]
  rfl

lemma nil : ScannedAs [] [] := by
  intro rest _
  simp

lemma quoted (s : String) : ScannedAs (quoted s) [.string (stringBody s)] := by
  intro rest _
  exact scan?_quoted s rest

end ScannedAs

lemma scannedAs_itemsChars {items : List Value}
    (h : ∀ v ∈ items, ScannedAs v.chars v.written.tokens) :
    ScannedAs (itemsChars items) (Written.itemsTokens (items.map written)) := by
  induction items with
  | nil =>
    rw [itemsChars, List.map_nil, Written.itemsTokens]
    exact .nil
  | cons v items ih =>
    obtain ⟨hv, hitems⟩ := List.forall_mem_cons.mp h
    cases items with
    | nil =>
      rw [itemsChars, List.map_singleton, Written.itemsTokens]
      exact hv
    | cons w items =>
      rw [itemsChars, List.map_cons, List.map_cons, Written.itemsTokens]
      exact hv.append_cons Token.isMark_comma (ih hitems)

lemma scannedAs_membersChars {members : List (String × Value)}
    (h : ∀ m ∈ members, ScannedAs m.2.chars m.2.written.tokens) :
    ScannedAs (membersChars members)
      (Written.membersTokens (members.map fun m => (stringBody m.1, m.2.written))) := by
  induction members with
  | nil =>
    rw [membersChars, List.map_nil, Written.membersTokens]
    exact .nil
  | cons m members ih =>
    obtain ⟨hv, hmembers⟩ := List.forall_mem_cons.mp h
    obtain ⟨key, v⟩ := m
    cases members with
    | nil =>
      rw [membersChars, List.map_singleton, Written.membersTokens]
      exact (ScannedAs.quoted key).append_cons Token.isMark_colon hv
    | cons m members =>
      rw [membersChars, List.map_cons, List.map_cons, Written.membersTokens]
      exact (ScannedAs.quoted key).append_cons Token.isMark_colon
        (hv.append_cons Token.isMark_comma (ih hmembers))

/-- The tokens of a printed value are those of its written form. -/
lemma scannedAs_chars (v : Value) : ScannedAs v.chars v.written.tokens := by
  induction v using tree_induction with
  | null =>
    intro rest hr
    rw [chars, written, Written.tokens]
    exact Token.scan?_word (t := .null) rfl rfl rfl (by decide) rfl rfl hr
  | bool b =>
    intro rest hr
    rw [written, Written.tokens]
    cases b with
    | false =>
      rw [chars]
      exact Token.scan?_word (t := .bool false) rfl rfl rfl (by decide) rfl rfl hr
    | true =>
      rw [chars]
      exact Token.scan?_word (t := .bool true) rfl rfl rfl (by decide) rfl rfl hr
  | natural n =>
    intro rest hr
    rw [chars, written, Written.tokens]
    exact Token.scan?_decimal n hr
  | otherNumber =>
    intro rest hr
    rw [chars, written, Written.tokens]
    exact Token.scan?_decimal 0 hr
  | string s =>
    rw [chars, written, Written.tokens]
    exact .quoted s
  | array items ih =>
    rw [chars, written, Written.tokens, writtenItems_eq]
    exact .cons Token.isMark_arrayOpen
      ((scannedAs_itemsChars ih).append_cons Token.isMark_arrayClose .nil)
  | object members ih =>
    rw [chars, written, Written.tokens, writtenMembers_eq]
    exact .cons Token.isMark_objectOpen
      ((scannedAs_membersChars ih).append_cons Token.isMark_objectClose .nil)

/-- A printed value is parsed as its written form. -/
lemma parse?_render_written (v : Value) : Written.parse? (Text.encode v.render) = some v.written := by
  have h := scannedAs_chars v [] Token.delimits_nil
  rw [List.append_nil, show scan? [] = some [] by rw [Token.scan?], Option.map_some,
    List.append_nil] at h
  rw [Written.parse?, render, Text.encode_ofList, h, Option.bind_some, Written.ofTokens?_tokens]

/-! ### Written forms read -/

/-- A value that reading can give: its numbers are natural ones of 64 bits, and at most `depth`
arrays and objects are open at once. -/
def Readable : (depth : Nat) → Value → Prop
  | _, .null | _, .bool _ | _, .string _ => True
  | _, .natural n => n < UInt64.size
  | _, .otherNumber => False
  | 0, .array _ | 0, .object _ => False
  | depth + 1, .array items => ∀ v ∈ items, Readable depth v
  | depth + 1, .object members => ∀ m ∈ members, Readable depth m.2

/-- What is read one by one is read together. -/
lemma mapM_eq_some_iff {α β : Type} {f : α → Option β} {l : List α} {l' : List β} :
    l.mapM f = some l' ↔ List.Forall₂ (fun a b => f a = some b) l l' := by
  induction l generalizing l' with
  | nil => simp [eq_comm]
  | cons a l ih =>
    rw [List.mapM_cons]
    cases l' with
    | nil => simp [Option.bind_eq_some_iff]
    | cons b l' => simp [Option.bind_eq_some_iff, ← ih, and_comm]

lemma mapM_map_eq_some {α β γ : Type} {f : β → Option γ} {g : α → β} {k : α → γ} {l : List α}
    (h : ∀ a ∈ l, f (g a) = some (k a)) : (l.map g).mapM f = some (l.map k) := by
  rw [mapM_eq_some_iff, List.forall₂_map_left_iff, List.forall₂_map_right_iff]
  exact List.forall₂_same.mpr h

/-- Reading gives the value back. -/
lemma value?_written {v : Value} {depth : Nat} (h : v.Readable depth) :
    v.written.value? depth = some v := by
  induction v using tree_induction generalizing depth with
  | null | bool => rw [written, Written.value?]
  | natural n =>
    rw [Readable] at h
    rw [written, Written.value?, Number.natural?_ofNat h]
  | otherNumber =>
    rw [Readable] at h
    exact h.elim
  | string s =>
    rw [written, Written.value?, stringOfBody?_stringBody]
    rfl
  | array items ih =>
    cases depth with
    | zero =>
      rw [Readable] at h
      exact h.elim
    | succ depth =>
      rw [Readable] at h
      rw [written, Written.value?, writtenItems_eq,
        mapM_map_eq_some (k := id) fun v hv => ih v hv (h v hv), List.map_id]
      rfl
  | object members ih =>
    cases depth with
    | zero =>
      rw [Readable] at h
      exact h.elim
    | succ depth =>
      rw [Readable] at h
      rw [written, Written.value?, writtenMembers_eq, mapM_map_eq_some (k := id), List.map_id]
      · rfl
      · intro m hm
        rw [stringOfBody?_stringBody, ih m hm (h m hm)]
        rfl

/-- **A printed value is read back.** -/
theorem parse?_render {v : Value} (h : v.Readable maxDepth) :
    parse? (Text.encode v.render) = some v := by
  rw [parse?, parse?_render_written, Option.bind_some, value?_written h]

/-! ### Records -/

/-- Which fields are picked has nothing to do with their values. -/
lemma pickFields?_map {α β : Type} (fields : List String) (closed : Bool)
    (members : List (String × α)) (g : α → β) :
    pickFields? fields closed (members.map fun m => (m.1, g m.2))
      = (pickFields? fields closed members).map fun given => given.map fun m => (m.1, g m.2) := by
  simp only [pickFields?, List.filter_map, List.length_map, List.map_map, Function.comp_def]
  split_ifs <;> rfl

lemma mem_of_pickFields? {α : Type} {fields : List String} {closed : Bool}
    {members given : List (String × α)} (h : pickFields? fields closed members = some given)
    {m : String × α} (hm : m ∈ given) : m ∈ members := by
  simp only [pickFields?] at h
  split_ifs at h
  obtain rfl := Option.some.inj h
  exact (List.mem_filter.mp hm).1

/-- The fields that an object gives are those that its written form gives. -/
lemma record?_written {members : List (String × Value)} (fields : List String) (closed : Bool)
    (h : ∀ m ∈ members, m.2.Readable maxDepth) :
    (object members).written.record? fields closed = (object members).record? fields closed := by
  have hkeys : (writtenMembers members).mapM
      (fun p => (stringOfBody? p.1).map fun key => (key, p.2))
      = some (members.map fun m => (m.1, m.2.written)) := by
    rw [writtenMembers_eq]
    refine mapM_map_eq_some ?_
    intro m _
    rw [stringOfBody?_stringBody, Option.map_some]
  rw [written, Written.record?, record?]
  simp only [hkeys, Option.bind_eq_bind, Option.bind_some, pickFields?_map]
  cases hp : pickFields? fields closed members with
  | none => rfl
  | some given =>
    rw [Option.map_some, Option.bind_some, mapM_map_eq_some (k := id), List.map_id]
    intro m hm
    rw [value?_written (h m (mem_of_pickFields? hp hm)), Option.map_some, id_eq]

end Value

end AlertLedger.Json
