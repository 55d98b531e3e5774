/-
# Streams line by line

A file is a list of lines: what stands between its line feeds (`OperationStream.physicalLines`). A
line says nothing if it is blank or a comment, and else an operation (`OperationStream.Says`); from
any other line nothing can be read, for one of two reasons (`OperationStream.Refused`). The stream
is read just if each of its lines says something, and otherwise the first line that says nothing
readable tells the fault (`OperationStream.read_eq_ok_iff`, `OperationStream.read_eq_error_iff`). So
a stream may be cut where a line ends, and its two parts be read one after the other
(`OperationStream.read_append`).

A carriage return at the end of a line is taken off before the line is read. It makes no difference:
it is a blank character, and with it or without it a line is UTF-8 or not.
-/
import AlertLedger.Proofs.Operation.Stream
import Mathlib.Data.List.Forall2
import Mathlib.Data.List.ReduceOption

namespace AlertLedger

/-- The fault of a stream that comes after so many lines. -/
def StreamFault.after (n : Nat) : StreamFault → StreamFault
  | .notText => .notText
  | .invalidLine number => .invalidLine (n + number)

namespace OperationStream

open Text (encodeChars)

/-! ### Lines -/

/-- What stands between line feeds, and what follows the last one unless it is nothing. -/
def physicalLines (bytes : List UInt8) : List (List UInt8) :=
  let pieces := bytes.splitOn 0x0a
  if pieces.getLast? = some [] then pieces.dropLast else pieces

lemma physicalLines_of_notMem {bytes : List UInt8} (h : 0x0a ∉ bytes) :
    physicalLines bytes = if bytes = [] then [] else [bytes] := by
  rw [physicalLines, List.splitOn_eq_singleton h]
  by_cases hnil : bytes = [] <;> simp [hnil]

lemma physicalLines_append_lineFeed {line : List UInt8} (h : 0x0a ∉ line) (rest : List UInt8) :
    physicalLines (line ++ 0x0a :: rest) = line :: physicalLines rest := by
  obtain ⟨piece, pieces, hpieces⟩ := List.exists_cons_of_ne_nil (List.splitOn_ne_nil 0x0a rest)
  rw [physicalLines, physicalLines, List.splitOn_append_cons_self_of_not_mem h, hpieces]
  simp only [List.getLast?_cons_cons, List.dropLast_cons_cons]
  split_ifs <;> rfl

/-- What holds of the last line, and of a file with a line more, holds of all files. -/
@[elab_as_elim]
lemma lines_induction {P : List UInt8 → Prop} (last : ∀ bytes, 0x0a ∉ bytes → P bytes)
    (line : ∀ line rest, 0x0a ∉ line → P rest → P (line ++ 0x0a :: rest)) (bytes : List UInt8) :
    P bytes := by
  induction hn : bytes.length using Nat.strong_induction_on generalizing bytes with
  | _ n ih =>
    by_cases hmem : 0x0a ∈ bytes
    · obtain ⟨before, rest, rfl, hbefore⟩ := List.eq_append_cons_of_mem hmem
      refine line before rest hbefore (ih rest.length ?_ rest rfl)
      rw [← hn, List.length_append, List.length_cons]
      omega
    · exact last bytes hmem

/-- A file that ends where a line ends. -/
def EndsWithLine (bytes : List UInt8) : Prop := ∀ b ∈ bytes.getLast?, b = 0x0a

/-- Where a line ends a file can be cut. -/
lemma physicalLines_append_of_endsWithLine {xs : List UInt8} (h : EndsWithLine xs)
    (ys : List UInt8) : physicalLines (xs ++ ys) = physicalLines xs ++ physicalLines ys := by
  induction xs using lines_induction with
  | last xs hxs =>
    have hnil : xs = [] := by
      by_contra hne
      have hlast := h _ (List.getLast?_eq_some_getLast hne)
      exact hxs (hlast ▸ List.getLast_mem hne)
    subst hnil
    rfl
  | line line rest hline ih =>
    have hrest : EndsWithLine rest := by
      intro b hb
      refine h b ?_
      rw [List.getLast?_append_of_ne_nil _ (List.cons_ne_nil _ _), List.getLast?_cons, hb]
      rfl
    rw [List.append_assoc, List.cons_append, physicalLines_append_lineFeed hline,
      physicalLines_append_lineFeed hline, ih hrest, List.cons_append]

/-! ### What a line says -/

/-- What a line says, once blank characters are taken off its ends: nothing, if it is blank or
begins with a number sign, or else the operation that it spells. -/
inductive Says (line : List UInt8) : Option Operation → Prop
  | blank {text : String} (htext : Text.encode text = line)
      (h : Text.trimChars text.toList = []) : Says line none
  | comment {text : String} (htext : Text.encode text = line)
      (h : (Text.trimChars text.toList).head? = some '#') : Says line none
  | operation {text : String} {op : Operation} (htext : Text.encode text = line)
      (h : Operation.decode? (Text.encode (Text.trim text)) = some op) : Says line (some op)

/-- Why nothing is read from the line with a number: it is not UTF-8, or it is, and says nothing. -/
inductive Refused (number : Nat) (line : List UInt8) : StreamFault → Prop
  | notText (h : ∀ text, Text.encode text ≠ line) : Refused number line .notText
  | invalid {text : String} (htext : Text.encode text = line) (h : ∀ op?, ¬ Says line op?) :
      Refused number line (.invalidLine number)

/-! ### Reading a line -/

lemma decode?_nil : Operation.decode? [] = none := by
  rw [Operation.decode?, Json.Value.parse?, Json.Written.parse?, Json.Token.scan?]
  rfl

/-- No operation begins with a number sign. -/
lemma decode?_numberSign (cs : List Char) :
    Operation.decode? (encodeChars ('#' :: cs)) = none := by
  have hscan : Json.Token.scan? (encodeChars ('#' :: cs)) = none := by
    rw [Text.encodeChars_cons, show String.utf8EncodeChar '#' = [0x23] from rfl,
      List.singleton_append, Json.Token.scan?]
    rfl
  rw [Operation.decode?, Json.Value.parse?, Json.Written.parse?, hscan]
  rfl

/-- A line is read as what it says. -/
lemma readLine_eq_ok_iff {number : Nat} {line : List UInt8} {op? : Option Operation} :
    readLine number line = .ok op? ↔ Says line op? := by
  constructor
  · intro h
    rw [readLine] at h
    split at h
    case h_1 => cases h
    case h_2 text hdecode =>
      have htext := Text.decode?_eq_some_iff.mp hdecode
      split at h
      case h_1 htrim =>
        cases h
        exact .blank htext htrim
      case h_2 htrim =>
        cases h
        exact .comment htext (by rw [htrim]; rfl)
      case h_3 =>
        split at h
        case h_1 op hop =>
          cases h
          exact .operation htext hop
        case h_2 => cases h
  · intro h
    cases h with
    | blank htext htrim =>
      rw [readLine, Text.decode?_eq_some_iff.mpr htext]
      simp only [htrim]
    | comment htext htrim =>
      obtain ⟨cs, hcs⟩ := List.head?_eq_some_iff.mp htrim
      rw [readLine, Text.decode?_eq_some_iff.mpr htext]
      simp only [hcs]
    | operation htext hop =>
      rw [readLine, Text.decode?_eq_some_iff.mpr htext]
      rw [Text.trim] at hop
      dsimp only
      -- A blank line or a comment would not have been decoded.
      split
      case h_1 htrim =>
        rw [htrim, Text.encode_ofList, Text.encodeChars_nil, decode?_nil] at hop
        cases hop
      case h_2 htrim =>
        rw [htrim, Text.encode_ofList, decode?_numberSign] at hop
        cases hop
      case h_3 => rw [hop]

lemma refused_of_readLine {number : Nat} {line : List UInt8} {f : StreamFault}
    (h : readLine number line = .error f) : Refused number line f := by
  have hsays (op? : Option Operation) : ¬ Says line op? := by
    intro hop
    rw [readLine_eq_ok_iff.mpr hop] at h
    cases h
  rw [readLine] at h
  split at h
  case h_1 hnone =>
    cases h
    refine .notText ?_
    intro text htext
    rw [Text.decode?_eq_some_iff.mpr htext] at hnone
    cases hnone
  case h_2 text hdecode =>
    have hrefused : Refused number line (.invalidLine number) :=
      .invalid (Text.decode?_eq_some_iff.mp hdecode) hsays
    split at h
    case h_1 => cases h
    case h_2 => cases h
    case h_3 =>
      split at h
      case h_1 => cases h
      case h_2 =>
        cases h
        exact hrefused

lemma Says.exists_text {line : List UInt8} {op? : Option Operation} (h : Says line op?) :
    ∃ text, Text.encode text = line := by
  cases h with
  | blank htext | comment htext | operation htext => exact ⟨_, htext⟩

lemma Refused.not_says {number : Nat} {line : List UInt8} {f : StreamFault}
    (h : Refused number line f) (op? : Option Operation) : ¬ Says line op? := by
  cases h with
  | notText h =>
    intro hop
    obtain ⟨text, htext⟩ := hop.exists_text
    exact h text htext
  | invalid _ h => exact h op?

/-- There is one reason only. -/
lemma Refused.unique {number : Nat} {line : List UInt8} {f f' : StreamFault}
    (h : Refused number line f) (h' : Refused number line f') : f = f' := by
  cases h with
  | notText h =>
    cases h' with
    | notText => rfl
    | invalid htext => exact absurd htext (h _)
  | invalid htext =>
    cases h' with
    | notText h' => exact absurd htext (h' _)
    | invalid => rfl

/-- A line is refused for the reason that it gives. -/
lemma readLine_eq_error_iff {number : Nat} {line : List UInt8} {f : StreamFault} :
    readLine number line = .error f ↔ Refused number line f := by
  refine ⟨refused_of_readLine, ?_⟩
  intro h
  cases hline : readLine number line with
  | ok op? => exact absurd (readLine_eq_ok_iff.mp hline) (h.not_says op?)
  | error f' => rw [h.unique (refused_of_readLine hline)]

/-- A carriage return at the end of a line makes no difference. -/
lemma readLine_withoutReturn (number : Nat) (line : List UInt8) :
    readLine number (if line.getLast? = some 0x0d then line.dropLast else line)
      = readLine number line := by
  split_ifs with hlast
  · obtain ⟨line, rfl⟩ := List.getLast?_eq_some_iff.mp hlast
    rw [List.dropLast_concat]
    have hreturn (text : String) (h : Text.encode text = line) :
        Text.encode (String.ofList (text.toList ++ ['\r'])) = line ++ [0x0d] := by
      rw [Text.encode_ofList, Text.encodeChars_append, Text.encodeChars_toList, h]
      rfl
    have htrim (text : String) :
        Text.trimChars (String.ofList (text.toList ++ ['\r'])).toList
          = Text.trimChars text.toList := by
      rw [String.toList_ofList, Text.trimChars_concat rfl]
    cases hdecode : Text.decode? line with
    | some text =>
      have htext := hreturn text (Text.decode?_eq_some_iff.mp hdecode)
      rw [readLine, readLine, hdecode, Text.decode?_eq_some_iff.mpr htext]
      simp only [htrim]
    | none =>
      have hnone : Text.decode? (line ++ [0x0d]) = none := by
        refine Option.eq_none_iff_forall_ne_some.mpr ?_
        intro text htext
        have hbytes := Text.encodeChars_withoutReturn text.toList
        rw [Text.encodeChars_toList, Text.decode?_eq_some_iff.mp htext, if_pos hlast,
          List.dropLast_concat, ← Text.encode_ofList] at hbytes
        rw [Text.decode?_eq_some_iff.mpr hbytes] at hdecode
        cases hdecode
      rw [readLine, readLine, hdecode, hnone]
  · rfl

/-! ### Reading lines -/

/-- A stream is read line by line, as the lines stand in the file. -/
lemma readLines_lines (number : Nat) (bytes : List UInt8) :
    readLines number (lines bytes) = readLines number (physicalLines bytes) := by
  induction bytes using lines_induction generalizing number with
  | last bytes h => rw [lines_of_notMem h, physicalLines_of_notMem h]
  | line line rest h ih =>
    rw [lines_append_lineFeed h, physicalLines_append_lineFeed h, readLines, readLines,
      readLine_withoutReturn, ih]

lemma readLines_append (number : Nat) (ls ls' : List (List UInt8)) :
    readLines number (ls ++ ls') = do
      let ops ← readLines number ls
      let ops' ← readLines (number + ls.length) ls'
      return ops ++ ops' := by
  induction ls generalizing number with
  | nil =>
    rw [List.nil_append, readLines, List.length_nil, Nat.add_zero]
    cases readLines number ls' <;> rfl
  | cons l ls ih =>
    rw [List.cons_append, readLines, readLines, ih, List.length_cons, Nat.add_comm ls.length,
      ← Nat.add_assoc]
    cases readLine number l with
    | error f => rfl
    | ok op =>
      cases readLines (number + 1) ls with
      | error f => rfl
      | ok ops =>
        cases readLines (number + 1 + ls.length) ls' with
        | error f => rfl
        | ok ops' => exact congrArg Except.ok (List.append_assoc ..).symm

/-- With lines before it a line has a larger number. -/
lemma readLine_after (n number : Nat) (line : List UInt8) :
    readLine (n + number) line = (readLine number line).mapError (·.after n) := by
  cases hline : readLine number line with
  | ok op? => exact readLine_eq_ok_iff.mpr (readLine_eq_ok_iff.mp hline)
  | error f =>
    refine readLine_eq_error_iff.mpr ?_
    cases readLine_eq_error_iff.mp hline with
    | notText h => exact .notText h
    | invalid htext h => exact .invalid htext h

lemma readLines_after (n number : Nat) (ls : List (List UInt8)) :
    readLines (n + number) ls = (readLines number ls).mapError (·.after n) := by
  induction ls generalizing number with
  | nil => rfl
  | cons l ls ih =>
    rw [readLines, readLines, readLine_after, Nat.add_assoc, ih]
    cases readLine number l with
    | error f => rfl
    | ok op =>
      cases readLines (number + 1) ls with
      | error f => rfl
      | ok ops => rfl

/-- Lines are read just if each of them says something, and then what they say is read. -/
lemma readLines_eq_ok_iff {number : Nat} {ls : List (List UInt8)} {ops : List Operation} :
    readLines number ls = .ok ops
      ↔ ∃ said, List.Forall₂ Says ls said ∧ said.reduceOption = ops := by
  induction ls generalizing number ops with
  | nil =>
    rw [readLines]
    constructor
    · rintro ⟨⟩
      exact ⟨[], .nil, rfl⟩
    · rintro ⟨_, ⟨⟩, rfl⟩
      rfl
  | cons l ls ih =>
    rw [readLines]
    constructor
    · intro h
      cases hl : readLine number l with
      | error f =>
        rw [hl] at h
        cases h
      | ok op? =>
        cases hls : readLines (number + 1) ls with
        | error f =>
          rw [hl, hls] at h
          cases h
        | ok rest =>
          rw [hl, hls] at h
          cases h
          obtain ⟨said, hsaid, rfl⟩ := ih.mp hls
          refine ⟨op? :: said, .cons (readLine_eq_ok_iff.mp hl) hsaid, ?_⟩
          cases op? <;> rfl
    · rintro ⟨_, hsaid, rfl⟩
      cases hsaid with
      | @cons _ op? _ said hl hsaid =>
        rw [readLine_eq_ok_iff.mpr hl, ih.mpr ⟨said, hsaid, rfl⟩]
        cases op? <;> rfl

/-- Lines are refused for the first of them that is refused. -/
lemma readLines_eq_error_iff {number : Nat} {ls : List (List UInt8)} {f : StreamFault} :
    readLines number ls = .error f
      ↔ ∃ before line after, ls = before ++ line :: after
        ∧ (∀ l ∈ before, ∃ op?, Says l op?) ∧ Refused (number + before.length) line f := by
  induction ls generalizing number with
  | nil =>
    rw [readLines]
    constructor
    · rintro ⟨⟩
    · rintro ⟨before, line, after, heq, -⟩
      exact absurd heq.symm (List.append_ne_nil_of_right_ne_nil _ (List.cons_ne_nil _ _))
  | cons l ls ih =>
    rw [readLines]
    constructor
    · intro h
      cases hl : readLine number l with
      | error f' =>
        rw [hl] at h
        cases h
        exact ⟨[], l, ls, rfl, List.forall_mem_nil _, readLine_eq_error_iff.mp hl⟩
      | ok op? =>
        cases hls : readLines (number + 1) ls with
        | ok rest =>
          rw [hl, hls] at h
          cases h
        | error f' =>
          rw [hl, hls] at h
          cases h
          obtain ⟨before, line, after, rfl, hbefore, hrefused⟩ := ih.mp hls
          refine ⟨l :: before, line, after, rfl,
            List.forall_mem_cons.mpr ⟨⟨op?, readLine_eq_ok_iff.mp hl⟩, hbefore⟩, ?_⟩
          rwa [List.length_cons, Nat.add_comm before.length, ← Nat.add_assoc]
    · rintro ⟨before, line, after, heq, hbefore, hrefused⟩
      cases before with
      | nil =>
        obtain ⟨rfl, -⟩ := List.cons.inj heq
        have hl : readLine number l = .error f := readLine_eq_error_iff.mpr hrefused
        rw [hl]
        rfl
      | cons b before =>
        obtain ⟨rfl, rfl⟩ := List.cons.inj heq
        obtain ⟨⟨op?, hop⟩, hbefore⟩ := List.forall_mem_cons.mp hbefore
        rw [List.length_cons, Nat.add_comm before.length, ← Nat.add_assoc] at hrefused
        rw [readLine_eq_ok_iff.mpr hop, ih.mpr ⟨before, line, after, rfl, hbefore, hrefused⟩]
        rfl

/-! ### Reading a stream -/

lemma read_eq_readLines (bytes : List UInt8) : read bytes = readLines 1 (physicalLines bytes) :=
  readLines_lines 1 bytes

/-- **A stream is read just if each of its lines says something**, and then the operations are read
that they say, in their order. -/
theorem read_eq_ok_iff {bytes : List UInt8} {ops : List Operation} :
    read bytes = .ok ops
      ↔ ∃ said, List.Forall₂ Says (physicalLines bytes) said ∧ said.reduceOption = ops := by
  rw [read_eq_readLines, readLines_eq_ok_iff]

/-- **A stream is refused for the first of its lines that is refused.** -/
theorem read_eq_error_iff {bytes : List UInt8} {f : StreamFault} :
    read bytes = .error f
      ↔ ∃ before line after, physicalLines bytes = before ++ line :: after
        ∧ (∀ l ∈ before, ∃ op?, Says l op?) ∧ Refused (before.length + 1) line f := by
  rw [read_eq_readLines, readLines_eq_error_iff]
  simp only [Nat.add_comm 1]

/-- **A stream that is cut where a line ends is read part by part.** -/
theorem read_append {xs : List UInt8} (h : EndsWithLine xs) (ys : List UInt8) :
    read (xs ++ ys) = do
      let ops ← read xs
      let ops' ← (read ys).mapError (·.after (physicalLines xs).length)
      return ops ++ ops' := by
  rw [read_eq_readLines, physicalLines_append_of_endsWithLine h, readLines_append, Nat.add_comm 1,
    readLines_after, ← read_eq_readLines, ← read_eq_readLines]

end OperationStream

end AlertLedger
