/-
# Recorded streams read back

Whoever records a stream writes the compact JSON form of each operation on a line of its own, and
may put remarks on lines between them: blank ones, and ones that start with a number sign
(`Recording`). Lines may end in a line feed or in a carriage return and a line feed, and the last
one need not have an end. From such a file all operations are read in their order, and nothing else
(`OperationStream.recorded_reads_back`).

Where a line ends is a matter of bytes. A line feed is a byte that is in the UTF-8 form of no other
character, and in JSON it is escaped; so it ends a line just where it was put to end one
(`OperationStream.lines_append`). A carriage return before it goes with it, even if it was meant to
be the end of a remark, but a remark is one without it, too.
-/
import AlertLedger.Operation.Stream
import AlertLedger.Proofs.Encoding.Operation
import AlertLedger.Proofs.Json.Line
import AlertLedger.Proofs.Text.Blank

namespace AlertLedger

open Text (encodeChars isBlank)

/-! ### Recordings -/

/-- A line that says nothing: blank characters, and after them perhaps a number sign and whatever
follows. -/
structure IsRemark (cs : List Char) : Prop where
  oneLine : '\n' ∉ cs
  idle : ∀ c ∈ (cs.dropWhile isBlank).head?, c = '#'

/-- A line of a recording. -/
inductive RecordedLine where
  | operation (op : Operation)
  | remark (text : String) (h : IsRemark text.toList)

/-- What ends a line. -/
inductive LineEnd where
  | lineFeed
  | returnAndLineFeed

/-- A recorded stream: lines with their ends, and perhaps a last line without one. -/
structure Recording where
  lines : List (RecordedLine × LineEnd)
  last : Option RecordedLine := none

namespace RecordedLine

/-- What stands on a line. -/
def text : RecordedLine → String
  | .operation op => op.toJson.render
  | .remark text _ => text

/-- The operation on a line, unless it is a remark. -/
def operation? : RecordedLine → Option Operation
  | .operation op => some op
  | .remark .. => none

lemma filterMap_cons (line : RecordedLine) (l : List RecordedLine) :
    (line :: l).filterMap operation? = line.operation?.toList ++ l.filterMap operation? := by
  cases line <;> rfl

end RecordedLine

/-- The characters that end a line. -/
def LineEnd.chars : LineEnd → List Char
  | .lineFeed => ['\n']
  | .returnAndLineFeed => ['\r', '\n']

namespace Recording

/-- The operations that were recorded. -/
def operations (r : Recording) : List Operation :=
  (r.lines.map (·.1) ++ r.last.toList).filterMap RecordedLine.operation?

/-- The file with a recording. -/
def bytes (r : Recording) : List UInt8 :=
  r.lines.flatMap (fun (line, lineEnd) => encodeChars (line.text.toList ++ lineEnd.chars))
    ++ r.last.toList.flatMap fun line => encodeChars line.text.toList

end Recording

/-! ### Lines -/

namespace Text

/-- A text without the carriage return at its end, if there is one. -/
def withoutReturn (cs : List Char) : List Char :=
  if cs.getLast? = some '\r' then cs.dropLast else cs

/-- A carriage return is the only character with its byte. -/
lemma encodeChars_withoutReturn (cs : List Char) :
    encodeChars (withoutReturn cs) =
      if (encodeChars cs).getLast? = some 0x0d then (encodeChars cs).dropLast
      else encodeChars cs := by
  rcases List.eq_nil_or_concat cs with rfl | ⟨cs, c, rfl⟩
  · rfl
  · rw [withoutReturn, List.concat_eq_append, List.getLast?_concat, List.dropLast_concat,
      encodeChars_append, encodeChars_cons, encodeChars_nil, List.append_nil]
    by_cases hc : c = '\r'
    · subst hc
      have hreturn : String.utf8EncodeChar '\r' = [0x0d] := rfl
      rw [if_pos rfl, hreturn, List.getLast?_concat, if_pos rfl, List.dropLast_concat]
    · have hlast : (encodeChars cs ++ String.utf8EncodeChar c).getLast? ≠ some 0x0d := by
        intro hlast
        have hne : String.utf8EncodeChar c ≠ [] := by
          rw [← List.length_pos_iff, String.length_utf8EncodeChar]
          exact c.utf8Size_pos
        rw [List.getLast?_append_of_ne_nil _ hne] at hlast
        have hnat := toNat_eq_of_mem_encodeChar (List.mem_of_getLast? hlast) (by decide)
        exact hc (Char.toNat_inj.mp hnat)
      rw [if_neg (by simpa using hc), if_neg hlast, encodeChars_append, encodeChars_cons,
        encodeChars_nil, List.append_nil]

lemma withoutReturn_prefix (cs : List Char) : withoutReturn cs <+: cs := by
  rw [withoutReturn]
  split_ifs
  · exact List.dropLast_prefix cs
  · exact List.prefix_rfl

lemma withoutReturn_of_notMem {cs : List Char} (h : '\r' ∉ cs) : withoutReturn cs = cs :=
  if_neg fun hlast => h (List.mem_of_getLast? hlast)

lemma withoutReturn_append_return (cs : List Char) : withoutReturn (cs ++ ['\r']) = cs := by
  rw [withoutReturn, List.getLast?_concat, if_pos rfl, List.dropLast_concat]

end Text

namespace OperationStream

open Text (withoutReturn)

/-- Bytes of a line are collected until it ends. -/
lemma go_append {bs : List UInt8} (h : 0x0a ∉ bs) (line rest : List UInt8) :
    lines.go line (bs ++ rest) = lines.go (bs.reverse ++ line) rest := by
  induction bs generalizing line with
  | nil => rfl
  | cons b bs ih =>
    obtain ⟨hb, hbs⟩ := List.ne_and_not_mem_of_not_mem_cons h
    rw [List.cons_append, lines.go, ih hbs]
    · simp
    · exact fun h => hb h.symm

/-- A line feed ends a line, and takes a carriage return before it along. -/
lemma go_lineFeed (line rest : List UInt8) :
    lines.go line.reverse (0x0a :: rest)
      = (if line.getLast? = some 0x0d then line.dropLast else line) :: lines rest := by
  rcases List.eq_nil_or_concat line with rfl | ⟨line, b, rfl⟩
  · rfl
  · rw [List.concat_eq_append, List.reverse_concat, List.getLast?_concat, List.dropLast_concat]
    by_cases hb : b = 0x0d
    · subst hb
      change line.reverse.reverse :: lines rest = _
      rw [if_pos rfl, List.reverse_reverse]
    · rw [if_neg (mt Option.some.inj hb), lines.go, List.reverse_cons, List.reverse_reverse, lines]
      exact fun l hl => hb (List.cons.inj hl).1

/-- A line ends at the first line feed. -/
lemma lines_append_lineFeed {line : List UInt8} (h : 0x0a ∉ line) (rest : List UInt8) :
    lines (line ++ 0x0a :: rest)
      = (if line.getLast? = some 0x0d then line.dropLast else line) :: lines rest := by
  rw [lines, go_append h, List.append_nil]
  exact go_lineFeed line rest

/-- The last line need not have an end. -/
lemma lines_of_notMem {bytes : List UInt8} (h : 0x0a ∉ bytes) :
    lines bytes = if bytes = [] then [] else [bytes] := by
  have hgo := go_append h [] []
  rw [List.append_nil, List.append_nil] at hgo
  rw [lines, hgo, lines.go]
  simp

/-- A line feed is the only character with its byte. -/
lemma notMem_encodeChars {cs : List Char} (h : '\n' ∉ cs) : 0x0a ∉ encodeChars cs :=
  mt (Text.mem_of_mem_encodeChars (c := '\n') (by decide)) h

/-- A line ends where a line feed follows it, and nowhere before. -/
lemma lines_append {cs : List Char} (h : '\n' ∉ cs) (rest : List UInt8) :
    lines (encodeChars (cs ++ ['\n']) ++ rest) = encodeChars (withoutReturn cs) :: lines rest := by
  have hfeed : encodeChars ['\n'] = [0x0a] := rfl
  rw [Text.encodeChars_append, hfeed, List.append_assoc, List.singleton_append,
    lines_append_lineFeed (notMem_encodeChars h), Text.encodeChars_withoutReturn]

end OperationStream

/-! ### Reading lines -/

/-- What a remark begins with is a remark. -/
lemma IsRemark.of_prefix {cs ds : List Char} (h : IsRemark cs) (hds : ds <+: cs) :
    IsRemark ds where
  oneLine := fun hmem => h.oneLine (hds.subset hmem)
  idle := by
    obtain ⟨es, rfl⟩ := hds
    intro c hc
    apply h.idle
    have hne : ¬ (ds.dropWhile isBlank).isEmpty := by
      intro hnil
      rw [List.isEmpty_iff.mp hnil] at hc
      exact absurd hc (Option.not_mem_none c)
    rw [List.dropWhile_append, if_neg hne, List.head?_append, hc]
    rfl

/-- There is no control character in the text of an operation. -/
lemma Operation.notMem_chars (op : Operation) {c : Char} (hc : c.toNat < 0x20) :
    c ∉ op.toJson.chars := fun hmem =>
  Nat.not_le_of_lt hc (Json.le_of_isInline op.toJson.isInline_chars hmem)

namespace OperationStream

/-- From a remark nothing is read. -/
lemma readLine_remark (number : Nat) {cs : List Char} (h : IsRemark cs) :
    readLine number (encodeChars cs) = .ok none := by
  have hhead := h.idle
  rw [← Text.head?_trimChars] at hhead
  rw [readLine, ← Text.encode_ofList, Text.decode?_encode]
  simp only [String.toList_ofList]
  cases htrim : Text.trimChars cs with
  | nil => rfl
  | cons c rest =>
    rw [htrim] at hhead
    obtain rfl := hhead c rfl
    rfl

/-- From the JSON form of an operation that operation is read. -/
lemma readLine_operation (number : Nat) (op : Operation) :
    readLine number (encodeChars op.toJson.chars) = .ok (some op) := by
  obtain ⟨cs, hcs⟩ : ∃ cs, op.toJson.chars = '{' :: (cs ++ ['}']) := by
    rw [op.toJson_eq, Json.Value.chars]
    exact ⟨_, rfl⟩
  have htrim : Text.trimChars ('{' :: (cs ++ ['}'])) = '{' :: (cs ++ ['}']) :=
    Text.trimChars_cons_concat rfl rfl cs
  have hdecode := op.decode?_encode
  rw [Json.Value.render, hcs] at hdecode
  rw [readLine, ← Text.encode_ofList, Text.decode?_encode]
  simp only [String.toList_ofList, hcs, htrim]
  -- The text of an object is neither blank nor a remark.
  split
  case h_1 h => exact absurd h (List.cons_ne_nil _ _)
  case h_2 h => exact absurd (List.cons.inj h).1 (by decide)
  case h_3 => rw [hdecode]

end OperationStream

namespace RecordedLine

lemma toList_text_operation (op : Operation) : (operation op).text.toList = op.toJson.chars :=
  String.toList_ofList

/-- A line has no end in it. -/
lemma notMem_text (line : RecordedLine) : '\n' ∉ line.text.toList := by
  cases line with
  | operation op =>
    rw [toList_text_operation]
    exact op.notMem_chars (by decide)
  | remark text h => exact h.oneLine

/-- What is read from a line is its operation, or nothing. -/
lemma readLine_text (number : Nat) (line : RecordedLine) :
    OperationStream.readLine number (encodeChars line.text.toList) = .ok line.operation? := by
  cases line with
  | operation op =>
    rw [toList_text_operation]
    exact OperationStream.readLine_operation number op
  | remark text h => exact OperationStream.readLine_remark number h

/-- A carriage return that is lost makes no difference. -/
lemma readLine_withoutReturn (number : Nat) (line : RecordedLine) :
    OperationStream.readLine number (encodeChars (Text.withoutReturn line.text.toList))
      = .ok line.operation? := by
  cases line with
  | operation op =>
    rw [toList_text_operation, Text.withoutReturn_of_notMem (op.notMem_chars (by decide))]
    exact OperationStream.readLine_operation number op
  | remark text h =>
    exact OperationStream.readLine_remark number (h.of_prefix (Text.withoutReturn_prefix _))

end RecordedLine

namespace OperationStream

/-- A line with its end is the first one of those that follow. -/
lemma lines_line (line : RecordedLine) (lineEnd : LineEnd) (rest : List UInt8) :
    ∃ bs, lines (encodeChars (line.text.toList ++ lineEnd.chars) ++ rest) = bs :: lines rest
      ∧ ∀ number, readLine number bs = .ok line.operation? := by
  cases lineEnd with
  | lineFeed =>
    exact ⟨_, lines_append line.notMem_text rest, fun number => line.readLine_withoutReturn number⟩
  | returnAndLineFeed =>
    have hmem : '\n' ∉ line.text.toList ++ ['\r'] := by
      simp [line.notMem_text]
    have hlines := lines_append hmem rest
    rw [Text.withoutReturn_append_return, List.append_assoc] at hlines
    exact ⟨_, hlines, fun number => line.readLine_text number⟩

/-- The last line counts whether or not anything is on it. -/
lemma readLines_last (number : Nat) (line : RecordedLine) :
    readLines number (lines (encodeChars line.text.toList)) = .ok line.operation?.toList := by
  have hline := line.readLine_text number
  rw [lines_of_notMem (notMem_encodeChars line.notMem_text)]
  split_ifs with hnil
  · rw [hnil] at hline
    have hnone : readLine number [] = .ok none := rfl
    rw [← Except.ok.inj (hnone.symm.trans hline)]
    rfl
  · rw [readLines, hline]
    change Except.ok (line.operation?.toList ++ []) = _
    rw [List.append_nil]

/-- From any line on, what is read of a recording are its operations in their order. -/
lemma readLines_recording (number : Nat) (r : Recording) :
    readLines number (lines r.bytes) = .ok r.operations := by
  obtain ⟨recorded, last⟩ := r
  induction recorded generalizing number with
  | nil =>
    cases last with
    | none => rfl
    | some line =>
      simp only [Recording.bytes, Recording.operations]
      rw [List.flatMap_nil, List.nil_append, List.map_nil, List.nil_append, Option.toList_some,
        List.flatMap_singleton, readLines_last, RecordedLine.filterMap_cons, List.filterMap_nil,
        List.append_nil]
  | cons l recorded ih =>
    obtain ⟨line, lineEnd⟩ := l
    obtain ⟨bs, hbs, hread⟩ := lines_line line lineEnd (Recording.mk recorded last).bytes
    have hbytes : (Recording.mk ((line, lineEnd) :: recorded) last).bytes
        = encodeChars (line.text.toList ++ lineEnd.chars)
          ++ (Recording.mk recorded last).bytes := by
      rw [Recording.bytes, List.flatMap_cons, List.append_assoc]
      rfl
    rw [hbytes, hbs, readLines, hread, ih, Recording.operations, Recording.operations,
      List.map_cons, List.cons_append, RecordedLine.filterMap_cons]
    rfl

/-- **What was recorded is read back.**  An operation is read from its JSON form with its alert
named as it was, and of a recording all operations are read in their order, whatever remarks stand
between them, however each line ends, and whether or not the last one has an end. -/
theorem recorded_reads_back :
    (∀ op : Operation, Operation.decode? (Text.encode op.toJson.render) = some op)
      ∧ ∀ r : Recording, read r.bytes = .ok r.operations :=
  ⟨Operation.decode?_encode, readLines_recording 1⟩

end OperationStream

end AlertLedger
