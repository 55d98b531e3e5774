/-
# Alerts named by written labels

There are two ways to name an alert by labels: as written labels in a call of the program, which
then prints the fingerprint of the alert, and as a JSON object in an operation of a stream. Both end
in the same label set as soon as under each name the last value is the same, and so both name the
same alert (`LabelSet.written_labels_name_alert`). The spelling of the operation does not count: it
may be an object that has the labels as one of its members or an array that has them in its place
(`LabelSet.NamedIn`).
-/
import AlertLedger.Command.Run
import AlertLedger.Proofs.LabelSet
import AlertLedger.Proofs.LabelSet.Pairs
import AlertLedger.Proofs.Operation.Decoding
import AlertLedger.Proofs.Trail.Transparency

namespace AlertLedger

open Json (Value)

/-! ### Labels in operations -/

/-- A member whose name comes just once has the value of the name. -/
lemma Json.lookup_of_mem {α : Type _} {ms : List (String × α)} {name : String} {v : α}
    (h : (name, v) ∈ ms) (hname : ms.countP (·.1 == name) ≤ 1) : ms.lookup name = some v := by
  have hmem : (name, v) ∈ ms.filter (·.1 == name) := List.mem_filter.mpr ⟨h, beq_self_eq_true name⟩
  rw [List.countP_eq_length_filter] at hname
  rw [lookup_eq_filter]
  rcases hfilter : ms.filter (·.1 == name) with _ | ⟨m, _ | ⟨m', rest⟩⟩
  · rw [hfilter] at hmem
    cases hmem
  · rw [hfilter] at hmem
    rw [hfilter, ← List.mem_singleton.mp hmem]
    rfl
  · rw [hfilter] at hname
    simp at hname

/-- The JSON values that give an operation, or what would be one, an alert by its labels. -/
inductive LabelSet.NamedIn (pairs : List (String × String)) : Value → Prop
  /-- An object with the labels as the member for the alert. -/
  | object {ms : List (String × Value)} (h : ("alert", objectOf pairs) ∈ ms) :
      NamedIn pairs (.object ms)
  /-- An array with the labels in the place of the alert, right after the name. -/
  | array (name : String) (items : List Value) :
      NamedIn pairs (.array (.string name :: objectOf pairs :: items))

section

variable {op : Operation} {kind : OperationKind} {given : List (String × Value)}
  {pairs : List (String × String)}

/-- Operations on alerts have the alert as their first field. -/
lemma Operation.alert_mem_fields {alert : Fingerprint} (h : alert ∈ op.alert?) :
    ∃ fields, op.kind.fields = "alert" :: fields := by
  cases op with
  | silence | inhibit | delete => exact ⟨_, rfl⟩
  | mute | unmute => cases h

lemma OperationKind.alert_of_read? (hgiven : given.lookup "alert" = some (LabelSet.objectOf pairs))
    (h : kind.read? given = some op) :
    ∀ alert ∈ op.alert?, alert = (LabelSet.ofList pairs).fingerprint := by
  have hread : Json.required given "alert" AlertRef.ofJson? = some (.labels (.ofList pairs)) :=
    Json.required_eq hgiven (AlertRef.ofJson?_objectOf pairs)
  intro alert halert
  cases kind <;> simp only [read?, hread, Option.bind_eq_bind, Option.bind_some] at h
  case silence =>
    obtain ⟨_, -, h⟩ := Option.bind_eq_some_iff.mp h
    obtain ⟨_, -, h⟩ := Option.bind_eq_some_iff.mp h
    obtain ⟨_, -, ⟨⟩⟩ := Option.bind_eq_some_iff.mp h
    exact (Option.some.inj halert).symm
  case inhibit =>
    obtain ⟨_, -, ⟨⟩⟩ := Option.bind_eq_some_iff.mp h
    exact (Option.some.inj halert).symm
  case delete =>
    cases h
    exact (Option.some.inj halert).symm
  case mute =>
    obtain ⟨_, -, h⟩ := Option.bind_eq_some_iff.mp h
    obtain ⟨_, -, h⟩ := Option.bind_eq_some_iff.mp h
    obtain ⟨_, -, ⟨⟩⟩ := Option.bind_eq_some_iff.mp h
    cases halert
  case unmute =>
    obtain ⟨_, -, h⟩ := Option.bind_eq_some_iff.mp h
    obtain ⟨_, -, ⟨⟩⟩ := Option.bind_eq_some_iff.mp h
    cases halert

/-- **An operation is about the alert that the labels in it name.** -/
theorem LabelSet.NamedIn.alert_eq {v : Value} (hv : NamedIn pairs v)
    (h : Operation.ofJson? v = some op) :
    ∀ alert ∈ op.alert?, alert = (ofList pairs).fingerprint := by
  intro alert halert
  obtain ⟨fields, hfields⟩ := Operation.alert_mem_fields halert
  cases hv with
  | object hmem =>
    have hgiven := Operation.ofJson?_object_iff.mp h
    have honce := hgiven.once "alert" (hfields ▸ List.mem_cons_self)
    exact OperationKind.alert_of_read? (Json.lookup_of_mem hmem honce) hgiven.read alert halert
  | array name items =>
    simp only [Operation.ofJson?, Option.bind_eq_bind, Option.bind_eq_some_iff] at h
    obtain ⟨kind, -, given, hgiven, hread⟩ := h
    rw [(OperationKind.of_read? hread).1] at hfields
    rw [Json.placeFields?, hfields] at hgiven
    split_ifs at hgiven
    cases hgiven
    exact OperationKind.alert_of_read? rfl hread alert halert

end

/-! ### Labels in a call of the program -/

namespace Invocation

variable {i : Invocation} {texts : List String} {l : LabelSet} {f : Fault}

/-- For labels that are read the fingerprint is printed, and nothing else happens. -/
lemma run_fingerprint_of_ok (hi : i.command = .fingerprint texts) (h : LabelSet.parse texts = .ok l)
    (s : Surroundings) :
    i.run s = { files := s.files, lines := Report.print i.output l } := by
  have hneeds : ¬ i.needsConfig := by simp [needsConfig, hi]
  have hcommand : (Run.command s.clock {} i.output i.command).run.run { files := s.files }
      = (.ok (Report.print i.output l, none), { files := s.files }) := by
    rw [hi, Run.command, Run.commandBy, h]
    rfl
  rw [run, if_neg hneeds, hcommand]
  rfl

/-- For labels that are refused there is a complaint about them, and nothing else happens. -/
lemma run_fingerprint_of_error (hi : i.command = .fingerprint texts)
    (h : LabelSet.parse texts = .error f) (s : Surroundings) :
    i.run s = { files := s.files, complaint := some [f.message] } := by
  have hneeds : ¬ i.needsConfig := by simp [needsConfig, hi]
  have hcommand : (Run.command s.clock {} i.output i.command).run.run { files := s.files }
      = (.error [f.message], { files := s.files }) := by
    rw [hi, Run.command, Run.commandBy, h]
    rfl
  rw [run, if_neg hneeds, hcommand]
  rfl

end Invocation

/-! ### The two ways to the same alert -/

namespace LabelSet

/-- **Written labels name the alert that labels in JSON name.** A text is read as a label just if
there is an equals sign and before the first one something that is not blank; the name is then what
is before it, without the blanks around it, and the value all that comes after it. So a name without
an equals sign and without blanks around it is read back with any value.

A list of labels is refused just if one of them is. The program then complains of it and does
nothing else. If all are read, it prints the fingerprint of the label set in which each name has its
last value, as such or as a JSON value with the labels, and does nothing else. This is the
fingerprint that JSON labels have with the same last values, and an operation that is read with
such labels for its alert is about that fingerprint, as is all that a trail records of it. -/
theorem written_labels_name_alert :
    (∀ text, (∃ p, parsePair text = .ok p)
      ↔ '=' ∈ text.toList ∧ ∃ c ∈ beforeEquals text, Text.isBlank c = false)
    ∧ (∀ text p, parsePair text = .ok p →
      (text = String.ofList (beforeEquals text) ++ "=" ++ String.ofList (afterEquals text)
        ∧ '=' ∉ beforeEquals text)
      ∧ p = (Text.trim (String.ofList (beforeEquals text)), String.ofList (afterEquals text)))
    ∧ (∀ name value, IsName name → parsePair (name ++ "=" ++ value) = .ok (name, value))
    ∧ ∀ texts,
      ((∃ f, parse texts = .error f) ↔ ∃ text ∈ texts, ∃ f, parsePair text = .error f)
      ∧ (∀ f, parse texts = .error f → ∀ (i : Invocation) (s : Surroundings),
        i.command = .fingerprint texts →
          i.run s = { files := s.files, complaint := some [f.message] })
      ∧ ∀ pairs, List.Forall₂ (fun text p => parsePair text = .ok p) texts pairs →
        let l := ofList pairs
        (∀ name, l.get? name = SortedMap.lastValue? pairs name)
        ∧ (∀ (i : Invocation) (s : Surroundings), i.command = .fingerprint texts →
          (i.run s).exitCode = 0 ∧ i.run s =
            { files := s.files
              lines := match i.output with
                | .table => [l.fingerprint.render]
                | .json => [(Value.object
                    [("fingerprint", l.fingerprint.toJson), ("labels", l.toJson)]).pretty] })
        ∧ ∀ pairs',
          (∀ name, SortedMap.lastValue? pairs' name = SortedMap.lastValue? pairs name) →
          (∃ ref, AlertRef.ofJson? (objectOf pairs') = some ref ∧ ref.resolve = l.fingerprint)
          ∧ ∀ line v op, Value.parse? line = some v → NamedIn pairs' v →
            Operation.decode? line = some op →
            (∀ alert ∈ op.alert?, alert = l.fingerprint)
            ∧ ∀ (σ : Type) [Authority σ] (a : σ), ∀ e ∈ ((Trail.decide op).run a).1,
              e.alert = l.fingerprint := by
  refine ⟨?_, ?_, ?_, ?_⟩
  · intro text
    have hblank : (¬ (beforeEquals text).all Text.isBlank)
        ↔ ∃ c ∈ beforeEquals text, Text.isBlank c = false := by simp
    rw [parsePair_eq, ← hblank]
    split_ifs with h
    · exact iff_of_true ⟨_, rfl⟩ h
    · refine iff_of_false ?_ h
      rintro ⟨p, ⟨⟩⟩
  · intro text p hp
    rw [parsePair_eq] at hp
    split_ifs at hp with h
    exact ⟨eq_append h.1, (Except.ok.inj hp).symm⟩
  · intro name value hname
    exact parsePair_append hname value
  · intro texts
    refine ⟨exists_parse_eq_error_iff, ?_, ?_⟩
    · intro f hf i s hi
      exact Invocation.run_fingerprint_of_error hi hf s
    · intro pairs hpairs l
      have hparse : parse texts = .ok l := parse_eq_ok_iff.mpr ⟨pairs, hpairs, rfl⟩
      refine ⟨get?_ofList pairs, ?_, ?_⟩
      · intro i s hi
        rw [Invocation.run_fingerprint_of_ok hi hparse s]
        refine ⟨rfl, ?_⟩
        cases i.output <;> rfl
      · intro pairs' hsame
        have hl : ofList pairs' = l := ofList_congr hsame
        refine ⟨⟨_, AlertRef.ofJson?_objectOf pairs', by rw [hl]; rfl⟩, ?_⟩
        intro line v op hv hnamed hop
        rw [Operation.decode?, hv, Option.bind_some] at hop
        have halert : ∀ alert ∈ op.alert?, alert = l.fingerprint := by
          rw [← hl]
          exact hnamed.alert_eq hop
        refine ⟨halert, ?_⟩
        intro σ _ a e he
        exact halert e.alert (Trail.alert_of_decide he)

/-- Three written labels of which two have the same name. -/
def writtenLabels : List String := ["\u2003job =api", "alertname=HighLatency", "job=a=b "]

/-- The labels as they are read. -/
def readLabels : List (String × String) :=
  [("job", "api"), ("alertname", "HighLatency"), ("job", "a=b ")]

/-- The members of an operation on the alert with these labels. -/
def labelledDeletion : List (String × Value) :=
  [("alert", objectOf [("job", "a=b "), ("alertname", "HighLatency")]), ("op", .string "delete")]

/-- A call with three labels prints the fingerprint of the alert that is deleted with two. -/
theorem written_labels_name_alert_deletion :
    let i : Invocation := { command := .fingerprint writtenLabels }
    let s : Surroundings := { files := {}, clock := fun i => { id := .ofNat i, now := 0 } }
    let l := ofList readLabels
    parsePair ("job" ++ "=" ++ "a=b ") = .ok ("job", "a=b ")
      ∧ (i.run s).lines = [l.fingerprint.render] ∧ (i.run s).exitCode = 0
      ∧ ∀ alert ∈ (Operation.delete (.labels l)).alert?, alert = l.fingerprint := by
  intro i s l
  obtain ⟨-, -, happend, hlist⟩ := written_labels_name_alert
  have hname : IsName "job" := ⟨by decide, by decide, by rintro _ ⟨⟩; rfl, by rintro _ ⟨⟩; rfl⟩
  have hpairs : List.Forall₂ (fun text p => parsePair text = .ok p) writtenLabels readLabels :=
    .cons (by decide) (.cons (by decide) (.cons (by decide) .nil))
  have hsame : ∀ name, SortedMap.lastValue? [("job", "a=b "), ("alertname", "HighLatency")] name
      = SortedMap.lastValue? readLabels name := by
    intro name
    simp only [readLabels, SortedMap.lastValue?_cons]
    by_cases hjob : name = "job"
    · subst hjob
      decide
    · simp [hjob]
  have hreadable : (Value.object labelledDeletion).Readable Json.maxDepth := by
    rw [Json.maxDepth, Value.Readable]
    exact List.forall_mem_cons.mpr ⟨readable_objectOf 125 _,
      List.forall_mem_cons.mpr ⟨Value.readable_string _ _, List.forall_mem_nil _⟩⟩
  have hparse := Value.parse?_render hreadable
  have hop : Operation.decode? (Text.encode (Value.object labelledDeletion).render)
      = some (.delete (.labels l)) := by
    rw [Operation.decode?, hparse]
    decide
  obtain ⟨-, -, hread⟩ := hlist writtenLabels
  obtain ⟨-, hrun, hjson⟩ := hread readLabels hpairs
  obtain ⟨hexit, hrun⟩ := hrun i s rfl
  obtain ⟨halert, -⟩ := (hjson _ hsame).2 _ _ _ hparse (.object List.mem_cons_self) hop
  refine ⟨happend _ _ hname, ?_, hexit, halert⟩
  rw [hrun]

end LabelSet

end AlertLedger
