/-
# The bytes of a label set

The byte stream under the fingerprint of a label set tells all labels: no byte of a UTF-8 form is
the separator, so each name and each value can be cut off again at the first separator
(`LabelSet.bytes_injective`). Two label sets with the same fingerprint are then the same, or they
are a collision of the hash.

A label set forgets the order in which its labels came. It can be built by adding one pair after the
other, by sorting the pairs, and from a JSON object, and each way the last value of a name counts.
The main result is `LabelSet.stream_unambiguous`.
-/
import AlertLedger.Proofs.Encoding.Operation
import AlertLedger.Proofs.SortedMap.OfList
import AlertLedger.Proofs.Text.Utf8

namespace AlertLedger

/-! ### The hash, part by part -/

namespace Fnv1a

lemma extend_append (hash : UInt64) (bytes bytes' : List UInt8) :
    extend hash (bytes ++ bytes') = extend (extend hash bytes) bytes' := List.foldl_append

/-- Takes a label into a hash: its name, a separator, its value and another separator. -/
def extendLabel (hash : UInt64) (p : String × String) : UInt64 :=
  extend (extend (extend (extend hash (Text.encode p.1)) [LabelSet.separator]) (Text.encode p.2))
    [LabelSet.separator]

lemma extend_labelBytes (hash : UInt64) (p : String × String) :
    extend hash (LabelSet.labelBytes p) = extendLabel hash p := by
  rw [LabelSet.labelBytes, List.append_cons, extend_append, extend_append, extend_append,
    extendLabel]

lemma extend_flatMap_labelBytes (hash : UInt64) (labels : List (String × String)) :
    extend hash (labels.flatMap LabelSet.labelBytes) = labels.foldl extendLabel hash := by
  induction labels generalizing hash with
  | nil => rfl
  | cons p labels ih =>
    rw [List.flatMap_cons, extend_append, extend_labelBytes, ih, List.foldl_cons]

end Fnv1a

namespace LabelSet

open Json (Value)

/-! ### The stream taken apart -/

/-- The separator is in no text. -/
lemma separator_notMem (s : String) : separator ∉ Text.encode s := by
  intro h
  obtain ⟨c, -, hc⟩ := List.mem_flatMap.mp h
  exact absurd (Text.lt_of_mem_encodeChar hc) (by decide)

/-- What ends at a separator is told by what is before the first one. -/
lemma append_separator_inj {a b x y : List UInt8} (ha : separator ∉ a) (hb : separator ∉ b)
    (h : a ++ separator :: x = b ++ separator :: y) : a = b ∧ x = y := by
  induction a generalizing b with
  | nil =>
    cases b with
    | nil => exact ⟨rfl, (List.cons.inj h).2⟩
    | cons d b => exact absurd (List.mem_of_mem_head? (congrArg some (List.cons.inj h).1.symm)) hb
  | cons c a ih =>
    cases b with
    | nil => exact absurd (List.mem_of_mem_head? (congrArg some (List.cons.inj h).1)) ha
    | cons d b =>
      obtain ⟨hcd, hrest⟩ := List.cons.inj h
      obtain ⟨hab, hxy⟩ := ih (List.not_mem_of_not_mem_cons ha) (List.not_mem_of_not_mem_cons hb)
        hrest
      exact ⟨by rw [hcd, hab], hxy⟩

/-- The first label of a stream is known, and what follows it. -/
lemma labelBytes_append_inj {p q : String × String} {x y : List UInt8}
    (h : labelBytes p ++ x = labelBytes q ++ y) : p = q ∧ x = y := by
  simp only [labelBytes, List.append_assoc, List.cons_append, List.nil_append] at h
  obtain ⟨hname, hrest⟩ := append_separator_inj (separator_notMem _) (separator_notMem _) h
  obtain ⟨hvalue, hxy⟩ := append_separator_inj (separator_notMem _) (separator_notMem _) hrest
  exact ⟨Prod.ext (Text.encode_injective hname) (Text.encode_injective hvalue), hxy⟩

lemma labelBytes_ne_nil (p : String × String) : labelBytes p ≠ [] := by
  simp [labelBytes]

lemma flatMap_labelBytes_injective :
    Function.Injective fun labels : List (String × String) => labels.flatMap labelBytes := by
  intro labels labels' h
  induction labels generalizing labels' with
  | nil =>
    cases labels' with
    | nil => rfl
    | cons q labels' => exact absurd (List.append_eq_nil_iff.mp h.symm).1 (labelBytes_ne_nil q)
  | cons p labels ih =>
    cases labels' with
    | nil => exact absurd (List.append_eq_nil_iff.mp h).1 (labelBytes_ne_nil p)
    | cons q labels' =>
      obtain ⟨hpq, hrest⟩ := labelBytes_append_inj h
      rw [hpq, ih hrest]

/-- **The byte stream of a label set tells its labels.** -/
theorem bytes_injective : Function.Injective bytes := by
  intro l l' h
  have hlabels : l.toList = l'.toList := flatMap_labelBytes_injective h
  rw [← l.ofList_toList, hlabels, ofList_toList]

/-- The labels ascend by the bytes of their names. -/
lemma ascending_toList (l : LabelSet) :
    l.toList.Pairwise fun p q => Text.encode p.1 < Text.encode q.1 := by
  refine l.labels.sorted.imp ?_
  intro p q hpq
  exact Text.encode_lt_encode (compareOfLessAndEq_eq_lt.mp hpq)

/-! ### Ways to build a label set -/

/-- The label set of a list of labels, made by sorting them. -/
def collect (pairs : List (String × String)) : LabelSet := ⟨.collect pairs⟩

lemma ofList_eq (pairs : List (String × String)) : ofList pairs = ⟨.ofList pairs⟩ :=
  congrArg mk (labels_ofList pairs)

lemma collect_eq_ofList (pairs : List (String × String)) : collect pairs = ofList pairs := by
  rw [collect, SortedMap.collect_eq_ofList, ofList_eq]

/-- A name has the value that it was given last. -/
lemma get?_ofList (pairs : List (String × String)) (name : String) :
    (ofList pairs).get? name = SortedMap.lastValue? pairs name := by
  rw [ofList_eq, get?, SortedMap.find?_ofList]

lemma ofList_congr {pairs pairs' : List (String × String)}
    (h : ∀ name, SortedMap.lastValue? pairs name = SortedMap.lastValue? pairs' name) :
    ofList pairs = ofList pairs' := by
  rw [ofList_eq, ofList_eq, SortedMap.ofList_congr h]

/-- The object of a list of labels is read as their label set, as a text, too. -/
lemma bind_ofJson?_objectOf (pairs : List (String × String)) :
    (Value.parse? (Text.encode (objectOf pairs).render)).bind AlertRef.ofJson?
      = some (.labels (ofList pairs)) := by
  rw [Value.parse?_render (readable_objectOf 126 pairs), Option.bind_some,
    AlertRef.ofJson?_objectOf]

/-- **The bytes under a fingerprint are unambiguous and know no order.** The fingerprint of a label
set is the FNV-1a hash, from the offset basis, of its labels in ascending order of their names, each
as name, separator, value, separator, no matter whether the hash runs over the whole stream or part
by part. Label sets with the same stream are the same, so different ones with the same fingerprint
are a collision of the hash. From a list of pairs there is the same label set by adding one after
the other, by sorting, and by reading an object. It has under each name the last value of the name
and depends on nothing else, and so pairs with distinct names may come in any order. -/
theorem stream_unambiguous (l l' : LabelSet) (pairs pairs' : List (String × String)) :
    (l.toList.Pairwise (fun p q => Text.encode p.1 < Text.encode q.1)
      ∧ (∀ name value, (name, value) ∈ l.toList ↔ l.get? name = some value)
      ∧ l.bytes = l.toList.flatMap fun p =>
          Text.encode p.1 ++ 0xff :: (Text.encode p.2 ++ [0xff]))
    ∧ (l.fingerprint.bits = Fnv1a.extend Fnv1a.offsetBasis l.bytes
      ∧ l.fingerprint.bits = l.toList.foldl Fnv1a.extendLabel Fnv1a.offsetBasis)
    ∧ (l.bytes = l'.bytes → l = l')
    ∧ (l.fingerprint = l'.fingerprint → l = l' ∨ l.bytes ≠ l'.bytes
      ∧ Fnv1a.extend Fnv1a.offsetBasis l.bytes = Fnv1a.extend Fnv1a.offsetBasis l'.bytes)
    ∧ (pairs.foldl (fun l p => l.insert p.1 p.2) empty = ofList pairs
      ∧ collect pairs = ofList pairs
      ∧ ofJson? (objectOf pairs) = some (ofList pairs)
      ∧ (Value.parse? (Text.encode (objectOf pairs).render)).bind AlertRef.ofJson?
          = some (.labels (ofList pairs)))
    ∧ (∀ name, (ofList pairs).get? name = SortedMap.lastValue? pairs name)
    ∧ (ofList pairs = ofList pairs'
      ↔ ∀ name, SortedMap.lastValue? pairs name = SortedMap.lastValue? pairs' name)
    ∧ (pairs.Perm pairs' → (pairs.map (·.1)).Nodup →
      (ofList pairs).fingerprint = (ofList pairs').fingerprint) := by
  refine ⟨⟨l.ascending_toList, ?_, rfl⟩, ⟨rfl, ?_⟩, ?_, ?_, ?_, get?_ofList pairs, ?_, ?_⟩
  · intro name value
    exact SortedMap.mem_entries_iff
  · exact Fnv1a.extend_flatMap_labelBytes _ _
  · intro hbytes
    exact bytes_injective hbytes
  · intro hfingerprint
    by_cases hl : l = l'
    · exact .inl hl
    · exact .inr ⟨bytes_injective.ne hl, congrArg Fingerprint.bits hfingerprint⟩
  · exact ⟨rfl, collect_eq_ofList pairs, ofJson?_objectOf pairs, bind_ofJson?_objectOf pairs⟩
  · constructor
    · intro heq name
      rw [← get?_ofList, heq, get?_ofList]
    · exact ofList_congr
  · intro hperm hnames
    rw [ofList_eq, ofList_eq, SortedMap.ofList_perm hperm hnames]

/-- Two labels, given in either order. -/
theorem stream_unambiguous_twoLabels :
    let pairs := [("alertname", "HighLatency"), ("job", "api")]
    let pairs' := [("job", "api"), ("alertname", "HighLatency")]
    pairs.Perm pairs' ∧ (pairs.map (·.1)).Nodup
      ∧ (ofList pairs).fingerprint = (ofList pairs').fingerprint
      ∧ (ofList pairs).bytes = (ofList pairs').bytes ∧ ofList pairs = ofList pairs' := by
  intro pairs pairs'
  have hperm : pairs.Perm pairs' := List.Perm.swap _ _ []
  have hnames : (pairs.map (·.1)).Nodup := by decide
  have hbytes : (ofList pairs).bytes = (ofList pairs').bytes := by decide
  obtain ⟨-, -, hstream, -, -, -, -, hany⟩ :=
    stream_unambiguous (ofList pairs) (ofList pairs') pairs pairs'
  exact ⟨hperm, hnames, hany hperm hnames, hbytes, hstream hbytes⟩

end LabelSet

end AlertLedger
