/-
# Members of objects

An array or object is read if what it holds is read, one level deeper (`Json.parse?_eq_object_iff`).
What a record takes of the members of an object is a matter of their names: the fields are picked if
none of them comes twice (`Json.pickFields?_eq_some_iff`), and then the value of a field depends
neither on the order of the members nor on those that are no fields.
-/
import AlertLedger.Proofs.Json.Value
import AlertLedger.Proofs.SortedMap.OfList

namespace AlertLedger.Json

/-! ### Arrays and objects as they are written -/

/-- A text with an object of these members: each name is text and each value can be read below it.
-/
def WritesObject (text : List UInt8) (ms : List (String × Value)) : Prop :=
  ∃ written, Written.parse? text = some (.object written) ∧
    List.Forall₂ (fun (w : List UInt8 × Written) m =>
      stringOfBody? w.1 = some m.1 ∧ w.2.value? (maxDepth - 1) = some m.2) written ms

lemma maxDepth_eq : maxDepth = maxDepth - 1 + 1 := rfl

/-- A member is read once its name and its value are. -/
lemma readMember?_eq_some_iff {w : List UInt8 × Written} {m : String × Value} :
    (do
        let key ← stringOfBody? w.1
        let v ← w.2.value? (maxDepth - 1)
        return (key, v)) = some m
      ↔ stringOfBody? w.1 = some m.1 ∧ w.2.value? (maxDepth - 1) = some m.2 := by
  cases stringOfBody? w.1 <;> cases w.2.value? (maxDepth - 1) <;> simp [Prod.ext_iff]

variable {text : List UInt8}

/-- A number is read as a number. -/
lemma isNumber_of_value? {n : Number} {depth : Nat} {v : Value}
    (h : (Written.number n).value? depth = some v) : v = .otherNumber ∨ ∃ k, v = .natural k := by
  rw [Written.value?] at h
  split at h
  case h_1 k _ => exact .inr ⟨k, (Option.some.inj h).symm⟩
  case h_2 =>
    split_ifs at h
    exact .inl (Option.some.inj h).symm

/-- An object is read if each of its names is, and each of its values, one level below it. -/
lemma parse?_eq_object_iff {ms : List (String × Value)} :
    Value.parse? text = some (.object ms) ↔ WritesObject text ms := by
  rw [Value.parse?, Option.bind_eq_some_iff, WritesObject]
  simp only [← readMember?_eq_some_iff, ← Value.mapM_eq_some_iff]
  constructor
  · rintro ⟨w, hparse, hw⟩
    cases w with
    | object written =>
      rw [maxDepth_eq, Written.value?] at hw
      obtain ⟨_, hms, ⟨⟩⟩ := Option.map_eq_some_iff.mp hw
      exact ⟨written, hparse, hms⟩
    | number => obtain ⟨⟨⟩⟩ | ⟨_, ⟨⟩⟩ := isNumber_of_value? hw
    | null | bool | string | array =>
      rw [maxDepth_eq, Written.value?] at hw
      simp at hw
  · rintro ⟨written, hparse, hms⟩
    refine ⟨_, hparse, ?_⟩
    rw [maxDepth_eq, Written.value?, hms, Option.map_some]

/-! ### Members by name -/

section

variable {α : Type _} {ms ms' : List (String × α)} {name : String}

lemma lookup_eq_filter (ms : List (String × α)) (name : String) :
    ms.lookup name = ((ms.filter (·.1 == name)).head?).map (·.2) := by
  induction ms with
  | nil => rfl
  | cons m ms ih =>
    obtain ⟨key, v⟩ := m
    rw [List.lookup_cons, List.filter_cons, ih, Bool.beq_comm (a := name)]
    cases key == name <;> rfl

lemma mem_of_lookup {v : α} (h : ms.lookup name = some v) : (name, v) ∈ ms := by
  obtain ⟨before, after, rfl, -⟩ := List.lookup_eq_some_iff.mp h
  simp

/-- A name that is kept comes as often among the members that are kept. -/
lemma sameName_kept {names : List String} (hname : name ∈ names) (m : String × α) :
    (m.1 == name && names.contains m.1) = (m.1 == name) := by
  by_cases hm : m.1 = name
  · simp [hm, hname]
  · simp [hm]

lemma lookup_kept {names : List String} (hname : name ∈ names) (ms : List (String × α)) :
    (ms.filter fun m => names.contains m.1).lookup name = ms.lookup name := by
  rw [lookup_eq_filter, lookup_eq_filter, List.filter_filter,
    List.filter_congr fun m _ => sameName_kept hname m]

/-- The names that are kept are all different if none of them comes twice. -/
lemma nodup_kept_iff {names : List String} {ms : List (String × α)} :
    ((ms.filter fun m => names.contains m.1).map (·.1)).Nodup
      ↔ ∀ name ∈ names, ms.countP (·.1 == name) ≤ 1 := by
  have hcount (name : String) : ((ms.filter fun m => names.contains m.1).map (·.1)).count name
      = ms.countP fun m => m.1 == name && names.contains m.1 := by
    rw [List.count, List.countP_map, List.countP_filter]
    rfl
  simp only [List.nodup_iff_count_le_one, hcount]
  constructor
  · intro h name hname
    have hone := h name
    rwa [List.countP_congr fun m _ => by rw [sameName_kept hname m]] at hone
  · intro h name
    by_cases hname : name ∈ names
    · rw [List.countP_congr fun m _ => by rw [sameName_kept hname m]]
      exact h name hname
    · rw [List.countP_eq_zero.mpr]
      · exact Nat.zero_le 1
      · intro m _
        by_cases hm : m.1 = name <;> simp [hm, hname]

lemma pickFields?_eq_some_iff {fields : List String} {given : List (String × α)} :
    pickFields? fields false ms = some given
      ↔ (∀ f ∈ fields, ms.countP (·.1 == f) ≤ 1)
        ∧ ms.filter (fun m => fields.contains m.1) = given := by
  rw [pickFields?, ← nodup_kept_iff]
  simp

end

end AlertLedger.Json
