/-
# Sorted maps from lists of pairs

A map that is built from pairs has under each key the value of the last pair with that key
(`SortedMap.find?_ofList`), so it depends on the pairs only through these values, and pairs with
distinct keys may come in any order (`SortedMap.ofList_perm`).

There is a second way to the same map, without inserting anything: to sort the pairs by key, so that
pairs with the same key keep their order, and then to leave out each pair that is followed by
another one with its key. Sorting does not change which pair of a key is the last one, and in a
sorted list the pairs of a key stand together, so this gives the same map
(`SortedMap.collect_eq_ofList`).
-/
import AlertLedger.Proofs.SortedMap
import Mathlib.Data.List.Induction

namespace AlertLedger.SortedMap

variable {κ ν : Type _} [Ord κ] [Std.TransOrd κ] [Std.LawfulEqOrd κ] [DecidableEq κ]

/-! ### The last value of a key -/

/-- The value that comes last for a key. -/
def lastValue? (pairs : List (κ × ν)) (k : κ) : Option ν :=
  ((pairs.filter (·.1 = k)).getLast?).map (·.2)

omit [Ord κ] [Std.TransOrd κ] [Std.LawfulEqOrd κ] in
lemma lastValue?_concat (pairs : List (κ × ν)) (e : κ × ν) (k : κ) :
    lastValue? (pairs ++ [e]) k = if k = e.1 then some e.2 else lastValue? pairs k := by
  rw [lastValue?, List.filter_append, List.filter_singleton]
  split_ifs with hk
  · simp [hk]
  · simp [lastValue?, Ne.symm hk]

omit [Ord κ] [Std.TransOrd κ] [Std.LawfulEqOrd κ] in
lemma lastValue?_cons (e : κ × ν) (pairs : List (κ × ν)) (k : κ) :
    lastValue? (e :: pairs) k = (lastValue? pairs k).or (if k = e.1 then some e.2 else none) := by
  rw [lastValue?, List.filter_cons, lastValue?]
  split_ifs with h hk hk
  · rw [List.getLast?_cons]
    cases (pairs.filter (·.1 = k)).getLast? <;> rfl
  · exact absurd (of_decide_eq_true h).symm hk
  · exact absurd (decide_eq_true hk.symm) h
  · rw [Option.or_none]

/-- **The last value of a key counts.** -/
theorem find?_ofList (pairs : List (κ × ν)) (k : κ) :
    (ofList pairs).find? k = lastValue? pairs k := by
  induction pairs using List.reverseRecOn with
  | nil => rfl
  | append_singleton pairs e ih =>
    rw [ofList, List.foldl_append, List.foldl_cons, List.foldl_nil, find?_insert, ← ofList, ih,
      lastValue?_concat]

lemma ofList_congr {pairs pairs' : List (κ × ν)}
    (h : ∀ k, lastValue? pairs k = lastValue? pairs' k) : ofList pairs = ofList pairs' := by
  refine ext_find? ?_
  intro k
  rw [find?_ofList, find?_ofList, h]

/-- What a list has at most once it has in any order of it. -/
lemma filter_eq_of_perm {α : Type _} {l l' : List α} {p : α → Bool} (h : l.Perm l')
    (hp : l.countP p ≤ 1) : l.filter p = l'.filter p := by
  have hperm := h.filter p
  rw [List.countP_eq_length_filter] at hp
  rcases hf : l.filter p with _ | ⟨e, _ | ⟨e', rest⟩⟩
  · rw [hf] at hperm
    exact hperm.nil_eq
  · rw [hf] at hperm
    rw [List.singleton_perm.mp hperm]
  · rw [hf] at hp
    simp at hp

omit [Ord κ] [Std.TransOrd κ] [Std.LawfulEqOrd κ] in
/-- If no key comes twice, the order of the pairs does not count. -/
lemma lastValue?_perm {pairs pairs' : List (κ × ν)} (h : pairs.Perm pairs')
    (hkeys : (pairs.map (·.1)).Nodup) (k : κ) : lastValue? pairs k = lastValue? pairs' k := by
  have hone : pairs.countP (·.1 = k) ≤ 1 := by
    have hcount := List.nodup_iff_count_le_one.mp hkeys k
    rw [List.count, List.countP_map] at hcount
    exact hcount
  rw [lastValue?, lastValue?, filter_eq_of_perm h hone]

/-- **Pairs with distinct keys may come in any order.** -/
theorem ofList_perm {pairs pairs' : List (κ × ν)} (h : pairs.Perm pairs')
    (hkeys : (pairs.map (·.1)).Nodup) : ofList pairs = ofList pairs' :=
  ofList_congr (lastValue?_perm h hkeys)

/-! ### Sorting -/

/-- Whether a pair may stand before another one. -/
def keyLE (a b : κ × ν) : Bool := (compare a.1 b.1).isLE

/-- The pairs that are not followed at once by a pair with the same key. -/
def dropOvertaken : List (κ × ν) → List (κ × ν)
  | [] => []
  | e :: rest =>
    if rest.head?.any (·.1 = e.1) then dropOvertaken rest else e :: dropOvertaken rest

omit [Ord κ] [Std.TransOrd κ] [Std.LawfulEqOrd κ] in
lemma dropOvertaken_sublist (l : List (κ × ν)) : (dropOvertaken l).Sublist l := by
  induction l with
  | nil => exact .refl _
  | cons e l ih =>
    unfold dropOvertaken
    split_ifs
    · exact ih.cons e
    · exact ih.cons_cons e

section

variable {e : κ × ν} {l : List (κ × ν)}

/-- In a sorted list a pair that stays has a smaller key than all that follow. -/
lemma lt_of_not_overtaken (hs : (e :: l).Pairwise (keyLE · ·))
    (hstays : ¬ l.head?.any (·.1 = e.1)) : ∀ e' ∈ l, compare e.1 e'.1 = .lt := by
  cases l with
  | nil => simp
  | cons f l =>
    obtain ⟨he, hl⟩ := List.pairwise_cons.mp hs
    have hef : compare e.1 f.1 = .lt := by
      have hle : (compare e.1 f.1).isLE := he f List.mem_cons_self
      have hne : compare e.1 f.1 ≠ .eq := by
        intro heq
        have hkey : e.1 = f.1 := Std.LawfulEqOrd.eq_of_compare heq
        simp [hkey] at hstays
      cases hcmp : compare e.1 f.1 <;> simp_all
    intro e' he'
    rcases List.mem_cons.mp he' with rfl | he'
    · exact hef
    · exact Std.TransCmp.lt_of_lt_of_isLE hef ((List.pairwise_cons.mp hl).1 e' he')

lemma ascending_dropOvertaken (hs : l.Pairwise (keyLE · ·)) :
    (dropOvertaken l).Pairwise fun a b => compare a.1 b.1 = .lt := by
  induction l with
  | nil => exact .nil
  | cons e l ih =>
    have hl := ih (List.pairwise_cons.mp hs).2
    unfold dropOvertaken
    split_ifs with hstays
    · exact hl
    · refine List.pairwise_cons.mpr ⟨?_, hl⟩
      intro e' he'
      exact lt_of_not_overtaken hs hstays e' ((dropOvertaken_sublist l).subset he')

/-- What stays of a sorted list are the last pairs of their keys. -/
lemma findEntry?_dropOvertaken (hs : l.Pairwise (keyLE · ·)) (k : κ) :
    findEntry? k (dropOvertaken l) = lastValue? l k := by
  induction l with
  | nil => rfl
  | cons e l ih =>
    have hl := ih (List.pairwise_cons.mp hs).2
    rw [lastValue?_cons]
    unfold dropOvertaken
    split_ifs with hover hk hk
    · -- The pair that follows has the key, too.
      obtain ⟨f, hf, hfe⟩ := (Option.any_eq_true _ _).mp hover
      obtain ⟨l', rfl⟩ : ∃ l', l = f :: l' := ⟨l.tail, List.eq_cons_of_mem_head? hf⟩
      have hfk : k = f.1 := hk.trans (of_decide_eq_true hfe).symm
      rw [hl, lastValue?_cons, if_pos hfk]
      cases lastValue? l' k <;> rfl
    · rw [hl, Option.or_none]
    · -- No pair that follows has the key.
      have hnone : lastValue? l k = none := by
        rw [lastValue?, List.filter_eq_nil_iff.mpr]
        · rfl
        · intro e' he' hk'
          have hlt := lt_of_not_overtaken hs hover e' he'
          rw [of_decide_eq_true hk', hk, Std.compare_self] at hlt
          cases hlt
      rw [hnone, Option.none_or, hk, findEntry?, if_pos Std.compare_self]
    · have hne : ¬ compare k e.1 = .eq := fun heq => hk (Std.LawfulEqOrd.eq_of_compare heq)
      rw [ findEntry?, if_neg hne, hl, Option.or_none]

end

/-- The pairs sorted by key, of each key the last one. -/
def sortedLast (pairs : List (κ × ν)) : List (κ × ν) :=
  dropOvertaken (pairs.mergeSort keyLE)

omit [Std.LawfulEqOrd κ] [DecidableEq κ] in
lemma keyLE_trans (a b c : κ × ν) (hab : keyLE a b) (hbc : keyLE b c) : keyLE a c :=
  Std.TransCmp.isLE_trans hab hbc

omit [Std.LawfulEqOrd κ] [DecidableEq κ] in
lemma keyLE_total (a b : κ × ν) : keyLE a b || keyLE b a := by
  rw [keyLE, keyLE, @Std.OrientedCmp.eq_swap κ compare _ b.1 a.1]
  cases compare a.1 b.1 <;> rfl

/-- Sorting moves pairs, but not those of one key among themselves. -/
lemma lastValue?_mergeSort (pairs : List (κ × ν)) (k : κ) :
    lastValue? (pairs.mergeSort keyLE) k = lastValue? pairs k := by
  have hsame : (pairs.filter (·.1 = k)).Pairwise (keyLE · ·) := by
    refine List.pairwise_of_forall_mem_list ?_
    intro a ha b hb
    have hab : a.1 = b.1 :=
      (of_decide_eq_true (List.mem_filter.mp ha).2).trans
        (of_decide_eq_true (List.mem_filter.mp hb).2).symm
    rw [keyLE, hab, Std.compare_self]
    rfl
  have hsub := (List.sublist_mergeSort keyLE_trans keyLE_total hsame List.filter_sublist).filter
    (·.1 = k)
  rw [List.filter_filter] at hsub
  simp only [Bool.and_self] at hsub
  have hlength := ((List.mergeSort_perm pairs keyLE).filter (·.1 = k)).length_eq
  rw [lastValue?, lastValue?, hsub.eq_of_length hlength.symm]

/-- The map of a list of pairs, made by sorting them. -/
def collect (pairs : List (κ × ν)) : SortedMap κ ν :=
  ⟨sortedLast pairs,
    ascending_dropOvertaken (List.pairwise_mergeSort keyLE_trans keyLE_total pairs)⟩

/-- **Sorting gives the map that inserting gives.** -/
theorem collect_eq_ofList (pairs : List (κ × ν)) : collect pairs = ofList pairs := by
  refine ext_find? ?_
  intro k
  rw [find?_ofList, ← lastValue?_mergeSort]
  exact findEntry?_dropOvertaken (List.pairwise_mergeSort keyLE_trans keyLE_total pairs) k

end AlertLedger.SortedMap
