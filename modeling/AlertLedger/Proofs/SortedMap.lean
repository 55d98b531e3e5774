/-
# Looking up in sorted maps

What a sorted map holds under a key after an insertion or an erasure, and that repeating either
on the same key changes nothing more. The order of the entries plays no part there: the look-up
compares keys, and distinct keys never compare as equal.

The keys ascend, so a list of keys is known by its members. Whatever is made of the keys one by one,
two lists of ascending keys give the same if they have the same keys among those that give anything
(`filterMap_eq_of_ascending`). So a map is known by its look-ups (`ext_find?`), and one whose
entries another map has, too, is a part of that one, in order (`sublist_entries`).

The order does count for the entries with a certain kind of key, in a part of the map as it were:
a new key that is larger than all keys of its kind comes last among them
(`filter_insertEntry_of_last`), and one of another kind leaves them alone.
-/
import AlertLedger.SortedMap
import Mathlib.Algebra.GroupWithZero.Nat
import Mathlib.Data.List.Sort
import Mathlib.Tactic.SplitIfs

namespace AlertLedger.SortedMap

variable {κ ν : Type _} [Ord κ] [Std.LawfulEqOrd κ]

/-! ### Look-ups -/

lemma findEntry?_insertEntry [DecidableEq κ] (k k' : κ) (x : ν) (l : List (κ × ν)) :
    findEntry? k' (insertEntry k x l) = if k' = k then some x else findEntry? k' l := by
  induction l with
  | nil => simp [insertEntry, findEntry?]
  | cons e l ih =>
    obtain ⟨j, y⟩ := e
    unfold insertEntry
    split
    case h_1 => simp [ findEntry?]
    case h_2 heq =>
      obtain rfl := Std.LawfulEqOrd.eq_of_compare heq
      by_cases hk : k' = k <;> simp [ findEntry?, hk]
    case h_3 hgt =>
      have hne : k ≠ j := by
        rintro rfl
        simp at hgt
      by_cases hk : k' = k
      · subst hk
        simp [ findEntry?, hne, ih]
      · simp [ findEntry?, ih, hk]

lemma find?_insert [Std.TransOrd κ] [DecidableEq κ] (m : SortedMap κ ν) (k k' : κ) (x : ν) :
    (m.insert k x).find? k' = if k' = k then some x else m.find? k' :=
  findEntry?_insertEntry k k' x m.entries

lemma find?_alter [Std.TransOrd κ] [DecidableEq κ] (m : SortedMap κ ν) (k k' : κ)
    (f : Option ν → ν) :
    (m.alter k f).find? k' = if k' = k then some (f (m.find? k)) else m.find? k' :=
  m.find?_insert k k' (f (m.find? k))

lemma findEntry?_filter_ne [DecidableEq κ] (k k' : κ) (l : List (κ × ν)) :
    findEntry? k' (l.filter fun e => compare k e.1 != .eq)
      = if k' = k then none else findEntry? k' l := by
  induction l with
  | nil => simp [ findEntry?]
  | cons e l ih =>
    obtain ⟨j, y⟩ := e
    by_cases hj : k = j
    · subst hj
      by_cases hk : k' = k
      · subst hk
        simpa using ih
      · simpa [ findEntry?, hk] using ih
    · by_cases hk : k' = j
      · subst hk
        simp [ findEntry?, hj, Ne.symm hj]
      · simp [ findEntry?, ih, hj, hk]

lemma find?_erase [DecidableEq κ] (m : SortedMap κ ν) (k k' : κ) :
    (m.erase k).find? k' = if k' = k then none else m.find? k' :=
  findEntry?_filter_ne k k' m.entries

/-- What is among the entries is found. -/
lemma find?_of_mem [Std.TransOrd κ] {m : SortedMap κ ν} {k : κ} {x : ν} (h : (k, x) ∈ m.entries) :
    m.find? k = some x := by
  obtain ⟨l, hl⟩ := m
  change findEntry? k l = some x
  change (k, x) ∈ l at h
  induction l with
  | nil => cases h
  | cons e l ih =>
    obtain ⟨j, y⟩ := e
    obtain ⟨hhead, htail⟩ := List.pairwise_cons.mp hl
    rcases List.mem_cons.mp h with h | h
    · obtain ⟨rfl, rfl⟩ := Prod.mk.inj h
      simp [ findEntry?]
    · have hlt : compare j k = .lt := hhead _ h
      have hne : k ≠ j := by
        rintro rfl
        simp at hlt
      rw [ findEntry?, if_neg (by simpa using hne), ih htail h]

/-! ### Keys -/

omit [Std.LawfulEqOrd κ] in
lemma ascending_keys (m : SortedMap κ ν) : m.keys.Pairwise fun a b => compare a b = .lt :=
  List.pairwise_map.mpr m.sorted

/-- What is found is among the entries. -/
lemma mem_of_find? {m : SortedMap κ ν} {k : κ} {x : ν} (h : m.find? k = some x) :
    (k, x) ∈ m.entries := by
  obtain ⟨l, hl⟩ := m
  change findEntry? k l = some x at h
  change (k, x) ∈ l
  clear hl
  induction l with
  | nil => cases h
  | cons e l ih =>
    obtain ⟨j, y⟩ := e
    rw [ findEntry?] at h
    split_ifs at h with hkj
    · obtain rfl := Std.LawfulEqOrd.eq_of_compare hkj
      obtain rfl := Option.some.inj h
      exact List.mem_cons_self
    · exact List.mem_cons_of_mem _ (ih h)

lemma mem_entries_iff [Std.TransOrd κ] {m : SortedMap κ ν} {k : κ} {x : ν} :
    (k, x) ∈ m.entries ↔ m.find? k = some x :=
  ⟨find?_of_mem, mem_of_find?⟩

/-- The map with those of its entries whose values are wanted. -/
def restrict (m : SortedMap κ ν) (p : ν → Bool) : SortedMap κ ν :=
  ⟨m.entries.filter fun e => p e.2, m.sorted.filter _⟩

lemma find?_restrict [Std.TransOrd κ] (m : SortedMap κ ν) (p : ν → Bool) (k : κ) :
    (m.restrict p).find? k = (m.find? k).filter p := by
  ext x
  rw [← mem_entries_iff, Option.filter_eq_some_iff, ← mem_entries_iff]
  exact List.mem_filter

lemma mem_keys_iff [Std.TransOrd κ] {m : SortedMap κ ν} {k : κ} :
    k ∈ m.keys ↔ (m.find? k).isSome := by
  rw [Option.isSome_iff_exists]
  simp only [keys, List.mem_map, Prod.exists, exists_and_right, exists_eq_right, mem_entries_iff]

lemma mem_keys_insert [Std.TransOrd κ] [DecidableEq κ] {m : SortedMap κ ν} {k k' : κ} {x : ν} :
    k' ∈ (m.insert k x).keys ↔ k' = k ∨ k' ∈ m.keys := by
  rw [mem_keys_iff, mem_keys_iff, find?_insert]
  split_ifs with h <;> simp [h]

/-- Going through the values is going through the keys and looking each of them up. -/
lemma filterMap_values [Std.TransOrd κ] {β : Type _} (m : SortedMap κ ν) (f : ν → Option β) :
    m.values.filterMap f = m.keys.filterMap fun k => (m.find? k).bind f := by
  rw [values, keys, List.filterMap_map, List.filterMap_map]
  refine List.filterMap_congr ?_
  rintro ⟨k, x⟩ h
  simp only [Function.comp_apply, find?_of_mem h, Option.bind_some]

omit [Std.LawfulEqOrd κ] in
/-- A new key leaves the other entries as they are. -/
lemma perm_insertEntry {k : κ} (x : ν) {l : List (κ × ν)} (h : findEntry? k l = none) :
    (insertEntry k x l).Perm ((k, x) :: l) := by
  induction l with
  | nil => exact .refl _
  | cons e l ih =>
    obtain ⟨j, y⟩ := e
    rw [ findEntry?] at h
    split_ifs at h with hkj
    unfold insertEntry
    split
    case h_1 => exact .refl _
    case h_2 heq => exact absurd heq hkj
    case h_3 => exact ((ih h).cons _).trans (.swap _ _ _)

/-- A new key makes a map larger by one. -/
lemma size_insert [Std.TransOrd κ] {m : SortedMap κ ν} {k : κ} (x : ν) (h : m.find? k = none) :
    (m.insert k x).size = m.size + 1 :=
  (perm_insertEntry x h).length_eq

/-- A sum of values under keys changes with one of its terms. -/
lemma sum_values_insert [Std.TransOrd κ] (m : SortedMap κ Nat) (k : κ) (x : Nat) :
    (m.insert k x).values.sum + (m.find? k).getD 0 = m.values.sum + x := by
  obtain ⟨l, hl⟩ := m
  change ((insertEntry k x l).map (·.2)).sum + ( findEntry? k l).getD 0 = (l.map (·.2)).sum + x
  induction l with
  | nil => simp [insertEntry, findEntry?]
  | cons e l ih =>
    obtain ⟨j, y⟩ := e
    have hrest := ih (List.pairwise_cons.mp hl).2
    unfold insertEntry
    split
    case h_1 hlt =>
      -- All keys from here on are larger, so there was no value before.
      have hnone : (⟨(j, y) :: l, hl⟩ : SortedMap κ Nat).find? k = none := by
        refine Option.eq_none_iff_forall_not_mem.mpr ?_
        intro z hz
        rcases List.mem_cons.mp (mem_of_find? hz) with h | h
        · obtain ⟨rfl, -⟩ := Prod.mk.inj h
          simp at hlt
        · have hlt' := Std.TransCmp.lt_trans hlt ((List.pairwise_cons.mp hl).1 _ h)
          simp at hlt'
      change findEntry? k ((j, y) :: l) = none at hnone
      rw [hnone, Option.getD_none, Nat.add_zero, List.map_cons, List.sum_cons, Nat.add_comm]
    case h_2 heq =>
      rw [ findEntry?, if_pos heq, Option.getD_some, List.map_cons, List.sum_cons, List.map_cons,
        List.sum_cons]
      omega
    case h_3 hgt =>
      have hne : ¬ compare k j = .eq := by
        rw [hgt]
        decide
      rw [ findEntry?, if_neg hne, List.map_cons, List.sum_cons, List.map_cons, List.sum_cons]
      omega

section Ascending

variable [Std.TransOrd κ] {β : Type _} {l l' : List κ} {g : κ → Option β}

omit [Std.LawfulEqOrd κ] in
/-- Of two lists of ascending keys the one gives a part of what the other gives, if it has no keys
of its own that give anything. -/
lemma filterMap_sublist_of_ascending (h : l.Pairwise fun a b => compare a b = .lt)
    (h' : l'.Pairwise fun a b => compare a b = .lt) (hsub : ∀ k ∈ l, (g k).isSome → k ∈ l') :
    (l.filterMap g).Sublist (l'.filterMap g) := by
  have hirrefl : Std.Irrefl fun a b : κ => compare a b = .lt := ⟨fun a ha => by simp at ha⟩
  have hantisymm : Std.Antisymm fun a b : κ => compare a b = .lt :=
    ⟨fun a b hab hba => absurd (Std.TransCmp.lt_trans hab hba) (hirrefl.irrefl a)⟩
  have hgiving : (l.filter fun k => (g k).isSome).Sublist l' := by
    have hascending := h.filter fun k => (g k).isSome
    refine List.sublist_of_subperm_of_pairwise (List.subperm_of_subset hascending.nodup ?_)
      hascending h'
    intro k hk
    obtain ⟨hk, hg⟩ := List.mem_filter.mp hk
    exact hsub k hk hg
  have hall : (l.filter fun k => (g k).isSome).filterMap g = l.filterMap g := by
    rw [List.filterMap_filter]
    refine List.filterMap_congr ?_
    intro k _
    cases g k <;> rfl
  rw [← hall]
  exact hgiving.filterMap g

omit [Std.LawfulEqOrd κ] in
/-- Two lists of ascending keys give the same if they have the same keys among those that give
anything. -/
lemma filterMap_eq_of_ascending (h : l.Pairwise fun a b => compare a b = .lt)
    (h' : l'.Pairwise fun a b => compare a b = .lt)
    (hmem : ∀ k, (g k).isSome → (k ∈ l ↔ k ∈ l')) : l.filterMap g = l'.filterMap g :=
  (filterMap_sublist_of_ascending h h' fun k hk hg => (hmem k hg).mp hk).antisymm
    (filterMap_sublist_of_ascending h' h fun k hk hg => (hmem k hg).mpr hk)

omit [Std.LawfulEqOrd κ] in
/-- Lists of ascending keys are the same if they have the same members. -/
lemma eq_of_ascending (h : l.Pairwise fun a b => compare a b = .lt)
    (h' : l'.Pairwise fun a b => compare a b = .lt) (hmem : ∀ k, k ∈ l ↔ k ∈ l') : l = l' := by
  simpa using filterMap_eq_of_ascending (g := some) h h' fun k _ => hmem k

omit [Std.LawfulEqOrd κ] in
/-- Of two lists of ascending keys the one is a part of the other, if the other has all its
members. -/
lemma sublist_of_ascending (h : l.Pairwise fun a b => compare a b = .lt)
    (h' : l'.Pairwise fun a b => compare a b = .lt) (hsub : ∀ k ∈ l, k ∈ l') : l.Sublist l' := by
  simpa using filterMap_sublist_of_ascending (g := some) h h' fun k hk _ => hsub k hk

end Ascending

lemma entries_eq_filterMap [Std.TransOrd κ] (m : SortedMap κ ν) :
    m.entries = m.keys.filterMap fun k => (m.find? k).map fun x => (k, x) := by
  have hself : ∀ e ∈ m.entries, (m.find? e.1).map (fun x => (e.1, x)) = some e := by
    rintro ⟨k, x⟩ he
    rw [find?_of_mem he]
    rfl
  rw [keys, List.filterMap_map]
  exact (List.filterMap_some.symm.trans (List.filterMap_congr fun e he => (hself e he).symm))

/-- A map whose entries another one has, too, is a part of that one. -/
lemma sublist_entries [Std.TransOrd κ] {m m' : SortedMap κ ν}
    (h : ∀ e ∈ m.entries, e ∈ m'.entries) : m.entries.Sublist m'.entries := by
  have hkeys : m.keys.Sublist m'.keys := by
    refine sublist_of_ascending m.ascending_keys m'.ascending_keys ?_
    intro k hk
    obtain ⟨e, he, rfl⟩ := List.mem_map.mp hk
    exact List.mem_map_of_mem (h e he)
  have hfind : ∀ k ∈ m.keys, m.find? k = m'.find? k := by
    intro k hk
    obtain ⟨⟨k, x⟩, he, rfl⟩ := List.mem_map.mp hk
    rw [find?_of_mem he, find?_of_mem (h _ he)]
  rw [entries_eq_filterMap m, entries_eq_filterMap m',
    List.filterMap_congr fun k hk => congrArg (Option.map fun x => (k, x)) (hfind k hk)]
  exact hkeys.filterMap _

/-- **A map is known by its look-ups.** -/
theorem ext_find? [Std.TransOrd κ] {m m' : SortedMap κ ν} (h : ∀ k, m.find? k = m'.find? k) :
    m = m' := by
  have hkeys : m.keys = m'.keys := by
    refine eq_of_ascending m.ascending_keys m'.ascending_keys ?_
    intro k
    rw [mem_keys_iff, mem_keys_iff, h]
  have hentries : m.entries = m'.entries := by
    rw [entries_eq_filterMap, entries_eq_filterMap, hkeys]
    exact List.filterMap_congr fun k _ => by rw [h]
  cases m
  cases m'
  congr

/-! ### Parts of a map -/

section Parts

variable {p : κ → Bool} {k : κ}

lemma filter_insertEntry_of_neg (hk : p k = false) (x : ν) (l : List (κ × ν)) :
    (insertEntry k x l).filter (fun e => p e.1) = l.filter fun e => p e.1 := by
  induction l with
  | nil => simp [insertEntry, hk]
  | cons e l ih =>
    obtain ⟨j, y⟩ := e
    unfold insertEntry
    split
    case h_1 => simp [hk]
    case h_2 heq =>
      obtain rfl := Std.LawfulEqOrd.eq_of_compare heq
      simp [hk]
    case h_3 => rw [List.filter_cons, List.filter_cons, ih]

/-- A key that is larger than all others of its kind comes last among them. -/
lemma filter_insertEntry_of_last [Std.TransOrd κ] (hk : p k) (x : ν) {l : List (κ × ν)}
    (hs : l.Pairwise fun a b => compare a.1 b.1 = .lt)
    (hlast : ∀ e ∈ l, p e.1 → compare e.1 k = .lt) :
    (insertEntry k x l).filter (fun e => p e.1) = l.filter (fun e => p e.1) ++ [(k, x)] := by
  induction l with
  | nil => simp [insertEntry, hk]
  | cons e l ih =>
    obtain ⟨j, y⟩ := e
    obtain ⟨hhead, htail⟩ := List.pairwise_cons.mp hs
    obtain ⟨hj, hl⟩ := List.forall_mem_cons.mp hlast
    unfold insertEntry
    split
    case h_1 hlt =>
      -- All keys from here on are larger, so none of them is of the kind.
      have hnone : ∀ e ∈ (j, y) :: l, ¬ p e.1 := by
        intro e he hp
        have hle : compare k e.1 = .lt := by
          rcases List.mem_cons.mp he with rfl | he
          · exact hlt
          · exact Std.TransCmp.lt_trans hlt (hhead e he)
        have hgt := Std.OrientedCmp.gt_iff_lt.mpr hle
        rw [hlast e he hp] at hgt
        cases hgt
      rw [List.filter_cons, if_pos hk, List.filter_eq_nil_iff.mpr hnone, List.nil_append]
    case h_2 heq =>
      obtain rfl := Std.LawfulEqOrd.eq_of_compare heq
      have := hj hk
      simp at this
    case h_3 =>
      rw [List.filter_cons, List.filter_cons, ih htail hl]
      split <;> rfl

omit [Std.LawfulEqOrd κ] in
/-- Where an entry is put depends on its key alone. -/
lemma exists_insertEntry_eq (k : κ) (l : List (κ × ν)) :
    ∃ front rest, ∀ x : ν, insertEntry k x l = front ++ (k, x) :: rest := by
  induction l with
  | nil => exact ⟨[], [], fun _ => rfl⟩
  | cons e l ih =>
    obtain ⟨j, y⟩ := e
    obtain ⟨front, rest, hrest⟩ := ih
    unfold insertEntry
    cases compare k j with
    | lt => exact ⟨[], (j, y) :: l, fun _ => rfl⟩
    | eq => exact ⟨[], l, fun _ => rfl⟩
    | gt => exact ⟨(j, y) :: front, rest, fun x => congrArg ((j, y) :: ·) (hrest x)⟩

omit [Std.LawfulEqOrd κ] in
/-- A key that is larger than those of the first entries leaves them where they are. -/
lemma insertEntry_append [Std.TransOrd κ] {x : ν} {l : List (κ × ν)}
    (h : ∀ e ∈ l, compare e.1 k = .lt) (l' : List (κ × ν)) :
    insertEntry k x (l ++ l') = l ++ insertEntry k x l' := by
  induction l with
  | nil => rfl
  | cons e l ih =>
    obtain ⟨j, y⟩ := e
    obtain ⟨hj, hl⟩ := List.forall_mem_cons.mp h
    have hgt : compare k j = .gt := Std.OrientedCmp.gt_iff_lt.mpr hj
    rw [List.cons_append, insertEntry, hgt, List.cons_append, ih hl]

omit [Std.LawfulEqOrd κ] in
/-- A key that is larger than all others comes last. -/
lemma insertEntry_of_last [Std.TransOrd κ] (x : ν) {l : List (κ × ν)}
    (hlast : ∀ e ∈ l, compare e.1 k = .lt) : insertEntry k x l = l ++ [(k, x)] := by
  have h := insertEntry_append (x := x) hlast []
  rwa [List.append_nil] at h

end Parts

/-! ### Building up -/

/-- Entries that ascend, from beyond all keys of a map on, come behind its own one after the
other. -/
lemma entries_foldl_insert [Std.TransOrd κ] (m : SortedMap κ ν) {l : List (κ × ν)}
    (h : (m.entries ++ l).Pairwise fun a b => compare a.1 b.1 = .lt) :
    (l.foldl (fun m e => m.insert e.1 e.2) m).entries = m.entries ++ l := by
  induction l generalizing m with
  | nil => exact (List.append_nil _).symm
  | cons e l ih =>
    obtain ⟨k, x⟩ := e
    obtain ⟨-, -, hbefore⟩ := List.pairwise_append.mp h
    have hinsert : (m.insert k x).entries = m.entries ++ [(k, x)] :=
      insertEntry_of_last x fun e he => hbefore e he _ List.mem_cons_self
    rw [List.foldl_cons, ih _ (by rwa [hinsert, List.append_assoc]), hinsert, List.append_assoc]
    rfl

/-- A map is built up from its own entries. -/
lemma ofList_toList [Std.TransOrd κ] (m : SortedMap κ ν) : ofList m.toList = m := by
  have hentries : (ofList m.toList).entries = m.entries := entries_foldl_insert empty m.sorted
  cases m
  exact (mk.injEq ..).mpr hentries

/-! ### Repetition -/

lemma insertEntry_insertEntry (k : κ) (x y : ν) (l : List (κ × ν)) :
    insertEntry k y (insertEntry k x l) = insertEntry k y l := by
  induction l with
  | nil => simp [insertEntry]
  | cons e l ih =>
    obtain ⟨j, z⟩ := e
    rcases hkj : compare k j <;> simp [insertEntry, hkj, ih]

/-- Of two insertions under one key only the second one counts. -/
lemma insert_insert [Std.TransOrd κ] (m : SortedMap κ ν) (k : κ) (x y : ν) :
    (m.insert k x).insert k y = m.insert k y := by
  simp only [insert, insertEntry_insertEntry]

omit [Std.LawfulEqOrd κ] in
/-- What was erased cannot be erased again. -/
lemma erase_erase (m : SortedMap κ ν) (k : κ) : (m.erase k).erase k = m.erase k := by
  simp only [erase, List.filter_filter, Bool.and_self]

end AlertLedger.SortedMap
