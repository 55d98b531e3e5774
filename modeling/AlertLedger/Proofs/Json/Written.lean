/-
# JSON tokens parsed

The tokens of a written value, with commas between the values of an array and between the members
of an object. Whatever arrays and objects are open, they are taken in as that value and nothing
is left over (`Written.foldlM_tokens`). The induction is over the value; within an array or object
it goes over the values, and what was read of them so far is kept, in reverse order, on the stack.
-/
import AlertLedger.Json.Written
import Mathlib.Tactic.Lemma

namespace AlertLedger.Json.Written

mutual

/-- The tokens of a written value. -/
def tokens : Written → List Token
  | .null => [.null]
  | .bool b => [.bool b]
  | .number n => [.number n]
  | .string body => [.string body]
  | .array items => .arrayOpen :: (itemsTokens items ++ [.arrayClose])
  | .object members => .objectOpen :: (membersTokens members ++ [.objectClose])

/-- The tokens of the values of an array. -/
def itemsTokens : List Written → List Token
  | [] => []
  | [v] => v.tokens
  | v :: w :: rest => v.tokens ++ .comma :: itemsTokens (w :: rest)

/-- The tokens of the members of an object. -/
def membersTokens : List (List UInt8 × Written) → List Token
  | [] => []
  | [(key, v)] => .string key :: .colon :: v.tokens
  | (key, v) :: m :: rest =>
    .string key :: .colon :: (v.tokens ++ .comma :: membersTokens (m :: rest))

end

/-! ### First tokens -/

/-- After the opening of an array its first value is taken in like any other. -/
lemma foldlM_arrayOpened (v : Written) (items : List Written) (ts : List Token)
    (stack : List Frame) :
    (itemsTokens (v :: items) ++ ts).foldlM step? (.arrayOpened stack)
      = (itemsTokens (v :: items) ++ ts).foldlM step? (.value (.array [] :: stack)) := by
  have hfirst (us : List Token) : (v.tokens ++ us).foldlM step? (.arrayOpened stack)
      = (v.tokens ++ us).foldlM step? (.value (.array [] :: stack)) := by
    cases v <;> rw [tokens] <;> rfl
  cases items with
  | nil =>
    rw [itemsTokens]
    exact hfirst ts
  | cons w rest =>
    rw [itemsTokens, List.append_assoc]
    exact hfirst _

/-- After the opening of an object its first key is taken in like any other. -/
lemma foldlM_objectOpened (m : List UInt8 × Written) (members : List (List UInt8 × Written))
    (ts : List Token) (stack : List Frame) :
    (membersTokens (m :: members) ++ ts).foldlM step? (.objectOpened stack)
      = (membersTokens (m :: members) ++ ts).foldlM step? (.key [] stack) := by
  obtain ⟨key, v⟩ := m
  cases members <;> rw [membersTokens] <;> rfl

/-! ### Values -/

/-- What holds of an array or object as soon as it holds of its values holds of all values. -/
@[elab_as_elim]
lemma tree_induction {P : Written → Prop} (null : P .null) (bool : ∀ b, P (.bool b))
    (number : ∀ n, P (.number n)) (string : ∀ body, P (.string body))
    (array : ∀ items, (∀ v ∈ items, P v) → P (.array items))
    (object : ∀ members : List (List UInt8 × Written), (∀ m ∈ members, P m.2) →
      P (.object members)) (v : Written) : P v := by
  refine Written.rec (motive_1 := P) (motive_2 := fun items => ∀ v ∈ items, P v)
    (motive_3 := fun members => ∀ m ∈ members, P m.2) (motive_4 := fun m => P m.2)
    null bool number string array object ?_ ?_ ?_ ?_ ?_ v
  · intro v hv
    cases hv
  · intro v items hv hitems
    exact List.forall_mem_cons.mpr ⟨hv, hitems⟩
  · intro m hm
    cases hm
  · intro m members hm hmembers
    exact List.forall_mem_cons.mpr ⟨hm, hmembers⟩
  · intro key v hv
    exact hv

/-- The tokens of values of an array are added to those before. -/
lemma foldlM_itemsTokens {items : List Written} (hne : items ≠ []) (acc : List Written)
    (stack : List Frame)
    (h : ∀ v ∈ items, ∀ stack, v.tokens.foldlM step? (.value stack) = some (complete v stack)) :
    (itemsTokens items).foldlM step? (.value (.array acc :: stack))
      = some (.afterItem (items.reverse ++ acc) stack) := by
  induction items generalizing acc with
  | nil => exact absurd rfl hne
  | cons v items ih =>
    obtain ⟨hv, hitems⟩ := List.forall_mem_cons.mp h
    cases items with
    | nil =>
      rw [itemsTokens, hv]
      rfl
    | cons w rest =>
      rw [itemsTokens, List.foldlM_append, hv]
      change (itemsTokens (w :: rest)).foldlM step? (.value (.array (v :: acc) :: stack)) = _
      rw [ih (by simp) (v :: acc) hitems]
      simp

/-- The tokens of members of an object are added to those before. -/
lemma foldlM_membersTokens {members : List (List UInt8 × Written)} (hne : members ≠ [])
    (acc : List (List UInt8 × Written)) (stack : List Frame)
    (h : ∀ m ∈ members, ∀ stack,
      m.2.tokens.foldlM step? (.value stack) = some (complete m.2 stack)) :
    (membersTokens members).foldlM step? (.key acc stack)
      = some (.afterMember (members.reverse ++ acc) stack) := by
  induction members generalizing acc with
  | nil => exact absurd rfl hne
  | cons m members ih =>
    obtain ⟨hv, hmembers⟩ := List.forall_mem_cons.mp h
    obtain ⟨key, v⟩ := m
    cases members with
    | nil =>
      rw [membersTokens]
      change v.tokens.foldlM step? (.value (.object acc key :: stack)) = _
      rw [hv]
      rfl
    | cons m rest =>
      rw [membersTokens]
      change (v.tokens ++ Token.comma :: membersTokens (m :: rest)).foldlM step?
        (.value (.object acc key :: stack)) = _
      rw [List.foldlM_append, hv]
      change (membersTokens (m :: rest)).foldlM step? (.key ((key, v) :: acc) stack) = _
      rw [ih (by simp) ((key, v) :: acc) hmembers]
      simp

/-- The tokens of a value complete it. -/
lemma foldlM_tokens (v : Written) (stack : List Frame) :
    v.tokens.foldlM step? (.value stack) = some (complete v stack) := by
  induction v using tree_induction generalizing stack with
  | null | bool | number | string =>
    rw [tokens]
    rfl
  | array items ih =>
    rw [tokens]
    change (itemsTokens items ++ [Token.arrayClose]).foldlM step? (.arrayOpened stack) = _
    cases items with
    | nil =>
      rw [itemsTokens]
      rfl
    | cons v items =>
      rw [foldlM_arrayOpened, List.foldlM_append, foldlM_itemsTokens (by simp) [] stack ih]
      change some (complete (.array ((v :: items).reverse ++ []).reverse) stack) = _
      rw [List.append_nil, List.reverse_reverse]
  | object members ih =>
    rw [tokens]
    change (membersTokens members ++ [Token.objectClose]).foldlM step? (.objectOpened stack) = _
    cases members with
    | nil =>
      rw [membersTokens]
      rfl
    | cons m members =>
      rw [foldlM_objectOpened, List.foldlM_append, foldlM_membersTokens (by simp) [] stack ih]
      change some (complete (.object ((m :: members).reverse ++ []).reverse) stack) = _
      rw [List.append_nil, List.reverse_reverse]

/-- A written value is what its tokens spell. -/
lemma ofTokens?_tokens (v : Written) : ofTokens? v.tokens = some v := by
  rw [ofTokens?, foldlM_tokens]
  rfl

end AlertLedger.Json.Written
