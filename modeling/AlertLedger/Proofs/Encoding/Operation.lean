/-
# Operations read back

The compact JSON form of an operation is read as that operation again, with its alert named as it
was, by a fingerprint or by labels (`Operation.decode?_encode`). What tells the two apart is the
form of the value: a fingerprint is a string and a label set an object, even one without labels.
-/
import AlertLedger.Encoding.Operation
import AlertLedger.Proofs.Encoding.Event
import AlertLedger.Proofs.SortedMap

namespace AlertLedger

open Json (Value)

/-! ### Fields and lists of strings -/

section

variable {α : Type} {given : List (String × Value)} {name : String} {read? : Value → Option α}
  {v : Value} {x : α}

lemma Json.required_eq (hv : given.lookup name = some v) (hx : read? v = some x) :
    required given name read? = some x := by
  rw [required, hv, Option.bind_some, hx]

lemma Json.optional_eq (default : α) (hv : given.lookup name = some v) (hx : read? v = some x) :
    optional given name read? default = some x := by
  rw [optional, hv]
  exact hx

end

lemma Json.Value.readable_string (depth : Nat) (s : String) : (string s).Readable depth := by
  rw [Readable]
  trivial

lemma Json.Value.readable_ofWord (depth : Nat) (n : UInt64) : (ofWord n).Readable depth := by
  rw [ofWord, Readable]
  exact n.toNat_lt

lemma Json.Value.readable_ofStrings (depth : Nat) (l : List String) :
    (ofStrings l).Readable (depth + 1) := by
  rw [ofStrings, Readable]
  intro v hv
  obtain ⟨s, -, rfl⟩ := List.mem_map.mp hv
  exact readable_string depth s

lemma Json.Value.strings?_ofStrings (l : List String) : (ofStrings l).strings? = some l := by
  have hread : (l.map string).mapM string? = some (l.map id) := mapM_map_eq_some fun _ _ => rfl
  rw [ofStrings, strings?, hread, List.map_id]

/-! ### References -/

/-- A label set holds what a map of the same labels holds. -/
lemma LabelSet.labels_ofList (pairs : List (String × String)) :
    (ofList pairs).labels = .ofList pairs := by
  have hfold (l : LabelSet) : (pairs.foldl (fun l p => l.insert p.1 p.2) l).labels
      = pairs.foldl (fun m p => m.insert p.1 p.2) l.labels := by
    induction pairs generalizing l with
    | nil => rfl
    | cons p pairs ih => exact ih _
  exact hfold empty

lemma LabelSet.ofList_toList (l : LabelSet) : ofList l.toList = l := by
  have hlabels : (ofList l.toList).labels = l.labels :=
    (labels_ofList _).trans l.labels.ofList_toList
  cases l
  exact (mk.injEq ..).mpr hlabels

/-- The JSON object that gives labels as they come, a name perhaps more than once. -/
def LabelSet.objectOf (pairs : List (String × String)) : Value :=
  .object (pairs.map fun p => (p.1, .string p.2))

lemma LabelSet.ofJson?_objectOf (pairs : List (String × String)) :
    ofJson? (objectOf pairs) = some (ofList pairs) := by
  have hread : (pairs.map fun p => (p.1, Value.string p.2)).mapM
      (fun p => p.2.string?.map fun s => (p.1, s)) = some (pairs.map id) :=
    Value.mapM_map_eq_some fun _ _ => rfl
  rw [objectOf, ofJson?, hread, List.map_id, Option.map_some]

lemma LabelSet.ofJson?_toJson (l : LabelSet) : ofJson? l.toJson = some l := by
  have hobject := ofJson?_objectOf l.toList
  rwa [ofList_toList] at hobject

lemma LabelSet.readable_objectOf (depth : Nat) (pairs : List (String × String)) :
    (objectOf pairs).Readable (depth + 1) := by
  rw [objectOf, Value.Readable]
  intro m hm
  obtain ⟨p, -, rfl⟩ := List.mem_map.mp hm
  exact Value.readable_string _ _

lemma AlertRef.ofJson?_objectOf (pairs : List (String × String)) :
    ofJson? (LabelSet.objectOf pairs) = some (.labels (.ofList pairs)) := by
  have hfingerprint : Fingerprint.ofJson? (LabelSet.objectOf pairs) = none := rfl
  rw [ofJson?, hfingerprint, LabelSet.ofJson?_objectOf]
  rfl

lemma AlertRef.ofJson?_toJson (ref : AlertRef) : ofJson? ref.toJson = some ref := by
  cases ref with
  | fingerprint f =>
    rw [toJson, ofJson?, Fingerprint.ofJson?_toJson]
    rfl
  | labels l =>
    have hfingerprint : Fingerprint.ofJson? l.toJson = none := rfl
    rw [toJson, ofJson?, hfingerprint, LabelSet.ofJson?_toJson]
    rfl

/-- At most one object is open in a reference. -/
lemma AlertRef.readable_toJson (depth : Nat) (ref : AlertRef) :
    ref.toJson.Readable (depth + 1) := by
  cases ref with
  | fingerprint f => exact Value.readable_string _ _
  | labels l => exact LabelSet.readable_objectOf depth l.toList

/-! ### Operations -/

lemma OperationKind.lookup_name (kind : OperationKind) :
    spellings.lookup kind.name = some kind := by
  cases kind <;> rfl

namespace Operation

/-- The members of an operation as a JSON object, but for its tag. -/
def members : Operation → List (String × Value)
  | .silence alert version active pending =>
    [("alert", alert.toJson), ("version", .ofWord version),
      ("active_silences", .ofStrings active), ("pending_silences", .ofStrings pending)]
  | .inhibit alert inhibitors =>
    [("alert", alert.toJson), ("inhibited_by", .ofStrings inhibitors)]
  | .delete alert => [("alert", alert.toJson)]
  | .mute key intervals =>
    [("route_id", .string key.route), ("group_key", .string key.group),
      ("time_intervals", .ofStrings intervals)]
  | .unmute key => [("route_id", .string key.route), ("group_key", .string key.group)]

lemma toJson_eq (op : Operation) : op.toJson = .object ((tag, .string op.name) :: op.members) := by
  cases op <;> rfl

/-- Just one member is the tag. -/
lemma filter_tag (op : Operation) :
    ((tag, Value.string op.name) :: op.members).filter (·.1 == tag)
      = [(tag, .string op.name)] := by
  cases op <;> rfl

/-- All other members are fields of the kind, none of them twice. -/
lemma pickFields?_members (op : Operation) :
    Json.pickFields? op.kind.fields false ((tag, Value.string op.name) :: op.members)
      = some op.members := by
  cases op <;> rfl

/-- From its members an operation is read. -/
lemma read?_members (op : Operation) : op.kind.read? op.members = some op := by
  cases op with
  | silence alert version active pending =>
    rw [kind, OperationKind.read?, Json.required_eq rfl alert.ofJson?_toJson,
      Json.optional_eq 0 rfl (Value.word?_ofWord version),
      Json.optional_eq [] rfl (Value.strings?_ofStrings active),
      Json.optional_eq [] rfl (Value.strings?_ofStrings pending)]
    rfl
  | inhibit alert inhibitors =>
    rw [kind, OperationKind.read?, Json.required_eq rfl alert.ofJson?_toJson,
      Json.optional_eq [] rfl (Value.strings?_ofStrings inhibitors)]
    rfl
  | delete alert =>
    rw [kind, OperationKind.read?, Json.required_eq rfl alert.ofJson?_toJson]
    rfl
  | mute key intervals =>
    rw [kind, OperationKind.read?, Json.optional_eq [] rfl (Value.strings?_ofStrings intervals)]
    rfl
  | unmute key => rfl

lemma ofJson?_toJson (op : Operation) : ofJson? op.toJson = some op := by
  have hkind : OperationKind.spellings.lookup op.name = some op.kind :=
    OperationKind.lookup_name op.kind
  rw [toJson_eq, ofJson?, filter_tag]
  simp only [hkind, pickFields?_members, read?_members, Option.bind_eq_bind, Option.bind_some]

lemma readable_of_mem_members {op : Operation} {m : String × Value} (h : m ∈ op.members)
    (depth : Nat) : m.2.Readable (depth + 1) := by
  cases op <;>
    simp only [members, List.mem_cons, List.not_mem_nil, or_false] at h <;>
    rcases h with rfl | rfl | rfl | rfl <;>
    simp only [AlertRef.readable_toJson, Value.readable_ofWord, Value.readable_ofStrings,
      Value.readable_string]

lemma readable_toJson (op : Operation) : op.toJson.Readable Json.maxDepth := by
  rw [toJson_eq, Json.maxDepth, Value.Readable]
  refine List.forall_mem_cons.mpr ⟨Value.readable_string _ _, ?_⟩
  intro m hm
  exact readable_of_mem_members hm 125

/-- **An operation is read back from its JSON form.** -/
theorem decode?_encode (op : Operation) : decode? (Text.encode op.toJson.render) = some op := by
  rw [decode?, Value.parse?_render op.readable_toJson, Option.bind_some, ofJson?_toJson]

end Operation

end AlertLedger
