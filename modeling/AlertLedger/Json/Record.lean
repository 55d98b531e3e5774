/-
# Records in JSON

A record with named fields is an object, or an array of its fields in their order. An object may
give the fields in any order, but none of them twice. Other members are ignored in an open record
and refused in a closed one. An array may leave out fields at its end.
-/
import AlertLedger.Json.Value

namespace AlertLedger.Json

/-- The members that give the fields of a record. -/
def pickFields? {α : Type _} (fields : List String) (closed : Bool) (members : List (String × α)) :
    Option (List (String × α)) :=
  let known := members.filter fun p => fields.contains p.1
  if closed && known.length != members.length then none
  else if (known.map (·.1)).Nodup then some known
  else none

/-- The values of an array with the names of the fields that they give. -/
def placeFields? {α : Type _} (fields : List String) (items : List α) :
    Option (List (String × α)) :=
  if items.length ≤ fields.length then some (fields.zip items) else none

/-- The fields that a value gives for a record. -/
def Value.record? (fields : List String) (closed : Bool) : Value → Option (List (String × Value))
  | .object members => pickFields? fields closed members
  | .array items => placeFields? fields items
  | _ => none

/-- The fields that a written value gives for a record. What is ignored is not read. -/
def Written.record? (fields : List String) (closed : Bool) (v : Written) :
    Option (List (String × Value)) := do
  let given ← match v with
    | .object members => do
      let named ← members.mapM fun (p : List UInt8 × Written) =>
        (stringOfBody? p.1).map fun key => (key, p.2)
      pickFields? fields closed named
    | .array items => placeFields? fields items
    | _ => none
  given.mapM fun (p : String × Written) => (p.2.value? maxDepth).map fun x => (p.1, x)

/-- A field that must be given. -/
def required {α : Type _} (given : List (String × Value)) (name : String)
    (read? : Value → Option α) : Option α :=
  (given.lookup name).bind read?

/-- A field that has a default. -/
def optional {α : Type _} (given : List (String × Value)) (name : String)
    (read? : Value → Option α) (default : α) : Option α :=
  match given.lookup name with
  | none => some default
  | some v => read? v

namespace Value

/-- A string. -/
def string? : Value → Option String
  | .string s => some s
  | _ => none

/-- A truth value. -/
def bool? : Value → Option Bool
  | .bool b => some b
  | _ => none

/-- A number of 64 bits. -/
def word? : Value → Option UInt64
  | .natural n => if n < UInt64.size then some (UInt64.ofNat n) else none
  | _ => none

/-- An array of strings. -/
def strings? : Value → Option (List String)
  | .array items => items.mapM string?
  | _ => none

/-- A value, or null for none. -/
def nullable? {α : Type _} (read? : Value → Option α) : Value → Option (Option α)
  | .null => some none
  | v => (read? v).map some

/-- A value of a closed set by its exact name, either as a string or as the only key of an object
with the value null. -/
def named? {α : Type _} (spellings : List (String × α)) : Value → Option α
  | .string s => spellings.lookup s
  | .object [(s, .null)] => spellings.lookup s
  | _ => none

/-- An array of strings as a value. -/
def ofStrings (l : List String) : Value := .array (l.map .string)

/-- A number of 64 bits as a value. -/
def ofWord (n : UInt64) : Value := .natural n.toNat

end Value

end AlertLedger.Json
