/-
# Operations in JSON

An operation is an object whose member `op` names its kind, anywhere among the others, or an
array that starts with that name. Of an object only the members of the kind are looked at, but
all of it is read.
-/
import AlertLedger.Encoding.Alert
import AlertLedger.Operation.Kind

namespace AlertLedger

open Json (Value)

/-- Reads an operation of a kind from its fields. -/
def OperationKind.read? (given : List (String × Value)) : OperationKind → Option Operation
  | .silence => do
    let alert ← Json.required given "alert" AlertRef.ofJson?
    let version ← Json.optional given "version" Value.word? 0
    let active ← Json.optional given "active_silences" Value.strings? []
    let pending ← Json.optional given "pending_silences" Value.strings? []
    return .silence alert version active pending
  | .inhibit => do
    let alert ← Json.required given "alert" AlertRef.ofJson?
    let inhibitors ← Json.optional given "inhibited_by" Value.strings? []
    return .inhibit alert inhibitors
  | .delete => do
    let alert ← Json.required given "alert" AlertRef.ofJson?
    return .delete alert
  | .mute => do
    let route ← Json.required given "route_id" Value.string?
    let group ← Json.required given "group_key" Value.string?
    let intervals ← Json.optional given "time_intervals" Value.strings? []
    return .mute ⟨route, group⟩ intervals
  | .unmute => do
    let route ← Json.required given "route_id" Value.string?
    let group ← Json.required given "group_key" Value.string?
    return .unmute ⟨route, group⟩

namespace Operation

/-- The member that names the kind. -/
def tag : String := "op"

/-- An operation is an object of its tag and all its fields. -/
def toJson (op : Operation) : Value :=
  .object <| (tag, .string op.name) :: match op with
    | .silence alert version active pending =>
      [("alert", alert.toJson), ("version", .ofWord version),
        ("active_silences", .ofStrings active), ("pending_silences", .ofStrings pending)]
    | .inhibit alert inhibitors =>
      [("alert", alert.toJson), ("inhibited_by", .ofStrings inhibitors)]
    | .delete alert => [("alert", alert.toJson)]
    | .mute key intervals =>
      [("route_id", .string key.route), ("group_key", .string key.group),
        ("time_intervals", .ofStrings intervals)]
    | .unmute key => [("route_id", .string key.route), ("group_key", .string key.group)]

/-- Reads an operation. -/
def ofJson? : Value → Option Operation
  | .object members =>
    match members.filter (·.1 == tag) with
    | [(_, .string name)] => do
      let kind ← OperationKind.spellings.lookup name
      kind.read? (← Json.pickFields? kind.fields false members)
    | _ => none
  | .array (.string name :: items) => do
    let kind ← OperationKind.spellings.lookup name
    kind.read? (← Json.placeFields? kind.fields items)
  | _ => none

/-- The operation that a JSON text spells. -/
def decode? (bytes : List UInt8) : Option Operation :=
  (Value.parse? bytes).bind ofJson?

end Operation

end AlertLedger
