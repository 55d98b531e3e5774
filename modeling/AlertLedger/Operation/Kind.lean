/-
# Kinds of operation

The five kinds of operation, with the names and the fields that they have in a stream.
-/
import AlertLedger.Operation

namespace AlertLedger

/-- The kinds of operation. -/
inductive OperationKind where
  | silence
  | inhibit
  | delete
  | mute
  | unmute
deriving DecidableEq, Repr

namespace OperationKind

/-- All kinds. -/
def all : List OperationKind := [.silence, .inhibit, .delete, .mute, .unmute]

/-- The name that operations of the kind have in a stream. -/
def name : OperationKind → String
  | .silence => "set_active_or_silenced"
  | .inhibit => "set_inhibited"
  | .delete => "delete"
  | .mute => "set_muted"
  | .unmute => "delete_by_group_key"

/-- The kinds by name. -/
def spellings : List (String × OperationKind) := all.map fun k => (k.name, k)

/-- The fields of operations of the kind in their order. -/
def fields : OperationKind → List String
  | .silence => ["alert", "version", "active_silences", "pending_silences"]
  | .inhibit => ["alert", "inhibited_by"]
  | .delete => ["alert"]
  | .mute => ["route_id", "group_key", "time_intervals"]
  | .unmute => ["route_id", "group_key"]

end OperationKind

namespace Operation

/-- The kind of an operation. -/
def kind : Operation → OperationKind
  | .silence .. => .silence
  | .inhibit .. => .inhibit
  | .delete .. => .delete
  | .mute .. => .mute
  | .unmute .. => .unmute

/-- The name that an operation has in a stream. -/
def name (op : Operation) : String := op.kind.name

end Operation

end AlertLedger
