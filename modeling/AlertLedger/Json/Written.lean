/-
# JSON values as written

The tree of a JSON text, with its strings and numbers still unread. The tokens are taken in one
by one; a stack holds the arrays and objects that are open, so a document may be nested to any
depth.
-/
import AlertLedger.Json.Token

namespace AlertLedger.Json

/-- A JSON value as it is written. -/
inductive Written where
  | null
  | bool (b : Bool)
  | number (n : Number)
  | string (body : List UInt8)
  | array (items : List Written)
  | object (members : List (List UInt8 × Written))

namespace Written

/-- An array or object that is open while one of its values is read; what it holds so far is in
reverse order. -/
inductive Frame where
  | array (items : List Written)
  | object (members : List (List UInt8 × Written)) (key : List UInt8)

/-- What may come next, under the stack of open arrays and objects. -/
inductive State where
  /-- A value must come. -/
  | value (stack : List Frame)
  /-- An array was opened: a value or its end. -/
  | arrayOpened (stack : List Frame)
  /-- An object was opened: a key or its end. -/
  | objectOpened (stack : List Frame)
  /-- A key must come. -/
  | key (members : List (List UInt8 × Written)) (stack : List Frame)
  /-- The colon after a key must come. -/
  | colon (members : List (List UInt8 × Written)) (key : List UInt8) (stack : List Frame)
  /-- A value of an array is complete: a comma or the end. -/
  | afterItem (items : List Written) (stack : List Frame)
  /-- A value of an object is complete: a comma or the end. -/
  | afterMember (members : List (List UInt8 × Written)) (stack : List Frame)
  /-- The whole value is complete. -/
  | done (v : Written)

/-- A value is complete: it goes to the innermost open array or object. -/
def complete (v : Written) : List Frame → State
  | [] => .done v
  | .array items :: stack => .afterItem (v :: items) stack
  | .object members key :: stack => .afterMember ((key, v) :: members) stack

/-- The first token of a value. -/
def start? (stack : List Frame) : Token → Option State
  | .null => some (complete .null stack)
  | .bool b => some (complete (.bool b) stack)
  | .number n => some (complete (.number n) stack)
  | .string body => some (complete (.string body) stack)
  | .arrayOpen => some (.arrayOpened stack)
  | .objectOpen => some (.objectOpened stack)
  | _ => none

/-- Takes in one token. -/
def step? : State → Token → Option State
  | .value stack, t => start? stack t
  | .arrayOpened stack, .arrayClose => some (complete (.array []) stack)
  | .arrayOpened stack, t => start? (.array [] :: stack) t
  | .objectOpened stack, .objectClose => some (complete (.object []) stack)
  | .objectOpened stack, .string key => some (.colon [] key stack)
  | .key members stack, .string key => some (.colon members key stack)
  | .colon members key stack, .colon => some (.value (.object members key :: stack))
  | .afterItem items stack, .comma => some (.value (.array items :: stack))
  | .afterItem items stack, .arrayClose => some (complete (.array items.reverse) stack)
  | .afterMember members stack, .comma => some (.key members stack)
  | .afterMember members stack, .objectClose => some (complete (.object members.reverse) stack)
  | _, _ => none

/-- The value that tokens spell, all of them together. -/
def ofTokens? (tokens : List Token) : Option Written :=
  match tokens.foldlM step? (.value []) with
  | some (.done v) => some v
  | _ => none

/-- The value of a JSON text. -/
def parse? (bytes : List UInt8) : Option Written :=
  (Token.scan? bytes).bind ofTokens?

end Written

end AlertLedger.Json
