/-
# Values known by name

Closed sets of values that texts refer to by name, in any mixture of upper and lower case.
-/
import AlertLedger.Text.Lowercase

namespace AlertLedger.Text

/-- The value whose spelling equals the text once the text is in lower case. -/
def findSpelling? {α : Type _} (spellings : List (String × α)) (text : String) : Option α :=
  spellings.lookup (lower text)

end AlertLedger.Text
