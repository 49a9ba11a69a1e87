import RecordForms.Text.Case
import RecordForms.Text.Letter

/-! Display names as names in code: the words of a display name run together,
each after the first with a capital. -/
namespace RecordForms.Text

def words (cs : List Char) : List (List Char) :=
  (cs.splitOnP fun c => !isWordChar c).filter fun word => !word.isEmpty

def joinWords : List (List Char) → List Char
  | [] => []
  | first :: rest => lower first ++ rest.flatMap fun word => capitalize (lower word)

/-- The name in code for a display name; empty when the name has no words. -/
def camelCase (name : String) : String := String.ofList (joinWords (words name.toList))

end RecordForms.Text
