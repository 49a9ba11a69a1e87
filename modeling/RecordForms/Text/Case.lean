import RecordForms.Text.Case.Cased
import RecordForms.Text.Case.Lower
import RecordForms.Text.Case.Upper

/-! Lower and upper case of texts. Case is a matter of single characters with one
exception: a capital sigma at the end of a word has a lower case of its own. -/
namespace RecordForms.Text

def startsCased (cs : List Char) : Bool :=
  (cs.dropWhile isCaseIgnorable).head?.any isCased

/-- A sigma is final after a cased character and before none. The characters
before it are held nearest first. -/
def lowerSigma (before after : List Char) : Char :=
  if startsCased before && !startsCased after then 'ς' else 'σ'

def lowerAfter (before : List Char) : List Char → List Char
  | [] => []
  | c :: cs =>
    (if c = 'Σ' then [lowerSigma before cs] else lowerCase.image c) ++ lowerAfter (c :: before) cs

def lower (cs : List Char) : List Char := lowerAfter [] cs

def capitalize : List Char → List Char
  | [] => []
  | c :: cs => upperCase.image c ++ cs

def capitalized (text : String) : String := String.ofList (capitalize text.toList)

end RecordForms.Text
