/-! Pieces of code before they are laid out: lines, sequences of pieces, and pieces that stand
some levels further in. A line may hold line ends; each of its parts is then a line of its own.
Levels and widths are words of 64 bits: sums and products of them wrap around. -/
namespace RecordForms

inductive Fragment where
  | line (text : String)
  | sequence (parts : List Fragment)
  | indented (levels : UInt64) (inner : Fragment)

namespace Fragment

def splitLines (text : String) : List String :=
  (text.toList.splitOn '\n').map String.ofList

def indentLine (blanks : Nat) (line : String) : String :=
  if line.isEmpty then line else String.ofList (List.replicate blanks ' ') ++ line

mutual

/-- The lines of a fragment that stands `level` levels in, at `width` blanks a level. -/
def lines (width level : UInt64) : Fragment → List String
  | .line text => (splitLines text).map (indentLine (level * width).toNat)
  | .sequence parts => linesOfParts width level parts
  | .indented levels inner => lines width (level + levels) inner

def linesOfParts (width level : UInt64) : List Fragment → List String
  | [] => []
  | part :: parts => lines width level part ++ linesOfParts width level parts

end

def defaultWidth : UInt64 := 4

def print (width : UInt64) (fragment : Fragment) : String :=
  String.intercalate "\n" (fragment.lines width 0)

def ofLines (texts : List String) : Fragment := .sequence (texts.map .line)

end Fragment

end RecordForms
