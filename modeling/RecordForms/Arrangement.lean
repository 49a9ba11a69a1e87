/-! Orders in which everything comes after what it reads. The first item that is not yet placed
and reads placed items only is placed next, so items keep their given order where they can. -/
namespace RecordForms

inductive Arrangement (α : Type) where
  | ordered (items : List α)
  | stuck (left : List α)

namespace Arrangement

variable {α : Type} [DecidableEq α]

def ready (items : List α) (reads : α → List α) (placed : List α) (item : α) : Bool :=
  (reads item).all fun read => !items.contains read || placed.contains read

def extend (items : List α) (reads : α → List α) (placed left : List α) : Arrangement α :=
  match _found : left.find? (ready items reads placed) with
  | some item =>
    extend items reads (placed ++ [item]) (left.eraseP (ready items reads placed))
  | none => if left.isEmpty then .ordered placed else .stuck left
termination_by left.length
decreasing_by
  have hmem := List.mem_of_find?_eq_some _found
  rw [List.length_eraseP_of_mem hmem (List.find?_some _found)]
  exact Nat.sub_lt (List.length_pos_of_mem hmem) Nat.one_pos

/-- An order of the items, in which an item that reads another one of them follows a copy of it. -/
def of (items : List α) (reads : α → List α) : Arrangement α := extend items reads [] items

def isOrdered : Arrangement α → Bool
  | .ordered _ => true
  | .stuck _ => false

def orGiven (given : List α) : Arrangement α → List α
  | .ordered items => items
  | .stuck _ => given

end Arrangement

end RecordForms
