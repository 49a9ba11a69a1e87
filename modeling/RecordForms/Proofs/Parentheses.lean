import RecordForms.Proofs.InfixOrder

/-! Parentheses that are inserted are needed. An operation gets parentheses below another one only
where its rank is too low to stand there bare, so without them the tokens stand for another tree or
for none. Parentheses that the expression has of its own are no reason for more or for fewer. -/
namespace RecordForms.Precedence

inductive WrittenTree (α : Type) where
  | leaf (label : α)
  | operation (operator : String) (left right : WrittenTree α)
  | parentheses (inner : WrittenTree α)

inductive Origin where
  /-- The expression has them itself. -/
  | written
  /-- The parent of an operation asks for them. -/
  | inserted
deriving DecidableEq

inductive Mark (α : Type) where
  | leaf (label : α)
  | operator (name : String)
  | opening (origin : Origin)
  | closing (origin : Origin)
deriving DecidableEq

def Mark.token {α : Type} : Mark α → Token α
  | .leaf label => .leaf label
  | .operator name => .operator name
  | .opening _ => .opening
  | .closing _ => .closing

def Token.isOperator {α : Type} : Token α → Bool
  | .operator _ => true
  | _ => false

variable {α : Type} {table : OperatorTable}

def plain (marks : List (Mark α)) : List (Token α) := marks.map Mark.token

def enclosed (origin : Origin) (marks : List (Mark α)) : List (Mark α) :=
  .opening origin :: (marks ++ [.closing origin])

@[simp] theorem plain_append (front back : List (Mark α)) :
    plain (front ++ back) = plain front ++ plain back :=
  List.map_append

@[simp] theorem plain_cons (mark : Mark α) (marks : List (Mark α)) :
    plain (mark :: marks) = mark.token :: plain marks :=
  rfl

@[simp] theorem plain_enclosed (origin : Origin) (marks : List (Mark α)) :
    plain (enclosed origin marks) = grouped (plain marks) := by
  simp [enclosed, grouped, plain, Mark.token]

namespace WrittenTree

def operations : WrittenTree α → OperatorTree α
  | .leaf label => .leaf label
  | .operation operator left right => .operation operator left.operations right.operations
  | .parentheses inner => inner.operations

/-- An expression in infix order where operations below rank `lowest` have parentheses. -/
def marks (table : OperatorTable) (lowest : Nat) : WrittenTree α → List (Mark α)
  | .leaf label => [.leaf label]
  | .operation operator left right =>
    let bare := left.marks table (operandRank table operator .left) ++
      .operator operator :: right.marks table (operandRank table operator .right)
    if rankOf table operator < lowest then enclosed .inserted bare else bare
  | .parentheses inner => enclosed .written (inner.marks table 0)

end WrittenTree

theorem derives_marks {tree : WrittenTree α} (h : tree.operations.Known table) (lowest : Nat) :
    Derives table lowest (plain (tree.marks table lowest)) tree.operations := by
  induction tree generalizing lowest with
  | leaf label => exact .leaf label
  | operation operator left right ihl ihr =>
    obtain ⟨hknown, hleft, hright⟩ := h
    have hbare {rank : Nat} (hrank : rank ≤ rankOf table operator) :
        Derives table rank (plain (left.marks table (operandRank table operator .left) ++
          .operator operator :: right.marks table (operandRank table operator .right)))
          (.operation operator left.operations right.operations) := by
      rw [plain_append, plain_cons]
      exact .operation hknown hrank (ihl hleft _) (ihr hright _)
    rw [WrittenTree.marks]
    split
    next =>
      rw [plain_enclosed]
      exact .group (hbare (Nat.zero_le _))
    next hrank => exact hbare (Nat.le_of_not_lt hrank)
  | parentheses inner ih =>
    rw [WrittenTree.marks, plain_enclosed]
    exact .group (ih h 0)

section Removal

variable {marks front back rest : List (Mark α)} {origin : Origin}

/-- Leaves out one pair of parentheses that was inserted. What stands between the two is balanced,
so they belong together. -/
def RemovesPair (marks rest : List (Mark α)) : Prop :=
  ∃ front inner back, Balanced (plain inner) ∧
    marks = front ++ .opening .inserted :: (inner ++ .closing .inserted :: back) ∧
    rest = front ++ (inner ++ back)

theorem not_balanced_of_opening (hback : 0 ≤ height (plain back)) :
    ¬Balanced (plain (front ++ .opening origin :: back)) := by
  rw [plain_append, plain_cons, Mark.token]
  intro h
  have hfront := h.2 _ _ rfl
  have hwhole := h.1
  rw [height_append, height] at hwhole
  omega

theorem not_balanced_of_closing (hfront : height (plain front) = 0) :
    ¬Balanced (plain (front ++ .closing origin :: back)) := by
  intro h
  have hclosed := h.2 (plain front ++ [.closing]) (plain back) (by simp [Mark.token])
  rw [height_append, hfront, height, height] at hclosed
  omega

theorem Balanced.plain_start {first second : List (Mark α)}
    (h : Balanced (plain (first ++ second))) : 0 ≤ height (plain first) :=
  h.2 _ _ (plain_append _ _)

theorem RemovesPair.height_eq (h : RemovesPair marks rest) :
    height (plain rest) = height (plain marks) := by
  obtain ⟨front, inner, back, -, rfl, rfl⟩ := h
  simp only [plain_append, plain_cons, Mark.token, height_append, height]
  omega

theorem RemovesPair.countP_eq (h : RemovesPair marks rest) :
    (plain rest).countP Token.isOperator = (plain marks).countP Token.isOperator := by
  obtain ⟨front, inner, back, -, rfl, rfl⟩ := h
  simp [Mark.token, Token.isOperator]

theorem RemovesPair.balanced (h : RemovesPair marks rest) (hmarks : Balanced (plain marks)) :
    Balanced (plain rest) := by
  refine ⟨h.height_eq.trans hmarks.1, fun start more hsplit => ?_⟩
  obtain ⟨front, inner, back, hinner, rfl, rfl⟩ := h
  simp only [plain_append, plain_cons, Mark.token] at hsplit hmarks
  have hfront : 0 ≤ height (plain front) := hmarks.2 _ _ rfl
  rcases List.append_eq_append_iff.mp hsplit with ⟨middle, rfl, hmiddle⟩ | ⟨middle, hmiddle, -⟩
  · rcases List.append_eq_append_iff.mp hmiddle with ⟨last, rfl, hlast⟩ | ⟨last, hlast, -⟩
    · -- the pair stands in front of this place, and its two parts cancel out
      have hbefore := hmarks.2 (plain front ++ .opening :: (plain inner ++ .closing :: last)) more
        (by simp [hlast])
      simp only [height_append, height] at hbefore ⊢
      omega
    · have hmiddle := hinner.2 middle last hlast
      rw [height_append]
      omega
  · exact hmarks.2 start _ (by rw [hmiddle, List.append_assoc])

theorem removesPair_append (hfront : Balanced (plain front))
    (h : RemovesPair (front ++ back) rest) :
    (∃ shorter, RemovesPair front shorter ∧ rest = shorter ++ back) ∨
      ∃ shorter, RemovesPair back shorter ∧ rest = front ++ shorter := by
  obtain ⟨before, inner, behind, hinner, hsplit, rfl⟩ := h
  rcases List.append_eq_append_iff.mp hsplit with ⟨more, rfl, hmore⟩ | ⟨more, rfl, hmore⟩
  · exact .inr ⟨more ++ (inner ++ behind), ⟨more, inner, behind, hinner, hmore, rfl⟩,
      List.append_assoc _ _ _⟩
  cases more with
  | nil =>
    refine .inr ⟨inner ++ behind, ⟨[], inner, behind, hinner, hmore.symm, rfl⟩, ?_⟩
    rw [List.append_nil]
  | cons mark more =>
    obtain ⟨rfl, hinside⟩ := List.cons.inj hmore
    -- the parenthesis opened in front is closed in front
    rcases List.append_eq_append_iff.mp hinside with ⟨last, rfl, hlast⟩ | ⟨last, rfl, hlast⟩
    · cases last with
      | nil =>
        rw [List.append_nil] at hfront
        exact absurd hfront (not_balanced_of_opening (Int.le_of_eq hinner.1.symm))
      | cons mark last =>
        obtain ⟨rfl, hbehind⟩ := List.cons.inj hlast
        refine .inl ⟨before ++ (inner ++ last), ⟨before, inner, last, hinner, rfl, rfl⟩, ?_⟩
        simp [hbehind]
    · exact absurd hfront (not_balanced_of_opening hinner.plain_start)

theorem removesPair_enclosed (hmarks : Balanced (plain marks))
    (h : RemovesPair (enclosed origin marks) rest) :
    (origin = .inserted ∧ rest = marks) ∨
      ∃ shorter, RemovesPair marks shorter ∧ rest = enclosed origin shorter := by
  obtain ⟨before, inner, behind, hinner, hsplit, rfl⟩ := h
  cases before with
  | nil =>
    obtain ⟨horigin, hinside⟩ := List.cons.inj hsplit
    rcases split_cases hinside with ⟨rfl, -, rfl⟩ | ⟨more, -, hnil⟩ | ⟨more, rfl, -⟩
    · exact .inl ⟨Mark.opening.inj horigin, by simp⟩
    · simp at hnil
    · exact absurd hmarks (not_balanced_of_closing hinner.1)
  | cons mark before =>
    obtain ⟨rfl, hinside⟩ := List.cons.inj hsplit
    rcases split_cases hinside with ⟨-, hmark, -⟩ | ⟨more, -, hnil⟩ | ⟨more, rfl, hmore⟩
    · cases hmark
    · simp at hnil
    rcases split_cases hmore with ⟨rfl, -, -⟩ | ⟨last, rfl, hlast⟩ | ⟨last, rfl, hlast⟩
    · exact absurd hmarks (not_balanced_of_opening (Int.le_of_eq hinner.1.symm))
    · refine .inr ⟨before ++ (inner ++ last), ⟨before, inner, last, hinner, rfl, rfl⟩, ?_⟩
      simp [enclosed, hlast]
    · simp at hlast

theorem removesPair_operation {operator : String} (hfront : Balanced (plain front))
    (h : RemovesPair (front ++ .operator operator :: back) rest) :
    (∃ shorter, RemovesPair front shorter ∧ rest = shorter ++ .operator operator :: back) ∨
      ∃ shorter, RemovesPair back shorter ∧ rest = front ++ .operator operator :: shorter := by
  rcases removesPair_append hfront h with hleft | ⟨shorter, hshorter, rfl⟩
  · exact .inl hleft
  obtain ⟨before, inner, behind, hinner, hsplit, rfl⟩ := hshorter
  cases before with
  | nil => cases hsplit
  | cons mark before =>
    obtain ⟨rfl, hback⟩ := List.cons.inj hsplit
    exact .inr ⟨_, ⟨before, inner, behind, hinner, hback, rfl⟩, rfl⟩

theorem not_removesPair_singleton {mark : Mark α} (h : RemovesPair [mark] rest) : False := by
  obtain ⟨before, inner, behind, -, hsplit, -⟩ := h
  have hlength := congrArg List.length hsplit
  simp at hlength
  omega

end Removal

def OperatorTree.size : OperatorTree α → Nat
  | .leaf _ => 0
  | .operation _ left right => left.size + right.size + 1

section Needed

variable {tokens front back : List (Token α)} {lowest : Nat} {tree left right : OperatorTree α}
  {operator : String}

theorem Derives.countP_eq (h : Derives table lowest tokens tree) :
    tokens.countP Token.isOperator = tree.size := by
  induction h with
  | leaf label => rfl
  | group _ ih => simp [grouped, Token.isOperator, ih]
  | operation _ _ _ _ ihl ihr =>
    simp only [List.countP_append, List.countP_cons, Token.isOperator, ihl, ihr, if_true,
      OperatorTree.size]
    omega

theorem Derives.of_grouped (h : Derives table lowest (grouped tokens) tree)
    (htokens : Balanced tokens) : Derives table 0 tokens tree := by
  generalize hgrouped : grouped tokens = whole at h
  cases h with
  | leaf label => cases hgrouped
  | group h =>
    obtain ⟨-, hinside⟩ := List.cons.inj hgrouped
    obtain ⟨rfl, -⟩ := List.append_inj' hinside rfl
    exact h
  | operation _ _ hleft _ => exact absurd hgrouped (grouped_ne htokens hleft.balanced.1)

/-- If what stands in front of an operator has as many operations as the left operand, then it is
the left operand. -/
theorem Derives.of_operation
    (h : Derives table lowest (front ++ .operator operator :: back)
      (.operation operator left right))
    (hfront : height front = 0) (hcount : front.countP Token.isOperator = left.size) :
    Derives table (operandRank table operator .left) front left ∧
      Derives table (operandRank table operator .right) back right := by
  generalize htokens : front ++ Token.operator operator :: back = tokens at h
  generalize htree : OperatorTree.operation operator left right = tree at h
  cases h with
  | leaf label => cases htree
  | group h => exact absurd htokens.symm (grouped_ne h.balanced hfront)
  | operation _ _ hleft hright =>
    cases htree
    have hsize := hleft.countP_eq
    rcases split_cases htokens with ⟨rfl, -, rfl⟩ | ⟨more, rfl, -⟩ | ⟨more, rfl, -⟩
    · exact ⟨hleft, hright⟩
    · rw [List.countP_append, List.countP_cons, Token.isOperator, if_pos rfl] at hsize
      omega
    · rw [List.countP_append, List.countP_cons, Token.isOperator, if_pos rfl] at hcount
      omega

theorem not_derives_operation {front back rest : List (Mark α)} {rank : Nat}
    (hfront : Derives table rank (plain front) left)
    (hleft : ∀ shorter, RemovesPair front shorter →
      ¬Derives table (operandRank table operator .left) (plain shorter) left)
    (hright : ∀ shorter, RemovesPair back shorter →
      ¬Derives table (operandRank table operator .right) (plain shorter) right)
    (h : RemovesPair (front ++ .operator operator :: back) rest) :
    ¬Derives table lowest (plain rest) (.operation operator left right) := by
  intro hderives
  rcases removesPair_operation hfront.balanced h with
    ⟨shorter, hshorter, rfl⟩ | ⟨shorter, hshorter, rfl⟩
  · rw [plain_append, plain_cons] at hderives
    have hheight := hshorter.height_eq.trans hfront.balanced.1
    have hcount := hshorter.countP_eq.trans hfront.countP_eq
    exact hleft shorter hshorter (hderives.of_operation hheight hcount).1
  · rw [plain_append, plain_cons] at hderives
    exact hright shorter hshorter
      (hderives.of_operation hfront.balanced.1 hfront.countP_eq).2

theorem not_derives_of_removesPair {tree : WrittenTree α} (hknown : tree.operations.Known table)
    {rest : List (Mark α)} (h : RemovesPair (tree.marks table lowest) rest) :
    ¬Derives table lowest (plain rest) tree.operations := by
  induction tree generalizing lowest rest with
  | leaf label => exact (not_removesPair_singleton h).elim
  | operation operator left right ihl ihr =>
    obtain ⟨hoperator, hleft, hright⟩ := hknown
    let front := left.marks table (operandRank table operator .left)
    let back := right.marks table (operandRank table operator .right)
    have hfront : Derives table _ (plain front) left.operations := derives_marks hleft _
    have hback : Derives table _ (plain back) right.operations := derives_marks hright _
    have hinside {lowest : Nat} {rest : List (Mark α)}
        (h : RemovesPair (front ++ .operator operator :: back) rest) :
        ¬Derives table lowest (plain rest)
          (.operation operator left.operations right.operations) :=
      not_derives_operation hfront (fun _ => ihl hleft) (fun _ => ihr hright) h
    rw [WrittenTree.marks] at h
    split at h
    next hlow =>
      have hbare : Balanced (plain (front ++ .operator operator :: back)) := by
        rw [plain_append, plain_cons]
        exact (Derives.operation hoperator (Nat.zero_le _) hfront hback).balanced
      rcases removesPair_enclosed hbare h with ⟨-, rfl⟩ | ⟨shorter, hshorter, rfl⟩
      · -- the operation itself has lost its parentheses, and its rank is too low without them
        intro hderives
        rw [plain_append, plain_cons] at hderives
        exact absurd (hderives.lowest_le_rankOf rfl hfront.balanced.1) (Nat.not_le_of_lt hlow)
      · intro hderives
        rw [plain_enclosed] at hderives
        exact hinside hshorter (hderives.of_grouped (hshorter.balanced hbare))
    next => exact hinside h
  | parentheses inner ih =>
    have hinside : inner.operations.Known table := hknown
    have hinner := derives_marks hinside 0
    rcases removesPair_enclosed hinner.balanced h with ⟨hwritten, -⟩ | ⟨shorter, hshorter, rfl⟩
    · cases hwritten
    · intro hderives
      rw [plain_enclosed] at hderives
      exact ih hinside hshorter (hderives.of_grouped (hshorter.balanced hinner.balanced))

end Needed

end RecordForms.Precedence

namespace RecordForms.Expression

open Precedence (WrittenTree Mark Derives RemovesPair Uniform rankOf operandRank plain enclosed)

variable {α : Type} {doc : Document} {table : OperatorTable} {label : Node → α} {value : Value}

/-- The tokens of an expression, as the renderer lays it out. What is neither an operation nor in
parentheses is one token. -/
def marksWithin (doc : Document) (table : OperatorTable) (label : Node → α) :
    Nat → Value → List Node → List (Mark α)
  | 0, _, _ => []
  | depth + 1, value, path =>
    match doc.nodeOf? value with
    | none => []
    | some node =>
      let operand := fun property => (node.get? property).elim [] fun held =>
        marksWithin doc table label depth held (path ++ [node])
      if node.concept = Concept.binaryOperation then
        let bare := operand Property.leftOperand ++
          .operator (OperatorTable.operatorOf node) :: operand Property.rightOperand
        if table.needsParentheses node path.getLast? then enclosed .inserted bare else bare
      else if node.concept = Concept.parentheses then enclosed .written (operand Property.inner)
      else [.leaf (label node)]

def marks (doc : Document) (table : OperatorTable) (label : Node → α) (value : Value) :
    List (Mark α) :=
  marksWithin doc table label doc.size value []

inductive HoldsWritten (doc : Document) (table : OperatorTable) (label : Node → α) :
    Value → WrittenTree α → Prop where
  | leaf {value : Value} {node : Node} (hnode : doc.nodeOf? value = some node)
      (hoperation : node.concept ≠ Concept.binaryOperation)
      (hparentheses : node.concept ≠ Concept.parentheses) :
      HoldsWritten doc table label value (.leaf (label node))
  | operation {value left right : Value} {node : Node} {operator : String} {l r : WrittenTree α}
      (hnode : doc.nodeOf? value = some node) (hconcept : node.concept = Concept.binaryOperation)
      (hoperator : node.getText? Property.operator = some operator)
      (hknown : (table.precedence? operator).isSome = true)
      (hleft : node.get? Property.leftOperand = some left)
      (left_holds : HoldsWritten doc table label left l)
      (hright : node.get? Property.rightOperand = some right)
      (right_holds : HoldsWritten doc table label right r) :
      HoldsWritten doc table label value (.operation operator l r)
  | parentheses {value inner : Value} {node : Node} {t : WrittenTree α}
      (hnode : doc.nodeOf? value = some node) (hconcept : node.concept = Concept.parentheses)
      (hinner : node.get? Property.inner = some inner)
      (inner_holds : HoldsWritten doc table label inner t) :
      HoldsWritten doc table label value (.parentheses t)

theorem HoldsWritten.known {tree : WrittenTree α} (h : HoldsWritten doc table label value tree) :
    tree.operations.Known table := by
  induction h with
  | leaf => trivial
  | operation _ _ _ hknown _ _ _ _ ihl ihr => exact ⟨hknown, ihl, ihr⟩
  | parentheses _ _ _ _ ih => exact ih

theorem marksWithin_operation {node : Node} {left right : Value} {operator : String}
    (hnode : doc.nodeOf? value = some node) (hconcept : node.concept = Concept.binaryOperation)
    (hoperator : node.getText? Property.operator = some operator)
    (hleft : node.get? Property.leftOperand = some left)
    (hright : node.get? Property.rightOperand = some right) (depth : Nat) (path : List Node) :
    marksWithin doc table label (depth + 1) value path =
      let bare := marksWithin doc table label depth left (path ++ [node]) ++
        .operator operator :: marksWithin doc table label depth right (path ++ [node])
      if table.needsParentheses node path.getLast? then enclosed .inserted bare else bare := by
  rw [marksWithin, hnode]
  simp only [if_pos hconcept, hleft, hright, Option.elim_some, OperatorTable.operatorOf, hoperator,
    Option.getD_some]

theorem marksWithin_parentheses {node : Node} {inner : Value}
    (hnode : doc.nodeOf? value = some node) (hconcept : node.concept = Concept.parentheses)
    (hinner : node.get? Property.inner = some inner) (depth : Nat) (path : List Node) :
    marksWithin doc table label (depth + 1) value path =
      enclosed .written (marksWithin doc table label depth inner (path ++ [node])) := by
  have hother : node.concept ≠ Concept.binaryOperation := by
    rw [hconcept]
    decide
  rw [marksWithin, hnode]
  simp only [if_neg hother, if_pos hconcept, hinner, Option.elim_some]

theorem asksBelow_parentheses {outer : Node} (hconcept : outer.concept = Concept.parentheses)
    (held : Value) (path : List Node) :
    AsksBelow doc table held (path ++ [outer]).getLast? 0 := by
  intro node operator _ _ _ _
  have houter : outer.isA Concept.binaryOperation = false := by
    rw [Node.isA, hconcept]
    decide
  simp [OperatorTable.needsParentheses, houter]

theorem marksWithin_eq (forest : doc.Forest) {tree : WrittenTree α}
    (h : HoldsWritten doc table label value tree) {depth lowest : Nat} {path : List Node}
    (hdepth : ∀ id ∈ value.owned, doc.Within depth id)
    (hpath : AsksBelow doc table value path.getLast? lowest) :
    marksWithin doc table label depth value path = tree.marks table lowest := by
  induction h generalizing depth lowest path with
  | @leaf value node hnode hoperation hparentheses =>
    obtain ⟨depth, rfl⟩ := exists_depth_eq_succ forest hnode hdepth
    rw [marksWithin, hnode]
    simp only [if_neg hoperation, if_neg hparentheses, WrittenTree.marks]
  | @operation value left right node operator l r hnode hconcept hoperator hknown hleft _ hright _
      ihl ihr =>
    obtain ⟨depth, rfl⟩ := exists_depth_eq_succ forest hnode hdepth
    obtain ⟨id, rfl, hget⟩ := nodeOf?_eq_some hnode
    have hl := ihl (within_held forest hnode hdepth hleft)
      (asksBelow_operand forest .left hget hconcept hoperator hknown hleft path)
    have hr := ihr (within_held forest hnode hdepth hright)
      (asksBelow_operand forest .right hget hconcept hoperator hknown hright path)
    have hasks := hpath node operator hnode hconcept hoperator hknown
    rw [marksWithin_operation hnode hconcept hoperator hleft hright, hl, hr, WrittenTree.marks]
    simp only [hasks]
  | @parentheses value inner node t hnode hconcept hinner _ ih =>
    obtain ⟨depth, rfl⟩ := exists_depth_eq_succ forest hnode hdepth
    rw [marksWithin_parentheses hnode hconcept hinner, WrittenTree.marks,
      ih (within_held forest hnode hdepth hinner) (asksBelow_parentheses hconcept inner path)]

theorem marks_eq (forest : doc.Forest) {tree : WrittenTree α}
    (h : HoldsWritten doc table label value tree) :
    marks doc table label value = tree.marks table 0 :=
  marksWithin_eq forest h (fun id _ => Document.within_of_size_le (Nat.le_refl _) id)
    (asksBelow_alone value)

theorem output_renderWithin_parentheses {node : Node} {inner : Value}
    (hnode : doc.nodeOf? value = some node) (hconcept : node.concept = Concept.parentheses)
    (hinner : node.get? Property.inner = some inner) (depth : Nat) (path : List Node) :
    (renderWithin doc table (depth + 1) value path).output =
      parenthesized (renderWithin doc table depth inner (path ++ [node])).output := by
  rw [renderWithin, hnode]
  simp only [hconcept, Concept.attributeReference, Concept.number, Concept.binaryOperation,
    Concept.parentheses, operand, hinner, Generated.output_bind, Generated.output_pure,
    String.reduceEq, if_false, if_true]

theorem renderWithin_spells_marks (forest : doc.Forest) {tree : WrittenTree Node}
    (h : HoldsWritten doc table id value tree) {depth : Nat} {path : List Node}
    (hdepth : ∀ id ∈ value.owned, doc.Within depth id)
    (hsign : ∀ node ∈ tree.operations.leaves,
      (leafText doc table node).toList.head? ≠ some '-') :
    (renderWithin doc table depth value path).output.toList =
        (plain (marksWithin doc table id depth value path)).flatMap (spell doc table) ∧
      (renderWithin doc table depth value path).output.toList.head? ≠ some '-' := by
  induction h generalizing depth path with
  | @leaf value node hnode hoperation hparentheses =>
    obtain ⟨depth, rfl⟩ := exists_depth_eq_succ forest hnode hdepth
    have htext := hsign node (List.mem_singleton_self node)
    rw [renderWithin_leaf forest hnode hoperation hdepth, marksWithin, hnode]
    simp only [if_neg hoperation, if_neg hparentheses]
    exact ⟨by simp [plain, Mark.token, spell, leafText], htext⟩
  | @operation value left right node operator l r hnode hconcept hoperator hknown hleft _ hright _
      ihl ihr =>
    obtain ⟨depth, rfl⟩ := exists_depth_eq_succ forest hnode hdepth
    obtain ⟨htextl, hheadl⟩ := @ihl depth (path ++ [node]) (within_held forest hnode hdepth hleft)
      fun leaf hleaf => hsign leaf (List.mem_append_left _ hleaf)
    obtain ⟨htextr, -⟩ := @ihr depth (path ++ [node]) (within_held forest hnode hdepth hright)
      fun leaf hleaf => hsign leaf (List.mem_append_right _ hleaf)
    obtain ⟨htext, hhead⟩ := toList_operation hnode hconcept hoperator hleft hright hheadl
    refine ⟨?_, hhead⟩
    rw [htext, marksWithin_operation hnode hconcept hoperator hleft hright]
    dsimp only
    split
    · simp [Precedence.grouped, Mark.token, spell, htextl, htextr]
    · simp [Mark.token, spell, htextl, htextr]
  | @parentheses value inner node t hnode hconcept hinner _ ih =>
    obtain ⟨depth, rfl⟩ := exists_depth_eq_succ forest hnode hdepth
    obtain ⟨htext, -⟩ := @ih depth (path ++ [node]) (within_held forest hnode hdepth hinner) hsign
    rw [output_renderWithin_parentheses hnode hconcept hinner,
      marksWithin_parentheses hnode hconcept hinner]
    simp [parenthesized, Precedence.grouped, spell, htext]

/-- The tokens of an expression stand for it and for nothing else, and without a pair of the
parentheses that were inserted they do not stand for it; and the code of an expression is spelled
from its tokens. -/
theorem inserted_parentheses_needed {α : Type} (label : Node → α) {doc : Document}
    (hdoc : doc.Reachable) {table : OperatorTable}
    (uniform : ∀ a b rank, table.precedence? a = some rank → table.precedence? b = some rank →
      table.associativityOf a = table.associativityOf b)
    {value : Value} {tree : WrittenTree α} (h : HoldsWritten doc table label value tree) :
    (∀ other, Derives table 0 (plain (marks doc table label value)) other ↔
        other = tree.operations) ∧
      (∀ rest, RemovesPair (marks doc table label value) rest →
        ¬Derives table 0 (plain rest) tree.operations) ∧
      ∀ named : WrittenTree Node, HoldsWritten doc table id value named →
        (∀ leaf ∈ named.operations.leaves, (leafText doc table leaf).toList.head? ≠ some '-') →
          (render doc table value).output.toList =
            (plain (marks doc table id value)).flatMap (spell doc table) := by
  have forest := hdoc.wellFormed.toForest
  have hderives := Precedence.derives_marks h.known 0
  rw [marks_eq forest h]
  refine ⟨fun other => ⟨fun hother => hother.unique uniform hderives, ?_⟩, fun rest hrest => ?_, ?_⟩
  · rintro rfl
    exact hderives
  · exact Precedence.not_derives_of_removesPair h.known hrest
  · intro tree htree hsign
    exact (renderWithin_spells_marks forest htree
      (fun id _ => Document.within_of_size_le (Nat.le_refl _) id) hsign).1

theorem uniform_standard : Uniform .standard := by
  intro a b rank ha hb
  obtain ⟨x, hx⟩ := operation?_of_precedence? (Option.isSome_of_eq_some ha)
  obtain ⟨y, hy⟩ := operation?_of_precedence? (Option.isSome_of_eq_some hb)
  obtain ⟨hrankx, hsidex, -⟩ := standard_of_operation? hx
  obtain ⟨hranky, hsidey, -⟩ := standard_of_operation? hy
  have hrank : x.level.rank = y.level.rank := by
    rw [← Option.some_inj, ← hrankx, ← hranky, ha, hb]
  rw [hsidex, hsidey]
  cases x <;> cases y <;> first | rfl | exact absurd hrank (by decide)

/-- A sum below a difference below a product, with a leaf that is in parentheses of its own. -/
theorem inserted_parentheses_needed_sum :
    let doc := List.foldl Document.after (.new "r" "Record Type") [
      .create "a" "Number" .empty, .create "b" "Number" .empty, .create "c" "Number" .empty,
      .create "d" "Number" .empty,
      .create "own" "Parentheses" (.ofList [("sub", .node "a")]),
      .create "sum" "Binary Operation" (.ofList [("left operand", .node "c"),
        ("operator", .text "+"), ("right operand", .node "d")]),
      .create "rest" "Binary Operation" (.ofList [("left operand", .node "b"),
        ("operator", .text "-"), ("right operand", .node "sum")]),
      .create "all" "Binary Operation" (.ofList [("left operand", .node "own"),
        ("operator", .text "*"), ("right operand", .node "rest")])]
    let tree : WrittenTree NodeId := .operation "*" (.parentheses (.leaf "a"))
      (.operation "-" (.leaf "b") (.operation "+" (.leaf "c") (.leaf "d")))
    let rest : List (Mark NodeId) := [.opening .written, .leaf "a", .closing .written,
      .operator "*", .opening .inserted, .leaf "b", .operator "-", .leaf "c", .operator "+",
      .leaf "d", .closing .inserted]
    doc.Reachable ∧ HoldsWritten doc .standard Node.id (.node "all") tree ∧
      RemovesPair (marks doc .standard Node.id (.node "all")) rest ∧
      ¬Derives .standard 0 (plain rest) tree.operations := by
  intro doc tree rest
  have hdoc : doc.Reachable :=
    (Document.Reachable.new "r" "Record Type").afterAll (by decide +kernel)
  have hnumbers : ∀ id ∈ ["a", "b", "c", "d"],
      (doc.get? id).map Node.concept = some Concept.number := by decide +kernel
  have hleaf {id : NodeId} (hid : id ∈ ["a", "b", "c", "d"]) :
      HoldsWritten doc .standard Node.id (.node id) (.leaf id) := by
    obtain ⟨node, hget, hconcept⟩ := Option.map_eq_some_iff.mp (hnumbers id hid)
    obtain rfl := hdoc.wellFormed.keyed hget
    exact .leaf hget (by rw [hconcept]; decide) (by rw [hconcept]; decide)
  have hinner : Derives .standard 0 [.leaf "c", .operator "+", .leaf "d"]
      (.operation "+" (.leaf "c") (.leaf "d")) :=
    .operation (by decide +kernel) (Nat.zero_le _) (.leaf "c") (.leaf "d")
  have htree : HoldsWritten doc .standard Node.id (.node "all") tree := by
    refine .operation rfl rfl rfl (by decide +kernel) rfl (.parentheses rfl rfl rfl ?_) rfl
      (.operation rfl rfl rfl (by decide +kernel) rfl ?_ rfl
        (.operation rfl rfl rfl (by decide +kernel) rfl ?_ rfl ?_))
    all_goals exact hleaf (by simp)
  have hrest : RemovesPair (marks doc .standard Node.id (.node "all")) rest := by
    exact ⟨[.opening .written, .leaf "a", .closing .written, .operator "*", .opening .inserted,
      .leaf "b", .operator "-"], [.leaf "c", .operator "+", .leaf "d"], [.closing .inserted],
      hinner.balanced, by decide +kernel, rfl⟩
  exact ⟨hdoc, htree, hrest,
    (inserted_parentheses_needed Node.id hdoc uniform_standard htree).2.1 rest hrest⟩

end RecordForms.Expression
