import RecordForms.Proofs.Precedence
import RecordForms.Proofs.Rendering
import RecordForms.Proofs.Repeats

/-! Expressions in infix order. The renderer puts parentheses around an operation where its parent
asks for them; these are the parentheses of the grammar of the table, so an expression can be told
from its tokens exactly if operators of one rank group to one side. -/
namespace RecordForms.Expression

open Precedence (OperatorTree Token Uniform rankOf operandRank grouped)

variable {α : Type} {doc : Document} {table : OperatorTable} {label : Node → α} {value : Value}

/-- The tokens of an expression, as the renderer lays it out. What is no operation is one token. -/
def layoutWithin (doc : Document) (table : OperatorTable) (label : Node → α) :
    Nat → Value → List Node → List (Token α)
  | 0, _, _ => []
  | depth + 1, value, path =>
    match doc.nodeOf? value with
    | none => []
    | some node =>
      if node.concept = Concept.binaryOperation then
        let operand := fun property => (node.get? property).elim [] fun held =>
          layoutWithin doc table label depth held (path ++ [node])
        let bare := operand Property.leftOperand ++
          .operator (OperatorTable.operatorOf node) :: operand Property.rightOperand
        if table.needsParentheses node path.getLast? then grouped bare else bare
      else [.leaf (label node)]

def layout (doc : Document) (table : OperatorTable) (label : Node → α) (value : Value) :
    List (Token α) :=
  layoutWithin doc table label doc.size value []

/-- The value is an expression of operators that the table knows, down to its leaves. -/
inductive HoldsTree (doc : Document) (table : OperatorTable) (label : Node → α) :
    Value → OperatorTree α → Prop where
  | leaf {value : Value} {node : Node} (hnode : doc.nodeOf? value = some node)
      (hconcept : node.concept ≠ Concept.binaryOperation) :
      HoldsTree doc table label value (.leaf (label node))
  | operation {value left right : Value} {node : Node} {operator : String} {l r : OperatorTree α}
      (hnode : doc.nodeOf? value = some node) (hconcept : node.concept = Concept.binaryOperation)
      (hoperator : node.getText? Property.operator = some operator)
      (hknown : (table.precedence? operator).isSome = true)
      (hleft : node.get? Property.leftOperand = some left)
      (left_holds : HoldsTree doc table label left l)
      (hright : node.get? Property.rightOperand = some right)
      (right_holds : HoldsTree doc table label right r) :
      HoldsTree doc table label value (.operation operator l r)

theorem HoldsTree.known {tree : OperatorTree α} (h : HoldsTree doc table label value tree) :
    tree.Known table := by
  induction h with
  | leaf => trivial
  | operation _ _ _ hknown _ _ _ _ ihl ihr => exact ⟨hknown, ihl, ihr⟩

theorem ownsAt_operand (forest : doc.Forest) {id : NodeId} {outer node : Node} {held : Value}
    {side : Associativity} (houter : doc.get? id = some outer)
    (hheld : outer.get? side.operand = some held) (hnode : doc.nodeOf? held = some node)
    (associativity : Associativity) :
    outer.ownsAt associativity.operand node.id = decide (associativity = side) := by
  by_cases hside : associativity = side
  · obtain ⟨key, rfl, hget⟩ := nodeOf?_eq_some hnode
    rw [hside, Node.ownsAt, hheld, forest.keyed hget]
    simp [Value.asNode?]
  · rw [decide_eq_false hside]
    refine ownsAt_of_ne forest houter hheld hnode fun hsame => hside ?_
    cases side <;> cases associativity <;> first | rfl | exact absurd hsame (by decide)

theorem needsParentheses_iff (forest : doc.Forest) {id : NodeId} {outer node : Node} {held : Value}
    {side : Associativity} {operator inner : String} (houter : doc.get? id = some outer)
    (hconcept : outer.concept = Concept.binaryOperation)
    (hoperator : outer.getText? Property.operator = some operator)
    (hknown : (table.precedence? operator).isSome = true)
    (hheld : outer.get? side.operand = some held) (hnode : doc.nodeOf? held = some node)
    (hconcept' : node.concept = Concept.binaryOperation)
    (hinner : node.getText? Property.operator = some inner)
    (hknown' : (table.precedence? inner).isSome = true) :
    table.needsParentheses node (some outer) = true ↔
      rankOf table inner < operandRank table operator side := by
  obtain ⟨rank, hrank⟩ := Option.isSome_iff_exists.mp hknown
  obtain ⟨rank', hrank'⟩ := Option.isSome_iff_exists.mp hknown'
  simp only [OperatorTable.needsParentheses, OperatorTable.needsParenthesesUnder, Node.isA,
    OperatorTable.operatorOf, hconcept, hconcept', hoperator, hinner, hrank, hrank',
    ownsAt_operand forest houter hheld hnode, operandRank, rankOf, Option.getD_some,
    beq_self_eq_true, Bool.true_and, Bool.or_eq_true, Bool.and_eq_true, decide_eq_true_eq,
    beq_iff_eq, Bool.not_eq_eq_eq_not, Bool.not_true, decide_eq_false_iff_not]
  by_cases hside : table.associativityOf operator = side
  · rw [if_pos hside]
    simp [hside]
  · rw [if_neg hside]
    simp only [hside, not_false_eq_true, and_true]
    omega

/-- Parentheses stand around the operations below rank `lowest` that a value may be. -/
def AsksBelow (doc : Document) (table : OperatorTable) (value : Value) (parent : Option Node)
    (lowest : Nat) : Prop :=
  ∀ node operator, doc.nodeOf? value = some node → node.concept = Concept.binaryOperation →
    node.getText? Property.operator = some operator → (table.precedence? operator).isSome = true →
      (table.needsParentheses node parent = true ↔ rankOf table operator < lowest)

theorem asksBelow_operand (forest : doc.Forest) (side : Associativity) {id : NodeId} {outer : Node}
    {held : Value} {operator : String} (houter : doc.get? id = some outer)
    (hconcept : outer.concept = Concept.binaryOperation)
    (hoperator : outer.getText? Property.operator = some operator)
    (hknown : (table.precedence? operator).isSome = true)
    (hheld : outer.get? side.operand = some held) (path : List Node) :
    AsksBelow doc table held (path ++ [outer]).getLast? (operandRank table operator side) := by
  intro node inner hnode hconcept' hinner hknown'
  rw [List.getLast?_concat]
  exact needsParentheses_iff forest houter hconcept hoperator hknown hheld hnode hconcept' hinner
    hknown'

theorem asksBelow_alone (value : Value) : AsksBelow doc table value none 0 := by
  intro node operator _ _ _ _
  simp [OperatorTable.needsParentheses]

theorem layoutWithin_operation {node : Node} {left right : Value} {operator : String}
    (hnode : doc.nodeOf? value = some node) (hconcept : node.concept = Concept.binaryOperation)
    (hoperator : node.getText? Property.operator = some operator)
    (hleft : node.get? Property.leftOperand = some left)
    (hright : node.get? Property.rightOperand = some right) (depth : Nat) (path : List Node) :
    layoutWithin doc table label (depth + 1) value path =
      let bare := layoutWithin doc table label depth left (path ++ [node]) ++
        .operator operator :: layoutWithin doc table label depth right (path ++ [node])
      if table.needsParentheses node path.getLast? then grouped bare else bare := by
  rw [layoutWithin, hnode]
  simp only [if_pos hconcept, hleft, hright, Option.elim_some, OperatorTable.operatorOf, hoperator,
    Option.getD_some]

theorem layoutWithin_eq (forest : doc.Forest) {tree : OperatorTree α}
    (h : HoldsTree doc table label value tree) {depth lowest : Nat} {path : List Node}
    (hdepth : ∀ id ∈ value.owned, doc.Within depth id)
    (hpath : AsksBelow doc table value path.getLast? lowest) :
    layoutWithin doc table label depth value path = tree.tokens table lowest := by
  induction h generalizing depth lowest path with
  | @leaf value node hnode hconcept =>
    obtain ⟨depth, rfl⟩ := exists_depth_eq_succ forest hnode hdepth
    rw [layoutWithin, hnode]
    exact if_neg hconcept
  | @operation value left right node operator l r hnode hconcept hoperator hknown hleft _ hright _
      ihl ihr =>
    obtain ⟨depth, rfl⟩ := exists_depth_eq_succ forest hnode hdepth
    obtain ⟨id, rfl, hget⟩ := nodeOf?_eq_some hnode
    have hl := ihl (within_held forest hnode hdepth hleft)
      (asksBelow_operand forest .left hget hconcept hoperator hknown hleft path)
    have hr := ihr (within_held forest hnode hdepth hright)
      (asksBelow_operand forest .right hget hconcept hoperator hknown hright path)
    have hasks := hpath node operator hnode hconcept hoperator hknown
    rw [layoutWithin_operation hnode hconcept hoperator hleft hright, hl, hr, OperatorTree.tokens]
    simp only [hasks]

theorem layout_eq (forest : doc.Forest) {tree : OperatorTree α}
    (h : HoldsTree doc table label value tree) :
    layout doc table label value = tree.tokens table 0 :=
  layoutWithin_eq forest h (fun id _ => Document.within_of_size_le (Nat.le_refl _) id)
    (asksBelow_alone value)

def leafText (doc : Document) (table : OperatorTable) (node : Node) : String :=
  (render doc table (.node node.id)).output

def spell (doc : Document) (table : OperatorTable) : Token Node → List Char
  | .leaf node => (leafText doc table node).toList
  | .operator name => (" " ++ codeOperator name ++ " ").toList
  | .opening => ['(']
  | .closing => [')']

theorem renderWithin_leaf (forest : doc.Forest) {node : Node}
    (hnode : doc.nodeOf? value = some node) (hconcept : node.concept ≠ Concept.binaryOperation)
    {depth : Nat} {path : List Node} (hdepth : ∀ id ∈ value.owned, doc.Within depth id) :
    renderWithin doc table depth value path = render doc table (.node node.id) := by
  obtain ⟨id, rfl, hget⟩ := nodeOf?_eq_some hnode
  rw [forest.keyed hget]
  refine renderWithin_eq forest hdepth
    (fun id _ => Document.within_of_size_le (Nat.le_refl _) id) fun found hfound => ?_
  obtain rfl := Option.some.inj (hnode.symm.trans hfound)
  rw [needsParentheses_of_ne hconcept, needsParentheses_of_ne hconcept]

theorem output_operation {node : Node} {left right : Value} {name : String}
    (hoperator : node.getText? Property.operator = some name)
    (hleft : node.get? Property.leftOperand = some left)
    (hright : node.get? Property.rightOperand = some right) (render : Value → Generated String) :
    (operation render node).output = guardPower node (render left).output ++ " " ++
      codeOperator name ++ " " ++ (render right).output := by
  simp only [operation, operand, operator, hoperator, hleft, hright, Generated.output_bind,
    Generated.output_pure]

theorem output_renderWithin {node : Node} (hnode : doc.nodeOf? value = some node)
    (hconcept : node.concept = Concept.binaryOperation) (depth : Nat) (path : List Node) :
    (renderWithin doc table (depth + 1) value path).output =
      let text := (operation (fun held => renderWithin doc table depth held (path ++ [node]))
        node).output
      if table.needsParentheses node path.getLast? then parenthesized text else text := by
  rw [renderWithin_operation hnode hconcept, Generated.output_map]

theorem guardPower_eq {node : Node} {left : String} (h : left.toList.head? ≠ some '-') :
    guardPower node left = left := by
  simp [guardPower, h]

/-- The code of an operation, unless a minus sign begins its left operand: then a power may have
further parentheses. -/
theorem toList_operation {node : Node} {left right : Value} {name : String}
    (hnode : doc.nodeOf? value = some node) (hconcept : node.concept = Concept.binaryOperation)
    (hoperator : node.getText? Property.operator = some name)
    (hleft : node.get? Property.leftOperand = some left)
    (hright : node.get? Property.rightOperand = some right) {depth : Nat} {path : List Node}
    (hhead : (renderWithin doc table depth left (path ++ [node])).output.toList.head? ≠ some '-') :
    (renderWithin doc table (depth + 1) value path).output.toList =
        (let bare := (renderWithin doc table depth left (path ++ [node])).output.toList ++
          ((" " ++ codeOperator name ++ " ").toList ++
            (renderWithin doc table depth right (path ++ [node])).output.toList)
        if table.needsParentheses node path.getLast? then '(' :: (bare ++ [')']) else bare) ∧
      (renderWithin doc table (depth + 1) value path).output.toList.head? ≠ some '-' := by
  rw [output_renderWithin hnode hconcept, output_operation hoperator hleft hright,
    guardPower_eq hhead]
  dsimp only
  split
  · simp [parenthesized]
  · refine ⟨by simp, ?_⟩
    cases hchars : (renderWithin doc table depth left (path ++ [node])).output.toList with
    | nil => simp [hchars]
    | cons c chars => simpa [hchars] using hhead

theorem renderWithin_spells (forest : doc.Forest) {tree : OperatorTree Node}
    (h : HoldsTree doc table id value tree) {depth : Nat} {path : List Node}
    (hdepth : ∀ id ∈ value.owned, doc.Within depth id)
    (hsign : ∀ node ∈ tree.leaves, (leafText doc table node).toList.head? ≠ some '-') :
    (renderWithin doc table depth value path).output.toList =
        (layoutWithin doc table id depth value path).flatMap (spell doc table) ∧
      (renderWithin doc table depth value path).output.toList.head? ≠ some '-' := by
  induction h generalizing depth path with
  | @leaf value node hnode hconcept =>
    obtain ⟨depth, rfl⟩ := exists_depth_eq_succ forest hnode hdepth
    have htext := hsign node (List.mem_singleton_self node)
    rw [renderWithin_leaf forest hnode hconcept hdepth, layoutWithin, hnode]
    dsimp only
    rw [if_neg hconcept]
    exact ⟨by simp [spell, leafText], htext⟩
  | @operation value left right node operator l r hnode hconcept hoperator hknown hleft _ hright _
      ihl ihr =>
    obtain ⟨depth, rfl⟩ := exists_depth_eq_succ forest hnode hdepth
    obtain ⟨htextl, hheadl⟩ := @ihl depth (path ++ [node]) (within_held forest hnode hdepth hleft)
      fun leaf hleaf => hsign leaf (List.mem_append_left _ hleaf)
    obtain ⟨htextr, -⟩ := @ihr depth (path ++ [node]) (within_held forest hnode hdepth hright)
      fun leaf hleaf => hsign leaf (List.mem_append_right _ hleaf)
    obtain ⟨htext, hhead⟩ := toList_operation hnode hconcept hoperator hleft hright hheadl
    refine ⟨?_, hhead⟩
    rw [htext, layoutWithin_operation hnode hconcept hoperator hleft hright]
    dsimp only
    split
    · simp [grouped, spell, htextl, htextr]
    · simp [spell, htextl, htextr]

section Groupings

def storedLeaf (id : NodeId) : Stored := .node id Concept.number []

def storedOperation (id : NodeId) (left : Stored) (operator : String) (right : Stored) : Stored :=
  .node id Concept.binaryOperation [(Property.leftOperand, left),
    (Property.operator, .text operator), (Property.rightOperand, right)]

def leafOf (label : Node → α) (id : NodeId) : OperatorTree α :=
  .leaf (label ⟨id, Concept.number, .empty⟩)

variable {stored left right : Stored} {id : NodeId} {name : String}

theorem holdsTree_storedLeaf (h : Document.load stored = .ok doc)
    (hpart : (storedLeaf id).nodes ⊆ stored.nodes) :
    HoldsTree doc table label (storedLeaf id).held (leafOf label id) := by
  have hget : doc.get? id = some ⟨id, Concept.number, .empty⟩ :=
    (Document.get?_of_load h).mpr ⟨hpart (List.mem_singleton_self _), rfl⟩
  have hconcept : Concept.number ≠ Concept.binaryOperation := by decide
  exact .leaf hget hconcept

theorem holdsTree_storedOperation (h : Document.load stored = .ok doc) {l r : OperatorTree α}
    (hpart : (storedOperation id left name right).nodes ⊆ stored.nodes)
    (hknown : (table.precedence? name).isSome = true)
    (hleft : left.nodes ⊆ stored.nodes → HoldsTree doc table label left.held l)
    (hright : right.nodes ⊆ stored.nodes → HoldsTree doc table label right.held r) :
    HoldsTree doc table label (storedOperation id left name right).held (.operation name l r) := by
  let settings : List (String × Value) := [(Property.leftOperand, left.held),
    (Property.operator, .text name), (Property.rightOperand, right.held)]
  have hkeys :
      [Property.leftOperand, Property.operator, Property.rightOperand].Pairwise (· < ·) := by
    decide
  have hentries : (TextMap.ofList settings).entries = settings :=
    TextMap.entries_ofList (List.pairwise_map.mp hkeys)
  have hnodes : (storedOperation id left name right).nodes =
      left.nodes ++ right.nodes ++ [⟨id, Concept.binaryOperation, .ofList settings⟩] := by
    simp [storedOperation, Stored.nodes, Stored.nodesOfSettings, Stored.heldSettings, Stored.held,
      settings]
  rw [hnodes, List.append_subset, List.append_subset] at hpart
  have hget : doc.get? id = some ⟨id, Concept.binaryOperation, .ofList settings⟩ :=
    (Document.get?_of_load h).mpr ⟨hpart.2 (List.mem_singleton_self _), rfl⟩
  have hsetting {property : String} {held : Value} (hmem : (property, held) ∈ settings) :
      (TextMap.ofList settings).get? property = some held := by
    rw [← TextMap.mem_entries_iff, hentries]
    exact hmem
  have hoperator : (TextMap.ofList settings).get? Property.operator = some (.text name) :=
    hsetting (by simp [settings])
  exact .operation hget rfl (congrArg (Option.bind · Value.asText?) hoperator) hknown
    (hsetting (by simp [settings])) (hleft hpart.1.1) (hsetting (by simp [settings]))
    (hright hpart.1.2)

theorem exists_groupings {a b : String} (ha : (table.precedence? a).isSome = true)
    (hb : (table.precedence? b).isSome = true) (label : Node → α) :
    ∃ d e : Document, d.Reachable ∧ e.Reachable ∧ ∃ v w,
      HoldsTree d table label v
        (.operation a (.operation b (leafOf label "x") (leafOf label "y")) (leafOf label "z")) ∧
      HoldsTree e table label w
        (.operation b (leafOf label "x") (.operation a (leafOf label "y") (leafOf label "z"))) := by
  let first := storedOperation "outer"
    (storedOperation "inner" (storedLeaf "x") b (storedLeaf "y")) a (storedLeaf "z")
  let second := storedOperation "outer" (storedLeaf "x") b
    (storedOperation "inner" (storedLeaf "y") a (storedLeaf "z"))
  have hfirst : first.ids.Nodup := by
    simp [first, storedOperation, storedLeaf, Stored.ids, Stored.nodes, Stored.nodesOfSettings]
  have hsecond : second.ids.Nodup := by
    simp [second, storedOperation, storedLeaf, Stored.ids, Stored.nodes, Stored.nodesOfSettings]
  obtain ⟨d, hd⟩ := Document.exists_load_iff.mpr ⟨⟨_, _, _, rfl⟩, hfirst⟩
  obtain ⟨e, he⟩ := Document.exists_load_iff.mpr ⟨⟨_, _, _, rfl⟩, hsecond⟩
  have hreachable {stored : Stored} {doc : Document} (hwhole : stored.floats = [])
      (h : Document.load stored = .ok doc) : doc.Reachable :=
    .loaded (fun x hx => absurd (hwhole ▸ hx) List.not_mem_nil) h
  refine ⟨d, e, hreachable rfl hd, hreachable rfl he, first.held, second.held, ?_, ?_⟩
  · exact holdsTree_storedOperation hd (List.Subset.refl _) ha
      (fun h => holdsTree_storedOperation hd h hb (holdsTree_storedLeaf hd)
        (holdsTree_storedLeaf hd)) (holdsTree_storedLeaf hd)
  · exact holdsTree_storedOperation he (List.Subset.refl _) hb (holdsTree_storedLeaf he)
      (fun h => holdsTree_storedOperation he h ha (holdsTree_storedLeaf he)
        (holdsTree_storedLeaf he))

end Groupings

/-- Different expressions have different tokens exactly if operators of one rank group to one side;
and the code of an expression is spelled from its tokens. -/
theorem layout_injective_iff {α : Type} (label : Node → α) (table : OperatorTable) :
    ((∀ d e : Document, d.Reachable → e.Reachable → ∀ (v w : Value) (s t : OperatorTree α),
        HoldsTree d table label v s → HoldsTree e table label w t → s ≠ t →
          layout d table label v ≠ layout e table label w) ↔
      ∀ a b rank, table.precedence? a = some rank → table.precedence? b = some rank →
        table.associativityOf a = table.associativityOf b) ∧
    ∀ (doc : Document) (value : Value) (tree : OperatorTree Node), doc.Reachable →
      HoldsTree doc table id value tree →
      (∀ leaf ∈ tree.leaves, (leafText doc table leaf).toList.head? ≠ some '-') →
        (render doc table value).output.toList =
          (layout doc table id value).flatMap (spell doc table) := by
  refine ⟨⟨fun injective => ?_, fun uniform d e hd he v w s t hs ht hne heq => ?_⟩, ?_⟩
  · -- operators of one rank that group to different sides give two trees the same tokens
    have hcollide {a b : String} {rank : Nat} (ha : table.precedence? a = some rank)
        (hb : table.precedence? b = some rank) (hleft : table.associativityOf a = .left)
        (hright : table.associativityOf b = .right) : False := by
      obtain ⟨d, e, hd, he, v, w, hs, ht⟩ := exists_groupings (Option.isSome_of_eq_some ha)
        (Option.isSome_of_eq_some hb) label
      refine injective d e hd he _ _ _ _ hs ht nofun ?_
      rw [layout_eq hd.wellFormed.toForest hs, layout_eq he.wellFormed.toForest ht]
      exact Precedence.tokens_eq_of_mixed ha hb hleft hright _ _ _
    intro a b rank ha hb
    cases hassocA : table.associativityOf a <;> cases hassocB : table.associativityOf b
    · rfl
    · exact (hcollide ha hb hassocA hassocB).elim
    · exact (hcollide hb ha hassocB hassocA).elim
    · rfl
  · rw [layout_eq hd.wellFormed.toForest hs, layout_eq he.wellFormed.toForest ht] at heq
    exact hne (Precedence.tokens_injective uniform hs.known ht.known heq)
  · intro doc value tree hdoc htree hsign
    exact (renderWithin_spells hdoc.wellFormed.toForest htree
      (fun id _ => Document.within_of_size_le (Nat.le_refl _) id) hsign).1

end RecordForms.Expression
