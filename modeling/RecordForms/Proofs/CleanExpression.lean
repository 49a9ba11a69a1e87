import RecordForms.Proofs.Visible

/-! Which values are rendered without problems: those that are expressions down to their leaves. In
all others every problem has its placeholder in the code, in the order in which they were met. -/
namespace RecordForms.Expression

inductive IsNumber : Value → Prop where
  | integer (n : Int64) : IsNumber (.int n)
  | float {x : Binary64} (hfinite : x.isFinite = true) : IsNumber (.float x)
  | decimal {s : String} {d : Decimal} (hread : Decimal.read? (Text.trim s.toList) = some d) :
      IsNumber (.text s)

/-- The value is a node of the document that is a well formed expression. -/
inductive IsExpression (doc : Document) : Value → Prop where
  | reference {value : Value} {node target : Node} {id : NodeId} {name : String}
      (hnode : doc.nodeOf? value = some node)
      (hconcept : node.concept = Concept.attributeReference)
      (hreference : node.get? Property.referenced = some (.reference (some id)))
      (htarget : doc.get? id = some target) (hname : target.codeName? = some name) :
      IsExpression doc value
  | number {value held : Value} {node : Node} (hnode : doc.nodeOf? value = some node)
      (hconcept : node.concept = Concept.number) (hheld : node.get? Property.value = some held)
      (hnumber : IsNumber held) : IsExpression doc value
  | operation {value left right : Value} {node : Node} {operator : String}
      (hnode : doc.nodeOf? value = some node) (hconcept : node.concept = Concept.binaryOperation)
      (hoperator : node.getText? Property.operator = some operator)
      (hleft : node.get? Property.leftOperand = some left)
      (left_expression : IsExpression doc left)
      (hright : node.get? Property.rightOperand = some right)
      (right_expression : IsExpression doc right) : IsExpression doc value
  | parentheses {value inner : Value} {node : Node} (hnode : doc.nodeOf? value = some node)
      (hconcept : node.concept = Concept.parentheses)
      (hinner : node.get? Property.inner = some inner)
      (inner_expression : IsExpression doc inner) : IsExpression doc value

variable {doc : Document} {table : OperatorTable} {node : Node} {value : Value}

theorem attributeReference_clean_iff :
    (attributeReference doc node).diagnostics = [] ↔
      ∃ id target name, node.get? Property.referenced = some (.reference (some id)) ∧
        doc.get? id = some target ∧ target.codeName? = some name := by
  constructor
  · intro h
    obtain ⟨id, target, name, hreference, htarget, hname, -⟩ := attributeReference_clean h
    exact ⟨id, target, name, hreference, htarget, hname⟩
  · rintro ⟨id, target, name, hreference, htarget, hname⟩
    simp [attributeReference, hreference, Value.asReference?, Document.resolve, htarget, hname]

theorem isNumber_of_numberText? {held : Value} {text : List Char}
    (h : numberText? held = some text) : IsNumber held := by
  cases held with
  | int n => exact .integer n
  | float x =>
    rw [numberText?] at h
    split at h
    next hfinite => exact .float hfinite
    next => contradiction
  | text s =>
    obtain ⟨d, hread, -⟩ := Option.map_eq_some_iff.mp h
    exact .decimal hread
  | _ => contradiction

theorem number_clean_iff :
    (number node).diagnostics = [] ↔
      ∃ held, node.get? Property.value = some held ∧ IsNumber held := by
  constructor
  · intro h
    obtain ⟨held, text, hheld, htext, -⟩ := number_clean h
    exact ⟨held, hheld, isNumber_of_numberText? htext⟩
  · rintro ⟨held, hheld, hnumber⟩
    cases hnumber with
    | integer n => simp [number, hheld]
    | float hfinite => simp [number, hheld, hfinite]
    | decimal hread => simp [number, hheld, hread]

theorem operand_clean_iff {render : Value → Generated String} {what property : String} :
    (operand render node what property).diagnostics = [] ↔
      ∃ held, node.get? property = some held ∧ (render held).diagnostics = [] := by
  constructor
  · intro h
    obtain ⟨held, hheld, hclean, -⟩ := operand_clean h
    exact ⟨held, hheld, hclean⟩
  · rintro ⟨held, hheld, hclean⟩
    rwa [operand, hheld]

theorem operation_clean_iff {render : Value → Generated String} :
    (operation render node).diagnostics = [] ↔
      ∃ left operator right, node.get? Property.leftOperand = some left ∧
        node.getText? Property.operator = some operator ∧
        node.get? Property.rightOperand = some right ∧ (render left).diagnostics = [] ∧
        (render right).diagnostics = [] := by
  constructor
  · intro h
    obtain ⟨left, operator, right, hleft, hoperator, hright, hcleanl, hcleanr, -⟩ :=
      operation_clean h
    exact ⟨left, operator, right, hleft, hoperator, hright, hcleanl, hcleanr⟩
  · rintro ⟨left, operator, right, hleft, hoperator, hright, hcleanl, hcleanr⟩
    simp [operation, operand, Expression.operator, hleft, hoperator, hright, hcleanl, hcleanr]

theorem renderWithin_clean_iff (depth : Nat) (path : List Node) :
    (renderWithin doc table (depth + 1) value path).diagnostics = [] ↔
      ∃ node, doc.nodeOf? value = some node ∧
        let inside := fun held => renderWithin doc table depth held (path ++ [node])
        (node.concept = Concept.attributeReference ∧
            (attributeReference doc node).diagnostics = [] ∨
          node.concept = Concept.number ∧ (number node).diagnostics = [] ∨
          node.concept = Concept.binaryOperation ∧ (operation inside node).diagnostics = [] ∨
          node.concept = Concept.parentheses ∧
            (operand inside node "parentheses" Property.inner).diagnostics = []) := by
  rw [renderWithin]
  cases hnode : doc.nodeOf? value with
  | none => exact iff_of_false diagnostics_problem (by simp)
  | some node =>
    simp only [Option.some.injEq, exists_eq_left']
    split_ifs <;> simp_all [Concept.attributeReference, Concept.number, Concept.binaryOperation,
      Concept.parentheses, diagnostics_problem]

theorem isExpression_of_clean {depth : Nat} {path : List Node}
    (h : (renderWithin doc table depth value path).diagnostics = []) : IsExpression doc value := by
  induction depth generalizing value path with
  | zero => exact absurd h diagnostics_problem
  | succ depth ih =>
    obtain ⟨node, hnode, hcases⟩ := (renderWithin_clean_iff depth path).mp h
    rcases hcases with ⟨hconcept, h⟩ | ⟨hconcept, h⟩ | ⟨hconcept, h⟩ | ⟨hconcept, h⟩
    · obtain ⟨id, target, name, hreference, htarget, hname⟩ := attributeReference_clean_iff.mp h
      exact .reference hnode hconcept hreference htarget hname
    · obtain ⟨held, hheld, hnumber⟩ := number_clean_iff.mp h
      exact .number hnode hconcept hheld hnumber
    · obtain ⟨left, operator, right, hleft, hoperator, hright, hcleanl, hcleanr⟩ :=
        operation_clean_iff.mp h
      exact .operation hnode hconcept hoperator hleft (ih hcleanl) hright (ih hcleanr)
    · obtain ⟨inner, hinner, hclean⟩ := operand_clean_iff.mp h
      exact .parentheses hnode hconcept hinner (ih hclean)

theorem IsExpression.clean (forest : doc.Forest) (h : IsExpression doc value) {depth : Nat}
    {path : List Node} (hdepth : ∀ id ∈ value.owned, doc.Within depth id) :
    (renderWithin doc table depth value path).diagnostics = [] := by
  induction h generalizing depth path with
  | reference hnode hconcept hreference htarget hname =>
    obtain ⟨depth, rfl⟩ := exists_depth_eq_succ forest hnode hdepth
    exact (renderWithin_clean_iff depth path).mpr ⟨_, hnode, .inl ⟨hconcept,
      attributeReference_clean_iff.mpr ⟨_, _, _, hreference, htarget, hname⟩⟩⟩
  | number hnode hconcept hheld hnumber =>
    obtain ⟨depth, rfl⟩ := exists_depth_eq_succ forest hnode hdepth
    exact (renderWithin_clean_iff depth path).mpr ⟨_, hnode, .inr (.inl ⟨hconcept,
      number_clean_iff.mpr ⟨_, hheld, hnumber⟩⟩)⟩
  | operation hnode hconcept hoperator hleft _ hright _ ihl ihr =>
    obtain ⟨depth, rfl⟩ := exists_depth_eq_succ forest hnode hdepth
    exact (renderWithin_clean_iff depth path).mpr ⟨_, hnode, .inr (.inr (.inl ⟨hconcept,
      operation_clean_iff.mpr ⟨_, _, _, hleft, hoperator, hright,
        ihl (within_held forest hnode hdepth hleft),
        ihr (within_held forest hnode hdepth hright)⟩⟩))⟩
  | parentheses hnode hconcept hinner _ ih =>
    obtain ⟨depth, rfl⟩ := exists_depth_eq_succ forest hnode hdepth
    exact (renderWithin_clean_iff depth path).mpr ⟨_, hnode, .inr (.inr (.inr ⟨hconcept,
      operand_clean_iff.mpr ⟨_, hinner, ih (within_held forest hnode hdepth hinner)⟩⟩))⟩

/-- A value is rendered without problems exactly if it is an expression; and the placeholders of
the problems stand in the code apart from each other, in the order in which they were met. -/
theorem render_clean_iff (hdoc : doc.Reachable) (table : OperatorTable) (value : Value) :
    ((render doc table value).diagnostics = [] ↔ IsExpression doc value) ∧
      Placed ((render doc table value).diagnostics.map fun d => d.placeholder.toList)
        (render doc table value).output.toList := by
  have forest := hdoc.wellFormed.toForest
  refine ⟨⟨isExpression_of_clean, fun h => h.clean forest fun id _ =>
    Document.within_of_size_le (Nat.le_refl _) id⟩, ?_⟩
  obtain ⟨refs, hspelled⟩ := exists_spelled_render forest table value (pure "")
  exact hspelled.told (Generated.told_pure "")

theorem render_clean_iff_broken :
    let doc := List.foldl Document.after (.new "r" "Record Type") [
      .create "seven" "Number" (.ofList [("value", .text " 7.50 ")]),
      .create "own" "Parentheses" (.ofList [("sub", .node "seven")]),
      .create "blank" "Number" .empty,
      .create "lost" "Attribute Reference" (.ofList [("attribute", .reference (some "gone"))]),
      .create "broken" "Binary Operation" (.ofList [("left operand", .node "blank"),
        ("right operand", .node "lost")])]
    let problems := ["/* [GENERATION PROBLEM] number's value is undefined */",
      "/* [GENERATION PROBLEM] binary operation's operator is undefined */",
      "/* [GENERATION PROBLEM] attribute reference to unknown object \"gone\" */"]
    doc.Reachable ∧ IsExpression doc (.node "own") ∧ ¬IsExpression doc (.node "broken") ∧
      (render doc .standard (.node "broken")).diagnostics.map Diagnostic.placeholder = problems ∧
      Placed (problems.map String.toList)
        (render doc .standard (.node "broken")).output.toList := by
  intro doc problems
  have hdoc : doc.Reachable :=
    (Document.Reachable.new "r" "Record Type").afterAll (by decide +kernel)
  have hproblems : (render doc .standard (.node "broken")).diagnostics.map Diagnostic.placeholder =
      problems := by decide +kernel
  obtain ⟨hiff, hplaced⟩ := render_clean_iff hdoc .standard (.node "broken")
  refine ⟨hdoc, (render_clean_iff hdoc .standard (.node "own")).1.mp (by decide +kernel),
    fun h => ?_, hproblems, ?_⟩
  · rw [hiff.mpr h, List.map_nil] at hproblems
    exact List.cons_ne_nil _ _ hproblems.symm
  · rw [← hproblems, List.map_map]
    exact hplaced

end RecordForms.Expression
