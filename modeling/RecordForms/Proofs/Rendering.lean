import RecordForms.Expression.Render
import RecordForms.Proofs.Reachable
import RecordForms.Proofs.Words

/-! Rendered expressions are read as the expressions they are rendered from. Parentheses are put
where the parent of an operation asks for them; that is enough for every operand to be of the kind
that its operation takes. -/
namespace RecordForms.Expression

open Code (Formula Operation Reads)

def numberText? : Value → Option (List Char)
  | .int n => some (integerText n.toInt)
  | .float x => if x.isFinite then some x.display else none
  | .text s => (Decimal.read? (Text.trim s.toList)).map Decimal.text
  | _ => none

def operation? : String → Option Operation
  | "-" => some .subtract
  | "+" => some .add
  | "/" => some .divide
  | "*" => some .multiply
  | "of" => some .multiply
  | "^" => some .power
  | _ => none

/-- The formula of an operator between two formulas. A percentage is taken of its right side. -/
def applied? (operator : String) (left right : Formula) : Option Formula :=
  if operator = "of" then
    some (.binary .multiply (.binary .multiply left (.literal ['0', '.', '0', '1'])) right)
  else (operation? operator).map fun operation => .binary operation left right

/-- The formula that an expression stands for. -/
inductive Denotes (doc : Document) : Value → Formula → Prop where
  | field {value : Value} {node target : Node} {id : NodeId} {name : String}
      (hnode : doc.nodeOf? value = some node)
      (hconcept : node.concept = Concept.attributeReference)
      (hreference : node.get? Property.referenced = some (.reference (some id)))
      (htarget : doc.get? id = some target) (hname : target.codeName? = some name) :
      Denotes doc value (.field name.toList)
  | number {value held : Value} {node : Node} {text : List Char}
      (hnode : doc.nodeOf? value = some node) (hconcept : node.concept = Concept.number)
      (hheld : node.get? Property.value = some held) (htext : numberText? held = some text) :
      Denotes doc value (Code.numeral text)
  | operation {value left right : Value} {node : Node} {operator : String} {l r f : Formula}
      (hnode : doc.nodeOf? value = some node) (hconcept : node.concept = Concept.binaryOperation)
      (hoperator : node.getText? Property.operator = some operator)
      (hleft : node.get? Property.leftOperand = some left) (left_denotes : Denotes doc left l)
      (hright : node.get? Property.rightOperand = some right) (right_denotes : Denotes doc right r)
      (happlied : applied? operator l r = some f) : Denotes doc value f
  | parentheses {value inner : Value} {node : Node} {f : Formula}
      (hnode : doc.nodeOf? value = some node) (hconcept : node.concept = Concept.parentheses)
      (hinner : node.get? Property.inner = some inner) (inner_denotes : Denotes doc inner f) :
      Denotes doc value f

def operandProperties (node : Node) : List String :=
  if node.concept = Concept.binaryOperation then [Property.leftOperand, Property.rightOperand]
  else if node.concept = Concept.parentheses then [Property.inner]
  else []

inductive Occurs (doc : Document) : Value → Node → Prop where
  | here {value : Value} {node : Node} (hnode : doc.nodeOf? value = some node) :
      Occurs doc value node
  | inside {value operand : Value} {outer node : Node} {property : String}
      (houter : doc.nodeOf? value = some outer) (hproperty : property ∈ operandProperties outer)
      (hoperand : outer.get? property = some operand) (hnode : Occurs doc operand node) :
      Occurs doc value node

def StandardOperators (doc : Document) (value : Value) : Prop :=
  ∀ node, Occurs doc value node → node.concept = Concept.binaryOperation →
    ∀ operator, node.getText? Property.operator = some operator →
      (OperatorTable.standard.precedence? operator).isSome = true

theorem Denotes.unique {doc : Document} {value : Value} {f g : Formula} (hf : Denotes doc value f)
    (hg : Denotes doc value g) : f = g := by
  induction hf generalizing g with
  | field hnode hconcept hreference htarget hname =>
    cases hg with
    | field hnode' _ hreference' htarget' hname' => simp_all
    | _ => simp_all [Concept.attributeReference, Concept.number, Concept.binaryOperation,
        Concept.parentheses]
  | number hnode hconcept hheld htext =>
    cases hg with
    | number hnode' _ hheld' htext' => simp_all
    | _ => simp_all [Concept.attributeReference, Concept.number, Concept.binaryOperation,
        Concept.parentheses]
  | operation hnode hconcept hoperator hleft _ hright _ happlied ihl ihr =>
    cases hg with
    | operation hnode' _ hoperator' hleft' hl' hright' hr' happlied' =>
      obtain rfl := Option.some.inj (hnode.symm.trans hnode')
      obtain rfl := Option.some.inj (hleft.symm.trans hleft')
      obtain rfl := Option.some.inj (hright.symm.trans hright')
      obtain rfl := Option.some.inj (hoperator.symm.trans hoperator')
      rw [ihl hl', ihr hr'] at happlied
      exact Option.some.inj (happlied.symm.trans happlied')
    | _ => simp_all [Concept.attributeReference, Concept.number, Concept.binaryOperation,
        Concept.parentheses]
  | parentheses hnode hconcept hinner _ ih =>
    cases hg with
    | parentheses hnode' _ hinner' hf' =>
      obtain rfl := Option.some.inj (hnode.symm.trans hnode')
      obtain rfl := Option.some.inj (hinner.symm.trans hinner')
      exact ih hf'
    | _ => simp_all [Concept.attributeReference, Concept.number, Concept.binaryOperation,
        Concept.parentheses]

theorem isNumeral_numberText? {value : Value} {text : List Char} (h : numberText? value = some text) :
    Code.IsNumeral text := by
  cases value with
  | int n =>
    rw [← Option.some.inj h]
    exact Code.isNumeral_integerText _
  | float x =>
    rw [numberText?] at h
    split at h
    next hfinite =>
      rw [← Option.some.inj h]
      exact Code.isNumeral_display hfinite
    next => contradiction
  | text s =>
    obtain ⟨d, -, rfl⟩ := Option.map_eq_some_iff.mp h
    exact Code.isNumeral_decimal d
  | _ => contradiction

section Clean

variable {doc : Document} {node : Node}

theorem diagnostics_problem {kind : DiagnosticKind} {id : Option String} {message : String} :
    (Generated.problem kind id message).diagnostics ≠ [] := by
  simp [Generated.problem]

theorem resolve_eq_resolved {target : Option NodeId} {found : Node}
    (h : doc.resolve target = .resolved found) :
    ∃ id, target = some id ∧ doc.get? id = some found := by
  unfold Document.resolve at h
  split at h
  · contradiction
  next id =>
    split at h
    next found' hget =>
      obtain rfl := Resolution.resolved.inj h
      exact ⟨id, rfl, hget⟩
    next => contradiction

theorem asReference?_eq_some {value : Value} {target : Option NodeId}
    (h : value.asReference? = some target) : value = .reference target := by
  cases value with
  | reference found => rw [Option.some.inj h]
  | _ => contradiction

theorem resolve_eq_dangling {target : Option NodeId} {id : NodeId}
    (h : doc.resolve target = .dangling id) : target = some id ∧ doc.get? id = none := by
  unfold Document.resolve at h
  split at h
  · contradiction
  next found =>
    split at h
    next => contradiction
    next hget =>
      obtain rfl := Resolution.dangling.inj h
      exact ⟨rfl, hget⟩

theorem get?_referenced {id : NodeId}
    (h : ((node.get? Property.referenced).bind Value.asReference?).getD none = some id) :
    node.get? Property.referenced = some (.reference (some id)) := by
  have href := (Option.getD_eq_iff.mp h).resolve_right (by simp)
  obtain ⟨value, hvalue, href⟩ := Option.bind_eq_some_iff.mp href
  rw [hvalue, asReference?_eq_some href]

theorem attributeReference_clean (h : (attributeReference doc node).diagnostics = []) :
    ∃ id target name, node.get? Property.referenced = some (.reference (some id)) ∧
      doc.get? id = some target ∧ target.codeName? = some name ∧
      (attributeReference doc node).output = "this." ++ name := by
  unfold attributeReference at h ⊢
  split at h
  next target htarget =>
    split at h
    next name hname =>
      obtain ⟨id, hid, hget⟩ := resolve_eq_resolved htarget
      exact ⟨id, target, name, get?_referenced hid, hget, hname, rfl⟩
    next => exact absurd h diagnostics_problem
  next => exact absurd h diagnostics_problem
  next => exact absurd h diagnostics_problem

theorem number_clean (h : (number node).diagnostics = []) :
    ∃ held text, node.get? Property.value = some held ∧ numberText? held = some text ∧
      (number node).output = String.ofList text := by
  unfold number at h ⊢
  split at h
  next n hheld => exact ⟨.int n, _, hheld, rfl, rfl⟩
  next x hheld =>
    split at h
    next hfinite => exact ⟨.float x, x.display, hheld, if_pos hfinite, by rw [if_pos hfinite]; rfl⟩
    next => exact absurd h diagnostics_problem
  next s hheld =>
    split at h
    next d hread => exact ⟨.text s, d.text, hheld, by rw [numberText?, hread]; rfl, rfl⟩
    next => exact absurd h diagnostics_problem
  next => exact absurd h diagnostics_problem
  next => exact absurd h diagnostics_problem

theorem operand_clean {render : Value → Generated String} {what property : String}
    (h : (operand render node what property).diagnostics = []) :
    ∃ value, node.get? property = some value ∧ (render value).diagnostics = [] ∧
      (operand render node what property).output = (render value).output := by
  unfold operand at h ⊢
  split at h
  next value hvalue => exact ⟨value, hvalue, h, rfl⟩
  next => exact absurd h diagnostics_problem

theorem operation_clean {render : Value → Generated String}
    (h : (operation render node).diagnostics = []) :
    ∃ left operator right, node.get? Property.leftOperand = some left ∧
      node.getText? Property.operator = some operator ∧
      node.get? Property.rightOperand = some right ∧ (render left).diagnostics = [] ∧
      (render right).diagnostics = [] ∧
      (operation render node).output = guardPower node (render left).output ++ " " ++
        codeOperator operator ++ " " ++ (render right).output := by
  simp only [operation, Generated.diagnostics_bind, Generated.diagnostics_pure, List.append_nil,
    List.append_eq_nil_iff] at h
  obtain ⟨hleft, hoperator, hright⟩ := h
  obtain ⟨left, hgetl, hleft, houtl⟩ := operand_clean hleft
  obtain ⟨right, hgetr, hright, houtr⟩ := operand_clean hright
  have hop : ∃ op, node.getText? Property.operator = some op ∧
      (operator node).output = codeOperator op := by
    unfold operator at hoperator ⊢
    split at hoperator
    next op hop => exact ⟨op, hop, rfl⟩
    next => exact absurd hoperator diagnostics_problem
  obtain ⟨op, hop, hout⟩ := hop
  refine ⟨left, op, right, hgetl, hop, hgetr, hleft, hright, ?_⟩
  rw [← houtl, ← houtr, ← hout]
  rfl

end Clean

section Operators

variable {operator : String} {operation : Operation}

theorem operation?_of_precedence? (h : (OperatorTable.standard.precedence? operator).isSome = true) :
    ∃ operation, operation? operator = some operation := by
  have hmem : operator ∈ ["-", "+", "/", "*", "of", "^"] := by
    rw [OperatorTable.precedence?, List.findIdx?_isSome] at h
    simpa [OperatorTable.standard, OperatorTable.ofGroups, OperatorTable.withAssociativity,
      or_assoc] using h
  simp only [List.mem_cons, List.not_mem_nil, or_false] at hmem
  rcases hmem with rfl | rfl | rfl | rfl | rfl | rfl <;> exact ⟨_, rfl⟩

theorem standard_of_operation? (h : operation? operator = some operation) :
    OperatorTable.standard.precedence? operator = some operation.level.rank ∧
      OperatorTable.standard.associativityOf operator =
        (if operation = .power then .right else .left) ∧
      (codeOperator operator = "**" ↔ operation = .power) := by
  unfold operation? at h
  split at h <;> first | contradiction | (obtain rfl := Option.some.inj h; decide)

theorem reads_applied (h : operation? operator = some operation) {left right : List Char}
    {l r : Formula} (hl : Reads operation.leftLevel left l) (hr : Reads operation.rightLevel right r) :
    ∃ f, applied? operator l r = some f ∧
      Reads operation.level (left ++ ' ' :: ((codeOperator operator).toList ++ ' ' :: right)) f := by
  by_cases hof : operator = "of"
  · subst hof
    obtain rfl : Operation.multiply = operation := Option.some.inj h
    have hhundredth : Reads .primary ['0', '.', '0', '1'] (.literal ['0', '.', '0', '1']) :=
      Code.reads_literal (by simp [Code.isDelimiter]) rfl
    have hscaled := Reads.binary .multiply hl (hhundredth.loosen (by decide))
    refine ⟨_, if_pos rfl, ?_⟩
    have hall := Reads.binary .multiply hscaled hr
    rw [List.append_assoc] at hall
    exact hall
  · have htext : (codeOperator operator).toList = operation.text := by
      unfold operation? at h
      split at h <;> first | contradiction | (obtain rfl := Option.some.inj h; rfl)
    refine ⟨.binary operation l r, ?_, ?_⟩
    · rw [applied?, if_neg hof, h]
      rfl
    · rw [htext]
      exact Reads.binary operation hl hr

end Operators

section Operands

/-- The kinds that the text of a node may be of, below its parent. -/
inductive RenderedAs (node : Node) (parent : Option Node) (text : List Char) :
    Code.Level → Prop where
  | closed : RenderedAs node parent text .primary
  | signed (hsign : text.head? = some '-') : RenderedAs node parent text .unary
  | operation {operation : Operation} (hconcept : node.concept = Concept.binaryOperation)
      (hoperation : operation? (OperatorTable.operatorOf node) = some operation)
      (hbare : OperatorTable.standard.needsParentheses node parent = false) :
      RenderedAs node parent text operation.level

variable {outer node : Node} {operator : String} {operation : Operation} {text : List Char}
  {level : Code.Level}

/-- An operation without parentheses binds tighter than its parent, or alike and on the side to
which its parent groups. -/
theorem rank_lt_or_ownsAt {inner : Operation} (hnode : node.concept = Concept.binaryOperation)
    (houter : outer.concept = Concept.binaryOperation)
    (hinner : operation? (OperatorTable.operatorOf node) = some inner)
    (hoperation : operation? (OperatorTable.operatorOf outer) = some operation)
    (hbare : OperatorTable.standard.needsParentheses node (some outer) = false) :
    operation.level.rank < inner.level.rank ∨ inner.level.rank = operation.level.rank ∧
      outer.ownsAt (if operation = .power then Property.rightOperand else Property.leftOperand)
        node.id = true := by
  obtain ⟨hrank, -, -⟩ := standard_of_operation? hinner
  obtain ⟨houterRank, hside, -⟩ := standard_of_operation? hoperation
  rw [OperatorTable.needsParentheses, Node.isA, Node.isA, hnode, houter] at hbare
  simp only [beq_self_eq_true, Bool.true_and, OperatorTable.needsParenthesesUnder, hrank, houterRank,
    hside, apply_ite Associativity.operand, Bool.or_eq_false_iff, decide_eq_false_iff_not,
    Bool.and_eq_false_iff, beq_eq_false_iff_ne, Bool.not_eq_eq_eq_not, Bool.not_false] at hbare
  obtain ⟨hle, hne | howns⟩ := hbare
  · left
    omega
  · rcases Nat.lt_or_eq_of_le (Nat.le_of_not_lt hle) with hlt | heq
    · exact .inl hlt
    · exact .inr ⟨heq.symm, howns⟩

theorem rank_leftLevel_le (hrendered : RenderedAs node (some outer) text level)
    (houter : outer.concept = Concept.binaryOperation)
    (hoperation : operation? (OperatorTable.operatorOf outer) = some operation)
    (hright : outer.ownsAt Property.rightOperand node.id = false)
    (hsign : operation = .power → text.head? ≠ some '-') :
    operation.leftLevel.rank ≤ level.rank := by
  cases hrendered with
  | closed => cases operation <;> decide
  | signed h => cases operation <;> first | decide | exact absurd h (hsign rfl)
  | @operation inner hconcept hinner hbare =>
    have hrank := rank_lt_or_ownsAt hconcept houter hinner hoperation hbare
    -- nothing but a primary may stand left of a power, and no operation binds tighter than one
    by_cases hpower : operation = .power
    · subst hpower
      rcases hrank with hlt | ⟨-, howns⟩
      · exact absurd hlt (by cases inner <;> decide)
      · rw [if_pos rfl, hright] at howns
        contradiction
    · have hlevel : operation.leftLevel = operation.level := by
        cases operation <;> first | rfl | contradiction
      rw [hlevel]
      omega

theorem rank_rightLevel_le (hrendered : RenderedAs node (some outer) text level)
    (houter : outer.concept = Concept.binaryOperation)
    (hoperation : operation? (OperatorTable.operatorOf outer) = some operation)
    (hleft : outer.ownsAt Property.leftOperand node.id = false) :
    operation.rightLevel.rank ≤ level.rank := by
  cases hrendered with
  | closed | signed => cases operation <;> decide
  | @operation inner hconcept hinner hbare =>
    have hrank := rank_lt_or_ownsAt hconcept houter hinner hoperation hbare
    by_cases hpower : operation = .power
    · subst hpower
      have hlevel : Operation.power.rightLevel = Operation.power.level := rfl
      rw [hlevel]
      omega
    · have hlevel : operation.rightLevel.rank = operation.level.rank + 1 := by
        cases operation <;> first | rfl | contradiction
      rw [if_neg hpower, hleft] at hrank
      rw [hlevel]
      rcases hrank with hlt | ⟨-, howns⟩
      · exact hlt
      · contradiction

theorem reads_parenthesized {text : String} {f : Formula} (h : Reads level text.toList f) :
    Reads .primary (parenthesized text).toList f := by
  have hsum : Reads .sum text.toList f := h.loosen (Nat.zero_le _)
  simpa [parenthesized] using hsum.parenthesized

theorem reads_guardPower {left : String} {l : Formula}
    (hrendered : RenderedAs node (some outer) left.toList level)
    (hreads : Reads level left.toList l) (houter : outer.concept = Concept.binaryOperation)
    (hoperator : outer.getText? Property.operator = some operator)
    (hoperation : operation? operator = some operation)
    (hright : outer.ownsAt Property.rightOperand node.id = false) :
    Reads operation.leftLevel (guardPower outer left).toList l := by
  have hcode := (standard_of_operation? hoperation).2.2
  rw [guardPower, hoperator]
  split
  next hguard =>
    refine (reads_parenthesized hreads).loosen ?_
    cases operation <;> decide
  next hguard =>
    refine hreads.loosen (rank_leftLevel_le hrendered houter ?_ hright ?_)
    · rw [OperatorTable.operatorOf, hoperator]
      exact hoperation
    · intro hpower hsign
      simp [hcode.mpr hpower, hsign] at hguard

end Operands

section Reading

variable {doc : Document}

theorem nodeOf?_eq_some {value : Value} {node : Node} (h : doc.nodeOf? value = some node) :
    ∃ id, value = .node id ∧ doc.get? id = some node := by
  obtain ⟨id, hid, hget⟩ := Option.bind_eq_some_iff.mp h
  cases value with
  | node found => exact ⟨id, congrArg Value.node (Option.some.inj hid), hget⟩
  | _ => contradiction

theorem ownsAt_of_ne (forest : doc.Forest) {id : NodeId} {outer node : Node} {held : Value}
    {p q : String} (houter : doc.get? id = some outer) (hheld : outer.get? p = some held)
    (hnode : doc.nodeOf? held = some node) (hne : p ≠ q) : outer.ownsAt q node.id = false := by
  obtain ⟨key, rfl, hget⟩ := nodeOf?_eq_some hnode
  rw [forest.keyed hget, Node.ownsAt, beq_eq_false_iff_ne]
  intro howns
  obtain ⟨value, hvalue, hkey⟩ := Option.bind_eq_some_iff.mp howns
  cases value with
  | node found =>
    rw [Option.some.inj hkey] at hvalue
    exact hne (Document.property_unique forest houter hheld hvalue)
  | _ => contradiction

theorem StandardOperators.operand {value held : Value} {outer : Node} {property : String}
    (h : StandardOperators doc value) (houter : doc.nodeOf? value = some outer)
    (hproperty : property ∈ operandProperties outer) (hheld : outer.get? property = some held) :
    StandardOperators doc held :=
  fun node hnode => h node (.inside houter hproperty hheld hnode)

theorem standardOperators_of_nodes (value : Value)
    (h : ∀ node ∈ doc.nodes.values, ∀ operator ∈ node.getText? Property.operator,
      (OperatorTable.standard.precedence? operator).isSome = true) :
    StandardOperators doc value := by
  intro node hnode _
  have hmem : node ∈ doc.nodes.values := by
    induction hnode with
    | here hnode =>
      obtain ⟨id, -, hget⟩ := nodeOf?_eq_some hnode
      exact TextMap.mem_values.mpr ⟨id, hget⟩
    | inside _ _ _ _ ih => exact ih ‹_›
  exact h node hmem

/-- The text is one that the value may have below the parent, and it is read as the formula that
the value stands for. -/
def Faithful (doc : Document) (parent : Option Node) (value : Value) (text : String) : Prop :=
  ∃ node f level, doc.nodeOf? value = some node ∧ Denotes doc value f ∧
    RenderedAs node parent text.toList level ∧ Reads level text.toList f

def OperandsFaithful (doc : Document) (node : Node) (render : Value → Generated String) : Prop :=
  ∀ property ∈ operandProperties node, ∀ held, node.get? property = some held →
    (render held).diagnostics = [] → Faithful doc (some node) held (render held).output

variable {value : Value} {node : Node} {parent : Option Node} {render : Value → Generated String}

theorem faithful_attributeReference (hnode : doc.nodeOf? value = some node)
    (hconcept : node.concept = Concept.attributeReference)
    (hclean : (attributeReference doc node).diagnostics = []) :
    Faithful doc parent value (attributeReference doc node).output := by
  obtain ⟨id, target, name, hreference, htarget, hname, hout⟩ := attributeReference_clean hclean
  refine ⟨node, .field name.toList, .primary, hnode,
    .field hnode hconcept hreference htarget hname, .closed, ?_⟩
  rw [hout, String.toList_append]
  exact Code.reads_field (Node.not_delimiter_of_codeName? hname)

theorem faithful_number (hnode : doc.nodeOf? value = some node)
    (hconcept : node.concept = Concept.number) (hclean : (number node).diagnostics = []) :
    Faithful doc parent value (number node).output := by
  obtain ⟨held, text, hheld, htext, hout⟩ := number_clean hclean
  have hnumeral := isNumeral_numberText? htext
  have hdenotes := Denotes.number hnode hconcept hheld htext
  rw [hout, Faithful, String.toList_ofList]
  by_cases hsign : text.head? = some '-'
  · exact ⟨node, _, .unary, hnode, hdenotes, .signed hsign, hnumeral.reads⟩
  · exact ⟨node, _, .primary, hnode, hdenotes, .closed, hnumeral.reads_primary hsign⟩

theorem faithful_operation (forest : doc.Forest) (hnode : doc.nodeOf? value = some node)
    (hconcept : node.concept = Concept.binaryOperation)
    (hstandard : ∀ operator, node.getText? Property.operator = some operator →
      (OperatorTable.standard.precedence? operator).isSome = true)
    (hoperands : OperandsFaithful doc node render)
    (hclean : (operation render node).diagnostics = []) :
    Faithful doc parent value
      (if OperatorTable.standard.needsParentheses node parent then
        parenthesized (operation render node).output
      else (operation render node).output) := by
  obtain ⟨left, operator, right, hleft, hoperator, hright, hcleanl, hcleanr, hout⟩ :=
    operation_clean hclean
  obtain ⟨operation, hoperation⟩ := operation?_of_precedence? (hstandard operator hoperator)
  have hproperties : operandProperties node = [Property.leftOperand, Property.rightOperand] :=
    if_pos hconcept
  obtain ⟨l, lf, _, hnodel, hdenotesl, hrenderedl, hreadsl⟩ :=
    hoperands _ (by simp [hproperties]) left hleft hcleanl
  obtain ⟨r, rf, _, hnoder, hdenotesr, hrenderedr, hreadsr⟩ :=
    hoperands _ (by simp [hproperties]) right hright hcleanr
  obtain ⟨id, -, hget⟩ := nodeOf?_eq_some hnode
  have hof : operation? (OperatorTable.operatorOf node) = some operation := by
    rw [OperatorTable.operatorOf, hoperator]
    exact hoperation
  -- a minus sign matters in front of the operator only, so there is no guard on the right
  have hguarded := reads_guardPower hrenderedl hreadsl hconcept hoperator hoperation
    (ownsAt_of_ne forest hget hleft hnodel (by decide))
  have hlevel := rank_rightLevel_le hrenderedr hconcept hof
    (ownsAt_of_ne forest hget hright hnoder (by decide))
  obtain ⟨f, happlied, hreads⟩ := reads_applied hoperation hguarded (hreadsr.loosen hlevel)
  have hdenotes : Denotes doc value f :=
    .operation hnode hconcept hoperator hleft hdenotesl hright hdenotesr happlied
  have htext : Reads operation.level (Expression.operation render node).output.toList f := by
    simpa [hout] using hreads
  split
  next => exact ⟨node, f, .primary, hnode, hdenotes, .closed, reads_parenthesized htext⟩
  next hbare =>
    exact ⟨node, f, operation.level, hnode, hdenotes,
      .operation hconcept hof (Bool.eq_false_of_not_eq_true hbare), htext⟩

theorem faithful_parentheses (hnode : doc.nodeOf? value = some node)
    (hconcept : node.concept = Concept.parentheses)
    (hoperands : OperandsFaithful doc node render)
    (hclean : (operand render node "parentheses" Property.inner).diagnostics = []) :
    Faithful doc parent value
      (parenthesized (operand render node "parentheses" Property.inner).output) := by
  obtain ⟨inner, hinner, hcleani, hout⟩ := operand_clean hclean
  have hproperties : operandProperties node = [Property.inner] := by
    rw [operandProperties, hconcept]
    rfl
  obtain ⟨_, f, _, _, hdenotes, _, hreads⟩ :=
    hoperands _ (by simp [hproperties]) inner hinner hcleani
  rw [hout]
  exact ⟨node, f, .primary, hnode, .parentheses hnode hconcept hinner hdenotes, .closed,
    reads_parenthesized hreads⟩

theorem faithful_renderWithin (forest : doc.Forest) (depth : Nat) {value : Value} {path : List Node}
    (hstandard : StandardOperators doc value)
    (hclean : (renderWithin doc .standard depth value path).diagnostics = []) :
    Faithful doc path.getLast? value (renderWithin doc .standard depth value path).output := by
  induction depth generalizing value path with
  | zero => exact absurd hclean diagnostics_problem
  | succ depth ih =>
    unfold renderWithin at hclean ⊢
    split at hclean
    next => exact absurd hclean diagnostics_problem
    next node hnode =>
      -- below a node, that node is the last one of the path
      have hoperands : OperandsFaithful doc node
          fun held => renderWithin doc .standard depth held (path ++ [node]) := by
        intro property hproperty held hheld hclean
        have := ih (hstandard.operand hnode hproperty hheld) hclean
        rwa [List.getLast?_concat] at this
      dsimp only at hclean ⊢
      by_cases hfield : node.concept = Concept.attributeReference
      · rw [if_pos hfield] at hclean ⊢
        exact faithful_attributeReference hnode hfield hclean
      rw [if_neg hfield] at hclean ⊢
      by_cases hnumber : node.concept = Concept.number
      · rw [if_pos hnumber] at hclean ⊢
        exact faithful_number hnode hnumber hclean
      rw [if_neg hnumber] at hclean ⊢
      by_cases hbinary : node.concept = Concept.binaryOperation
      · rw [if_pos hbinary] at hclean ⊢
        rw [Generated.diagnostics_bind, List.append_eq_nil_iff] at hclean
        exact faithful_operation forest hnode hbinary (hstandard node (.here hnode) hbinary)
          hoperands hclean.1
      rw [if_neg hbinary] at hclean ⊢
      by_cases hparentheses : node.concept = Concept.parentheses
      · rw [if_pos hparentheses] at hclean ⊢
        rw [Generated.diagnostics_bind, List.append_eq_nil_iff] at hclean
        exact faithful_parentheses hnode hparentheses hoperands hclean.1
      rw [if_neg hparentheses] at hclean
      exact absurd hclean diagnostics_problem

end Reading

section Congruence

variable {doc : Document} {table : OperatorTable} {node : Node} {value : Value}

theorem operand_congr {f g : Value → Generated String} {property : String}
    (h : ∀ held, node.get? property = some held → f held = g held) (what : String) :
    operand f node what property = operand g node what property := by
  unfold operand
  split
  next held hheld => exact h held hheld
  next => rfl

theorem operation_congr {f g : Value → Generated String}
    (h : ∀ property held, node.get? property = some held → f held = g held) :
    operation f node = operation g node := by
  rw [operation, operation, operand_congr (h _), operand_congr (h _)]

theorem renderWithin_congr {other : Document} {d e : Nat} {path path' : List Node}
    (hvalue : doc.nodeOf? value = some node) (hother : other.nodeOf? value = some node)
    (hreference : attributeReference doc node = attributeReference other node)
    (hparentheses : table.needsParentheses node path.getLast? =
      table.needsParentheses node path'.getLast?)
    (hoperands : ∀ property held, node.get? property = some held →
      renderWithin doc table d held (path ++ [node]) =
        renderWithin other table e held (path' ++ [node])) :
    renderWithin doc table (d + 1) value path = renderWithin other table (e + 1) value path' := by
  rw [renderWithin, renderWithin, hvalue, hother]
  dsimp only
  rw [hreference, hparentheses, operation_congr hoperands, operand_congr (hoperands _)]

theorem renderWithin_of_none (h : doc.nodeOf? value = none) (table : OperatorTable) (depth : Nat)
    (path : List Node) : renderWithin doc table depth value path = notAnExpression value := by
  cases depth with
  | zero => rfl
  | succ depth => rw [renderWithin, h]

theorem renderWithin_operation (hnode : doc.nodeOf? value = some node)
    (hconcept : node.concept = Concept.binaryOperation) (depth : Nat) (path : List Node) :
    renderWithin doc table (depth + 1) value path =
      (fun text => if table.needsParentheses node path.getLast? then parenthesized text else text)
        <$> operation (fun held => renderWithin doc table depth held (path ++ [node])) node := by
  have hreference : node.concept ≠ Concept.attributeReference := by rw [hconcept]; decide
  have hnumber : node.concept ≠ Concept.number := by rw [hconcept]; decide
  rw [renderWithin, hnode]
  simp only [if_neg hreference, if_neg hnumber, if_pos hconcept, map_eq_pure_bind]

theorem needsParentheses_of_ne (h : node.concept ≠ Concept.binaryOperation) (table : OperatorTable)
    (parent : Option Node) : table.needsParentheses node parent = false := by
  have hnot : node.isA Concept.binaryOperation = false := beq_false_of_ne h
  cases parent with
  | none => rfl
  | some outer => rw [OperatorTable.needsParentheses, hnot, Bool.and_false, Bool.false_and]

theorem nodeOf?_of_within_zero (forest : doc.Forest) (h : ∀ id ∈ value.owned, doc.Within 0 id) :
    doc.nodeOf? value = none := by
  cases value with
  | node id => exact (h id (List.mem_singleton_self id)).absent forest
  | _ => rfl

theorem exists_depth_eq_succ (forest : doc.Forest) {depth : Nat} {node : Node}
    (hnode : doc.nodeOf? value = some node) (h : ∀ id ∈ value.owned, doc.Within depth id) :
    ∃ below, depth = below + 1 := by
  cases depth with
  | zero =>
    rw [nodeOf?_of_within_zero forest h] at hnode
    contradiction
  | succ below => exact ⟨below, rfl⟩

theorem within_held (forest : doc.Forest) {depth : Nat} {node : Node} {property : String}
    {held : Value} (hnode : doc.nodeOf? value = some node)
    (h : ∀ id ∈ value.owned, doc.Within (depth + 1) id) (hheld : node.get? property = some held) :
    ∀ child ∈ held.owned, doc.Within depth child := by
  obtain ⟨id, rfl, hget⟩ := nodeOf?_eq_some hnode
  intro child hchild
  exact (h id (List.mem_singleton_self id)).child forest (Document.owns_of_get? hget hheld hchild)

/-- Depths that are not exhausted do not matter, and of the nodes above only the parent does. -/
theorem renderWithin_eq (forest : doc.Forest) {d e : Nat} (hd : ∀ id ∈ value.owned, doc.Within d id)
    (he : ∀ id ∈ value.owned, doc.Within e id) {path path' : List Node}
    (hparentheses : ∀ node, doc.nodeOf? value = some node →
      table.needsParentheses node path.getLast? = table.needsParentheses node path'.getLast?) :
    renderWithin doc table d value path = renderWithin doc table e value path' := by
  induction d generalizing e value path path' with
  | zero =>
    have hnone := nodeOf?_of_within_zero forest hd
    rw [renderWithin_of_none hnone, renderWithin_of_none hnone]
  | succ d ih =>
    cases hnode : doc.nodeOf? value with
    | none => rw [renderWithin_of_none hnode, renderWithin_of_none hnode]
    | some node =>
      obtain ⟨e, rfl⟩ := exists_depth_eq_succ forest hnode he
      refine renderWithin_congr hnode hnode rfl (hparentheses node hnode)
        fun property held hheld => ih (within_held forest hnode hd hheld)
          (within_held forest hnode he hheld) ?_
      simp

end Congruence

/-- An expression that is rendered without problems stands for one formula, and its text is read as
that formula and no other. -/
theorem reads_render_iff {doc : Document} (hdoc : doc.Reachable) {value : Value}
    (hstandard : StandardOperators doc value)
    (hclean : (render doc .standard value).diagnostics = []) :
    ∃ formula, (∀ f, Denotes doc value f ↔ f = formula) ∧
      ∀ f, Reads .sum (render doc .standard value).output.toList f ↔ f = formula := by
  obtain ⟨_, formula, level, _, hdenotes, _, hreads⟩ :=
    faithful_renderWithin hdoc.wellFormed.toForest doc.size hstandard hclean
  have hsum : Reads .sum (render doc .standard value).output.toList formula :=
    hreads.loosen (Nat.zero_le _)
  refine ⟨formula, fun f => ⟨fun h => h.unique hdenotes, ?_⟩, fun f => ⟨fun h => h.unique hsum, ?_⟩⟩
  · rintro rfl
    exact hdenotes
  · rintro rfl
    exact hsum

/-- A power of a negative number, as a percentage of a difference. -/
theorem reads_render_iff_percentage :
    let doc := List.foldl Document.after (.new "r" "Record Type") [
      .create "price" "Attribute" (.ofList [("name", .text "unit price")]),
      .create "base" "Number" (.ofList [("value", .int (-2))]),
      .create "exponent" "Number" (.ofList [("value", .text " 3 ")]),
      .create "power" "Binary Operation" (.ofList [("left operand", .node "base"),
        ("operator", .text "^"), ("right operand", .node "exponent")]),
      .create "one" "Number" (.ofList [("value", .int 1)]),
      .create "field" "Attribute Reference" (.ofList [("attribute", .reference (some "price"))]),
      .create "rest" "Binary Operation" (.ofList [("left operand", .node "one"),
        ("operator", .text "-"), ("right operand", .node "field")]),
      .create "share" "Binary Operation" (.ofList [("left operand", .node "power"),
        ("operator", .text "of"), ("right operand", .node "rest")])]
    doc.Reachable ∧ StandardOperators doc (.node "share") ∧
      (render doc .standard (.node "share")).diagnostics = [] ∧
      (render doc .standard (.node "share")).output =
        "(-2) ** 3 * 0.01 * (1 - this.unitPrice)" ∧
      ∃ formula, Denotes doc (.node "share") formula ∧
        Reads .sum "(-2) ** 3 * 0.01 * (1 - this.unitPrice)".toList formula := by
  intro doc
  have hdoc : doc.Reachable := by
    simp only [doc, List.foldl_cons, List.foldl_nil]
    iterate 8 refine .edited _ ?_ ?_
    · exact .new "r" "Record Type"
    all_goals decide +kernel
  have hstandard : StandardOperators doc (.node "share") := by
    apply standardOperators_of_nodes
    decide +kernel
  have hclean : (render doc .standard (.node "share")).diagnostics = [] := by decide +kernel
  have hout : (render doc .standard (.node "share")).output =
      "(-2) ** 3 * 0.01 * (1 - this.unitPrice)" := by decide +kernel
  obtain ⟨formula, hdenotes, hreads⟩ := reads_render_iff hdoc hstandard hclean
  rw [hout] at hreads
  exact ⟨hdoc, hstandard, hclean, hout, formula, (hdenotes formula).mpr rfl,
    (hreads formula).mpr rfl⟩

end RecordForms.Expression
