import RecordForms.Proofs.Rendering

/-! The code of an expression as it is spelled, with the references in it. The renderer goes to the
operands of the concepts it knows and nowhere else, so its text has the references there and no
others. -/
namespace RecordForms.Expression

variable {doc : Document} {node ref : Node} {value : Value} {refs : List Node}

def comment (message : String) : String := "/* [GENERATION PROBLEM] " ++ message ++ " */"

def unwritten (kind : DiagnosticKind) (id : Option NodeId) (message : String) :
    Generated String where
  output := comment message
  diagnostics := [⟨kind, id, message⟩]

/-- The code of a reference: the field of its target, by the display name in camel case. -/
inductive FieldCode (doc : Document) (node : Node) : Generated String → Prop where
  | named {id : NodeId} {target : Node} {display : String}
      (href : node.get? Property.referenced = some (.reference (some id)))
      (htarget : doc.get? id = some target)
      (hdisplay : target.getText? Property.name = some display)
      (hcamel : Text.camelCase display ≠ "") :
      FieldCode doc node (pure ("this." ++ Text.camelCase display))
  | unnamed {id : NodeId} {target : Node}
      (href : node.get? Property.referenced = some (.reference (some id)))
      (htarget : doc.get? id = some target)
      (hcamel : ∀ display, target.getText? Property.name = some display →
        Text.camelCase display = "") :
      FieldCode doc node (unwritten .missingValue target.id "referenced attribute has no name")
  | dangling {id : NodeId} (href : node.get? Property.referenced = some (.reference (some id)))
      (hgone : doc.get? id = none) :
      FieldCode doc node (unwritten .danglingReference node.id
        ("attribute reference to unknown object \"" ++ id ++ "\""))
  | absent (href : ∀ id, node.get? Property.referenced ≠ some (.reference (some id))) :
      FieldCode doc node (unwritten .absentReference node.id "attribute reference is undefined")

inductive NumberCode (node : Node) : Generated String → Prop where
  | written {held : Value} {text : List Char} (hheld : node.get? Property.value = some held)
      (htext : numberText? held = some text) : NumberCode node (pure (String.ofList text))
  | infinite {x : Binary64} (hheld : node.get? Property.value = some (.float x))
      (htext : numberText? (.float x) = none) :
      NumberCode node (unwritten .invalidValue node.id
        ("number's value " ++ x.displayText ++ " is not finite"))
  | unreadable {held : Value} (hheld : node.get? Property.value = some held)
      (htext : numberText? held = none) (hfloat : ∀ x, held ≠ .float x) :
      NumberCode node (unwritten .invalidValue node.id
        ("number's value " ++ describe held ++ " is not a number"))
  | missing (hnone : node.get? Property.value = none) :
      NumberCode node (unwritten .missingValue node.id "number's value is undefined")

inductive OperatorCode (node : Node) : Generated String → Prop where
  | written {operator : String} (hoperator : node.getText? Property.operator = some operator)
      (hsame : operator ∉ ["of", "^"]) : OperatorCode node (pure operator)
  | percentage (hoperator : node.getText? Property.operator = some "of") :
      OperatorCode node (pure "* 0.01 *")
  | power (hoperator : node.getText? Property.operator = some "^") : OperatorCode node (pure "**")
  | missing (hnone : node.getText? Property.operator = none) :
      OperatorCode node
        (unwritten .missingValue node.id "binary operation's operator is undefined")

def wrapped (parentheses : Bool) (text : String) : String :=
  if parentheses then "(" ++ text ++ ")" else text

def unwrittenOperand (node : Node) (what property : String) : Generated String :=
  unwritten .missingValue node.id (what ++ "'s " ++ property ++ " is undefined")

/-- The code of what a place holds, and the references in it from left to right. Where the place is
empty, `blank` stands there. Operations may have parentheses around them, and so may the left sides
of their operators. -/
inductive Spelled (doc : Document) :
    (blank : Generated String) → Option Value → Generated String → List Node → Prop where
  | blank (blank : Generated String) : Spelled doc blank none blank []
  | stranger {blank : Generated String} {value : Value} (hnode : doc.nodeOf? value = none) :
      Spelled doc blank (some value) (unwritten .invalidValue none
        ("value " ++ describe value ++ " isn't handled as an expression")) []
  | reference {blank text : Generated String} {value : Value} {node : Node}
      (hnode : doc.nodeOf? value = some node)
      (hconcept : node.concept = Concept.attributeReference) (htext : FieldCode doc node text) :
      Spelled doc blank (some value) text [node]
  | number {blank text : Generated String} {value : Value} {node : Node}
      (hnode : doc.nodeOf? value = some node) (hconcept : node.concept = Concept.number)
      (htext : NumberCode node text) : Spelled doc blank (some value) text []
  | operation {blank left operator right : Generated String} {front back : List Node}
      {value : Value} {node : Node} (outer inner : Bool)
      (hnode : doc.nodeOf? value = some node) (hconcept : node.concept = Concept.binaryOperation)
      (hleft : Spelled doc (unwrittenOperand node "binary operation" Property.leftOperand)
        (node.get? Property.leftOperand) left front)
      (hoperator : OperatorCode node operator)
      (hright : Spelled doc (unwrittenOperand node "binary operation" Property.rightOperand)
        (node.get? Property.rightOperand) right back) :
      Spelled doc blank (some value)
        (do
          let left ← left
          let operator ← operator
          let right ← right
          return wrapped outer (wrapped inner left ++ " " ++ operator ++ " " ++ right))
        (front ++ back)
  | parentheses {blank text : Generated String} {refs : List Node} {value : Value} {node : Node}
      (hnode : doc.nodeOf? value = some node) (hconcept : node.concept = Concept.parentheses)
      (hinner : Spelled doc (unwrittenOperand node "parentheses" Property.inner)
        (node.get? Property.inner) text refs) :
      Spelled doc blank (some value) (do return wrapped true (← text)) refs
  | unknown {blank : Generated String} {value : Value} {node : Node}
      (hnode : doc.nodeOf? value = some node)
      (hconcept : node.concept ∉ [Concept.attributeReference, Concept.number,
        Concept.binaryOperation, Concept.parentheses]) :
      Spelled doc blank (some value) (unwritten .unhandledConcept node.id
        ("value of concept \"" ++ node.concept ++ "\" isn't handled as an expression")) []

section Leaves

theorem codeName?_eq_some {name : String} :
    node.codeName? = some name ↔ ∃ display, node.getText? Property.name = some display ∧
      name = Text.camelCase display ∧ name ≠ "" := by
  simp only [Node.codeName?, Option.filter_eq_some_iff, Option.map_eq_some_iff]
  constructor
  · rintro ⟨⟨display, hdisplay, rfl⟩, hne⟩
    exact ⟨display, hdisplay, rfl, by simpa using hne⟩
  · rintro ⟨display, hdisplay, rfl, hne⟩
    exact ⟨⟨display, hdisplay, rfl⟩, by simpa using hne⟩

theorem codeName?_eq_none : node.codeName? = none ↔
    ∀ display, node.getText? Property.name = some display → Text.camelCase display = "" := by
  cases hdisplay : node.getText? Property.name <;> simp [Node.codeName?, hdisplay]

theorem fieldCode_attributeReference (doc : Document) (node : Node) :
    FieldCode doc node (attributeReference doc node) := by
  unfold attributeReference
  split
  next target hresolved =>
    obtain ⟨id, hid, htarget⟩ := resolve_eq_resolved hresolved
    split
    next name hname =>
      obtain ⟨display, hdisplay, rfl, hcamel⟩ := codeName?_eq_some.mp hname
      exact .named (get?_referenced hid) htarget hdisplay hcamel
    next hname => exact .unnamed (get?_referenced hid) htarget (codeName?_eq_none.mp hname)
  next id hresolved =>
    obtain ⟨hid, hgone⟩ := resolve_eq_dangling hresolved
    exact .dangling (get?_referenced hid) hgone
  next hresolved =>
    refine .absent fun id href => ?_
    simp only [href, Option.bind_some, Value.asReference?, Option.getD_some] at hresolved
    cases hget : doc.get? id <;> simp [Document.resolve, hget] at hresolved

theorem FieldCode.eq {text : Generated String} (h : FieldCode doc node text) :
    text = attributeReference doc node := by
  unfold attributeReference
  cases h with
  | named href htarget hdisplay hcamel =>
    have hname := codeName?_eq_some.mpr ⟨_, hdisplay, rfl, hcamel⟩
    simp [href, Value.asReference?, Document.resolve, htarget, hname]
  | unnamed href htarget hcamel =>
    have hname := codeName?_eq_none.mpr hcamel
    simp only [href, Value.asReference?, Option.bind_some, Option.getD_some, Document.resolve,
      htarget, hname]
    rfl
  | dangling href hgone =>
    simp only [href, Value.asReference?, Option.bind_some, Option.getD_some, Document.resolve,
      hgone]
    rfl
  | absent href =>
    have hnone : ((node.get? Property.referenced).bind Value.asReference?).getD none = none := by
      rw [Option.eq_none_iff_forall_ne_some]
      exact fun id hid => href id (get?_referenced hid)
    rw [hnone]
    rfl

theorem numberCode_number (node : Node) : NumberCode node (number node) := by
  unfold number
  split
  next n hheld => exact .written hheld rfl
  next x hheld =>
    split
    next hfinite => exact .written hheld (if_pos hfinite)
    next hfinite => exact .infinite hheld (if_neg hfinite)
  next s hheld =>
    split
    next d hread => exact .written hheld (congrArg (Option.map Decimal.text) hread)
    next hread =>
      have hmessage : "number's value \"" ++ s ++ "\" is not a number" =
          "number's value " ++ describe (.text s) ++ " is not a number" := by
        simp [describe, String.append_assoc, ← String.toList_inj]
      rw [hmessage]
      exact .unreadable hheld (congrArg (Option.map Decimal.text) hread) nofun
  next held hint hfloat htext hheld =>
    refine .unreadable hheld ?_ hfloat
    cases held <;> first | rfl | simp_all
  next hnone => exact .missing hnone

theorem operatorCode_operator (node : Node) : OperatorCode node (operator node) := by
  unfold operator
  split
  next operator hoperator =>
    by_cases hof : operator = "of"
    · subst hof
      exact .percentage hoperator
    by_cases hpower : operator = "^"
    · subst hpower
      exact .power hoperator
    rw [codeOperator, if_neg hof, if_neg hpower]
    exact .written hoperator (by simp [hof, hpower])
  next hnone => exact .missing hnone

end Leaves

/-- An attribute reference in an expression, where the renderer meets it. -/
def Mentioned (doc : Document) (value : Value) (ref : Node) : Prop :=
  Occurs doc value ref ∧ ref.concept = Concept.attributeReference

theorem mentioned_iff (hnode : doc.nodeOf? value = some node) :
    Mentioned doc value ref ↔ ref = node ∧ node.concept = Concept.attributeReference ∨
      ∃ property ∈ operandProperties node, ∃ held, node.get? property = some held ∧
        Mentioned doc held ref := by
  constructor
  · rintro ⟨hoccurs, hconcept⟩
    cases hoccurs with
    | here hhere =>
      obtain rfl := Option.some.inj (hnode.symm.trans hhere)
      exact .inl ⟨rfl, hconcept⟩
    | inside houter hproperty hoperand hinside =>
      obtain rfl := Option.some.inj (hnode.symm.trans houter)
      exact .inr ⟨_, hproperty, _, hoperand, hinside, hconcept⟩
  · rintro (⟨rfl, hconcept⟩ | ⟨property, hproperty, held, hheld, hinside, hconcept⟩)
    · exact ⟨.here hnode, hconcept⟩
    · exact ⟨.inside hnode hproperty hheld hinside, hconcept⟩

theorem not_mentioned (hnode : doc.nodeOf? value = none) : ¬Mentioned doc value ref := by
  rintro ⟨hoccurs, -⟩
  cases hoccurs <;> simp_all

theorem Occurs.leads (forest : doc.Forest) {id : NodeId} (h : Occurs doc (.node id) node) :
    doc.get? node.id = some node ∧ doc.Leads id node.id := by
  generalize hvalue : Value.node id = value at h
  induction h generalizing id with
  | here hnode =>
    obtain ⟨key, rfl, hget⟩ := nodeOf?_eq_some hnode
    cases hvalue
    rw [forest.keyed hget]
    exact ⟨hget, .refl⟩
  | @inside _ held outer _ property houter _ hheld hinside ih =>
    obtain ⟨key, rfl, hget⟩ := nodeOf?_eq_some houter
    cases hvalue
    obtain ⟨child, rfl⟩ : ∃ child, held = .node child := by
      cases hinside with
      | here hnode => exact ⟨_, (nodeOf?_eq_some hnode).choose_spec.1⟩
      | inside hnode => exact ⟨_, (nodeOf?_eq_some hnode).choose_spec.1⟩
    obtain ⟨hnode, hleads⟩ := ih rfl
    exact ⟨hnode, .head (Document.owns_of_get? hget hheld (List.mem_singleton_self _)) hleads⟩

def MentionedAt (doc : Document) (node : Node) (property : String) (ref : Node) : Prop :=
  ∃ held, node.get? property = some held ∧ Mentioned doc held ref

theorem mentioned_iff_of_concept (hnode : doc.nodeOf? value = some node) :
    Mentioned doc value ref ↔
      if node.concept = Concept.attributeReference then ref = node
      else if node.concept = Concept.binaryOperation then
        MentionedAt doc node Property.leftOperand ref ∨
          MentionedAt doc node Property.rightOperand ref
      else if node.concept = Concept.parentheses then MentionedAt doc node Property.inner ref
      else False := by
  rw [mentioned_iff hnode, operandProperties]
  simp only [MentionedAt]
  split_ifs <;> simp_all [Concept.attributeReference, Concept.binaryOperation, Concept.parentheses]

theorem Spelled.mem_iff {blank text : Generated String} {held : Option Value}
    (h : Spelled doc blank held text refs) :
    ref ∈ refs ↔ ∃ value, held = some value ∧ Mentioned doc value ref := by
  induction h with
  | blank => simp
  | stranger hnode => simp [not_mentioned hnode]
  | reference hnode hconcept => simp [mentioned_iff_of_concept hnode, hconcept]
  | number hnode hconcept =>
    simp [mentioned_iff_of_concept hnode, hconcept, Concept.number, Concept.attributeReference,
      Concept.binaryOperation, Concept.parentheses]
  | operation outer inner hnode hconcept _ _ _ ihl ihr =>
    simp [mentioned_iff_of_concept hnode, hconcept, Concept.binaryOperation,
      Concept.attributeReference, MentionedAt, ihl, ihr]
  | parentheses hnode hconcept _ ih =>
    simp [mentioned_iff_of_concept hnode, hconcept, Concept.parentheses,
      Concept.attributeReference, Concept.binaryOperation, MentionedAt, ih]
  | unknown hnode hconcept =>
    simp only [List.mem_cons, List.not_mem_nil, or_false, not_or] at hconcept
    simp [mentioned_iff_of_concept hnode, hconcept]

theorem Spelled.of_eq {blank text other : Generated String} {held : Option Value}
    (h : Spelled doc blank held text refs) (output : other.output = text.output)
    (diagnostics : other.diagnostics = text.diagnostics) : Spelled doc blank held other refs :=
  Generated.ext output diagnostics ▸ h

theorem spelled_operand {render : Value → Generated String} {what property : String}
    (hrender : ∀ held, node.get? property = some held →
      ∀ blank, ∃ refs, Spelled doc blank (some held) (render held) refs) :
    ∃ refs, Spelled doc (unwrittenOperand node what property) (node.get? property)
      (operand render node what property) refs := by
  unfold operand
  split
  next held hheld =>
    rw [hheld]
    exact hrender held hheld _
  next hnone =>
    rw [hnone]
    exact ⟨[], .blank _⟩

theorem exists_guardPower (node : Node) (text : String) :
    ∃ inner, guardPower node text = wrapped inner text := by
  unfold guardPower
  split
  · exact ⟨true, rfl⟩
  · exact ⟨false, rfl⟩

theorem exists_spelled_renderWithin (forest : doc.Forest) (table : OperatorTable) (depth : Nat)
    {value : Value} {path : List Node} (hdepth : ∀ id, value = .node id → doc.Within depth id)
    (blank : Generated String) :
    ∃ refs, Spelled doc blank (some value) (renderWithin doc table depth value path) refs := by
  induction depth generalizing value path blank with
  | zero =>
    refine ⟨[], .stranger ?_⟩
    cases value with
    | node id => exact (hdepth id rfl).absent forest
    | _ => rfl
  | succ depth ih =>
    unfold renderWithin
    split
    next hnone => exact ⟨[], .stranger hnone⟩
    next node hnode =>
      obtain ⟨id, rfl, hget⟩ := nodeOf?_eq_some hnode
      -- an operand is within one level less, whatever stands for it where it is missing
      have hoperand (what property : String) :
          ∃ refs, Spelled doc (unwrittenOperand node what property) (node.get? property)
            (operand (fun held => renderWithin doc table depth held (path ++ [node])) node what
              property) refs := by
        refine spelled_operand fun held hheld blank => ih ?_ blank
        rintro child rfl
        exact (hdepth id rfl).child forest
          (Document.owns_of_get? hget hheld (List.mem_singleton_self child))
      dsimp only
      by_cases hreference : node.concept = Concept.attributeReference
      · rw [if_pos hreference]
        exact ⟨[node], .reference hnode hreference (fieldCode_attributeReference doc node)⟩
      rw [if_neg hreference]
      by_cases hnumber : node.concept = Concept.number
      · rw [if_pos hnumber]
        exact ⟨[], .number hnode hnumber (numberCode_number node)⟩
      rw [if_neg hnumber]
      by_cases hbinary : node.concept = Concept.binaryOperation
      · rw [if_pos hbinary]
        obtain ⟨front, hleft⟩ := hoperand "binary operation" Property.leftOperand
        obtain ⟨back, hright⟩ := hoperand "binary operation" Property.rightOperand
        obtain ⟨inner, hinner⟩ := exists_guardPower node
          (operand (fun held => renderWithin doc table depth held (path ++ [node])) node
            "binary operation" Property.leftOperand).output
        refine ⟨front ++ back, Spelled.of_eq (.operation (table.needsParentheses node path.getLast?)
          inner hnode hbinary hleft (operatorCode_operator node) hright) ?_ ?_⟩
        · simp only [operation, Generated.output_bind, Generated.output_pure, hinner]
          rfl
        · simp [operation]
      rw [if_neg hbinary]
      by_cases hparentheses : node.concept = Concept.parentheses
      · rw [if_pos hparentheses]
        obtain ⟨refs, hinner⟩ := hoperand "parentheses" Property.inner
        exact ⟨refs, .parentheses hnode hparentheses hinner⟩
      rw [if_neg hparentheses]
      exact ⟨[], .unknown hnode (by simp [hreference, hnumber, hbinary, hparentheses])⟩

theorem exists_spelled_render (forest : doc.Forest) (table : OperatorTable) (value : Value)
    (blank : Generated String) :
    ∃ refs, Spelled doc blank (some value) (render doc table value) refs :=
  exists_spelled_renderWithin forest table doc.size
    (fun id _ => Document.within_of_size_le (Nat.le_refl _) id) blank

theorem Spelled.clean {blank text : Generated String} {held : Option Value}
    (h : Spelled doc blank held text refs) (hclean : text.diagnostics = []) :
    ∀ ref ∈ refs, (attributeReference doc ref).diagnostics = [] := by
  induction h with
  | reference _ _ htext =>
    intro ref hmem
    cases List.mem_singleton.mp hmem
    rwa [← htext.eq]
  | operation outer inner _ _ _ _ _ ihl ihr =>
    simp only [Generated.diagnostics_bind, Generated.diagnostics_pure, List.append_nil,
      List.append_eq_nil_iff] at hclean
    intro ref hmem
    rcases List.mem_append.mp hmem with hmem | hmem
    · exact ihl hclean.1 ref hmem
    · exact ihr hclean.2.2 ref hmem
  | parentheses _ _ _ ih => exact ih (List.append_eq_nil_iff.mp hclean).1
  | _ => simp

end RecordForms.Expression
