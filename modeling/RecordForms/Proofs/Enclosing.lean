import RecordForms.Proofs.Rendering

/-! What stands around an expression. All nodes above it are handed down to it, but an operation
asks its parent only, and only about its own parentheses, so that is all they can change. -/
namespace RecordForms.Expression

variable {doc : Document} {table : OperatorTable} {value : Value}

/-- Two paths give one text if their last nodes ask the same of the value. Nothing is asked of the
operands by what stands above the value: their parent is the last node of both of their paths. -/
theorem renderWithin_congr_parent (depth : Nat) {path other : List Node}
    (h : ∀ node, doc.nodeOf? value = some node →
      table.needsParentheses node path.getLast? = table.needsParentheses node other.getLast?) :
    renderWithin doc table depth value path = renderWithin doc table depth value other := by
  induction depth generalizing value path other with
  | zero => rfl
  | succ depth ih =>
    cases hnode : doc.nodeOf? value with
    | none => rw [renderWithin_of_none hnode, renderWithin_of_none hnode]
    | some node =>
      refine renderWithin_congr hnode hnode rfl (h node hnode) fun property held _ => ih ?_
      intro operand _
      rw [List.getLast?_concat, List.getLast?_concat]

def isEnclosed (doc : Document) (table : OperatorTable) (value : Value) (parent : Option Node) :
    Bool :=
  (doc.nodeOf? value).any fun node =>
    node.isA Concept.binaryOperation && table.needsParentheses node parent

theorem renderWithin_eq_alone (doc : Document) (table : OperatorTable) (value : Value) (depth : Nat)
    (path : List Node) :
    renderWithin doc table (depth + 1) value path =
      (fun text => if isEnclosed doc table value path.getLast? then parenthesized text else text)
        <$> renderWithin doc table (depth + 1) value [] := by
  cases hnode : doc.nodeOf? value with
  | none =>
    rw [renderWithin_of_none hnode, renderWithin_of_none hnode]
    simp [isEnclosed, hnode]
  | some node =>
    by_cases hconcept : node.concept = Concept.binaryOperation
    · have hoperands :
          operation (fun held => renderWithin doc table depth held (path ++ [node])) node =
            operation (fun held => renderWithin doc table depth held ([] ++ [node])) node := by
        refine operation_congr fun property held _ => renderWithin_congr_parent depth ?_
        intro operand _
        rw [List.getLast?_concat, List.getLast?_concat]
      have hisA : node.isA Concept.binaryOperation = true := beq_iff_eq.mpr hconcept
      rw [renderWithin_operation hnode hconcept, renderWithin_operation hnode hconcept, hoperands]
      simp [isEnclosed, hnode, hisA, OperatorTable.needsParentheses]
    · have hnot : isEnclosed doc table value path.getLast? = false := by
        rw [isEnclosed, hnode, Option.any_some, needsParentheses_of_ne hconcept, Bool.and_false]
      have hsame : renderWithin doc table (depth + 1) value path =
          renderWithin doc table (depth + 1) value [] := by
        refine renderWithin_congr_parent _ fun found hfound => ?_
        obtain rfl := Option.some.inj (hnode.symm.trans hfound)
        rw [needsParentheses_of_ne hconcept, needsParentheses_of_ne hconcept]
      simp [hnot, hsame]

/-- Below other nodes a value has the problems that it has alone and the text that it has alone,
with one pair of parentheses around it exactly if it is an operation that needs them under the last
of these nodes. The nodes further up change nothing. -/
theorem renderBelow_encloses (doc : Document) (table : OperatorTable) (value : Value)
    (path : List Node) :
    (renderBelow doc table value path).diagnostics = (render doc table value).diagnostics ∧
      (renderBelow doc table value path).output =
        (if isEnclosed doc table value path.getLast? then
          "(" ++ (render doc table value).output ++ ")"
        else (render doc table value).output) ∧
      ∀ (earlier : List Node) (parent : Node), renderBelow doc table value (earlier ++ [parent]) =
        renderBelow doc table value [parent] := by
  obtain ⟨depth, hdepth⟩ := Nat.exists_eq_succ_of_ne_zero doc.size_pos.ne'
  have halone := renderWithin_eq_alone doc table value depth path
  refine ⟨?_, ?_, fun earlier parent => renderWithin_congr_parent _ fun node _ => ?_⟩
  · rw [renderBelow, render, renderBelow, hdepth, halone, Generated.diagnostics_map]
  · rw [renderBelow, render, renderBelow, hdepth, halone, Generated.output_map]
    rfl
  · rw [List.getLast?_concat, List.getLast?_singleton]

end RecordForms.Expression
