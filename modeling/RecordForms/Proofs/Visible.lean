import RecordForms.Proofs.ClassOrder

/-! Problems in the text of a module. A problem is recorded where a text is missing, and what stands
in its place goes into the same line, so it can be found in the output. The elements of a record
that are no nodes have no line, and nothing tells of them. -/
namespace RecordForms

namespace Fragment

/-- The blanks in front of a text. There are none in front of an empty line. -/
def margin (blanks : Nat) (text : List Char) : List Char :=
  if text.head?.all (· == '\n') then [] else List.replicate blanks ' '

/-- A text as it is printed from its second character on: behind each line end stands the margin of
what follows. -/
def continued (blanks : Nat) : List Char → List Char
  | [] => []
  | c :: rest => c :: ((if c = '\n' then margin blanks rest else []) ++ continued blanks rest)

variable {blanks : Nat} {text : List Char}

theorem subset_continued (blanks : Nat) (text : List Char) : text ⊆ continued blanks text := by
  induction text with
  | nil => exact List.nil_subset _
  | cons c text ih =>
    rw [continued]
    exact List.cons_subset_cons c (List.Subset.trans ih (List.subset_append_right _ _))

@[simp] theorem toList_indentLine (blanks : Nat) (line : List Char) :
    (indentLine blanks (String.ofList line)).toList =
      if line = [] then [] else List.replicate blanks ' ' ++ line := by
  rw [indentLine]
  cases line with
  | nil => rfl
  | cons c line => simp

theorem intercalate_indentLine {first : List Char} (rest : List (List Char))
    (hfirst : first = [] ↔ text.head?.all (· == '\n') = true) :
    ['\n'].intercalate ((indentLine blanks (String.ofList first)).toList :: rest) =
      margin blanks text ++ ['\n'].intercalate (first :: rest) := by
  rw [margin, toList_indentLine]
  by_cases hempty : first = []
  · rw [if_pos hempty, if_pos (hfirst.mp hempty), hempty]
    rfl
  · rw [if_neg hempty, if_neg (mt hfirst.mpr hempty)]
    cases rest <;> simp [List.intercalate_cons_cons]

theorem intercalate_splitOn {first : List Char} {rest : List (List Char)}
    (h : text.splitOn '\n' = first :: rest) :
    ['\n'].intercalate
        (first :: rest.map fun line => (indentLine blanks (String.ofList line)).toList) =
      continued blanks text ∧ (first = [] ↔ text.head?.all (· == '\n') = true) := by
  induction text generalizing first rest with
  | nil =>
    rw [List.splitOn_nil] at h
    obtain ⟨rfl, rfl⟩ := List.cons.inj h
    exact ⟨rfl, by simp⟩
  | cons c text ih =>
    obtain ⟨head, tail, hsplit⟩ :=
      List.exists_cons_of_ne_nil (List.splitOnP_ne_nil (· == '\n') text)
    obtain ⟨htext, hhead⟩ := ih hsplit
    rw [List.splitOn, List.splitOnP_cons_eq_if_modifyHead, hsplit] at h
    by_cases hc : c = '\n'
    · subst hc
      obtain ⟨rfl, rfl⟩ := List.cons.inj h
      refine ⟨?_, by simp⟩
      rw [List.map_cons, List.intercalate_cons_cons, intercalate_indentLine _ hhead, htext,
        continued, if_pos rfl]
      rfl
    · rw [if_neg (by simpa using hc)] at h
      obtain ⟨rfl, rfl⟩ := List.cons.inj h
      refine ⟨?_, by simpa using hc⟩
      rw [continued, if_neg hc, List.nil_append, ← htext]
      cases tail <;> simp [List.intercalate_cons_cons]

/-- A line of a fragment, and how far in it stands. -/
inductive HasLine : Fragment → UInt64 → String → Prop where
  | line (text : String) : HasLine (.line text) 0 text
  | part {part : Fragment} {parts : List Fragment} {level : UInt64} {text : String}
      (hpart : part ∈ parts) (h : HasLine part level text) : HasLine (.sequence parts) level text
  | indented {inner : Fragment} {level : UInt64} {text : String} (levels : UInt64)
      (h : HasLine inner level text) : HasLine (.indented levels inner) (levels + level) text

theorem HasLine.lines_occur {fragment : Fragment} {level : UInt64} {text : String}
    (h : fragment.HasLine level text) (width outer : UInt64) :
    (Fragment.line text).lines width (outer + level) <:+: fragment.lines width outer := by
  induction h generalizing outer with
  | line text => rw [UInt64.add_zero]
  | @part part parts level text hpart _ ih =>
    rw [lines.eq_2, linesOfParts_eq, List.flatMap_def]
    exact (ih outer).trans (List.infix_of_mem_flatten (List.mem_map_of_mem hpart))
  | indented levels _ ih =>
    rw [lines.eq_3, ← UInt64.add_assoc]
    exact ih (outer + levels)

theorem intercalate_occurs {parts whole : List String} (separator : String) (hne : parts ≠ [])
    (h : parts <:+: whole) :
    (separator.intercalate parts).toList <:+: (separator.intercalate whole).toList := by
  obtain ⟨front, back, rfl⟩ := h
  have hfront : (separator.intercalate parts).toList <:+
      (separator.intercalate (front ++ parts)).toList := by
    by_cases hempty : front = []
    · rw [hempty, List.nil_append]
    · rw [String.intercalate_append_of_ne_nil hempty hne, String.toList_append]
      exact List.suffix_append _ _
  have hback : (separator.intercalate (front ++ parts)).toList <+:
      (separator.intercalate (front ++ parts ++ back)).toList := by
    by_cases hempty : back = []
    · rw [hempty, List.append_nil]
    · rw [String.intercalate_append_of_ne_nil (List.append_ne_nil_of_right_ne_nil _ hne) hempty,
        String.append_assoc, String.toList_append]
      exact List.prefix_append _ _
  exact hfront.isInfix.trans hback.isInfix

theorem not_mem_intercalate {c : Char} {separator : String} {lines : List String}
    (hseparator : c ∉ separator.toList) (hlines : ∀ line ∈ lines, c ∉ line.toList) :
    c ∉ (separator.intercalate lines).toList := by
  induction lines with
  | nil => simp
  | cons line lines ih =>
    rw [List.forall_mem_cons] at hlines
    cases lines with
    | nil => simpa using hlines.1
    | cons next lines => simp [hlines.1, hseparator, ih hlines.2, -String.toList_intercalate]

theorem continued_occurs {front part back : List Char} (hlast : part.getLast? ≠ some '\n') :
    continued blanks part <:+: continued blanks (front ++ part ++ back) := by
  have hbegins : continued blanks part <+: continued blanks (part ++ back) := by
    induction part with
    | nil => exact List.nil_prefix
    | cons c part ih =>
      cases part with
      | nil =>
        have hc : c ≠ '\n' := by simpa using hlast
        simp [continued, hc]
      | cons d part =>
        rw [List.getLast?_cons_cons] at hlast
        have hmargin : margin blanks (d :: part ++ back) = margin blanks (d :: part) := rfl
        rw [List.cons_append, continued.eq_2, continued.eq_2 blanks c, hmargin,
          List.cons_prefix_cons, List.prefix_append_right_inj]
        exact ⟨rfl, ih hlast⟩
  have hends : continued blanks (part ++ back) <:+ continued blanks (front ++ (part ++ back)) := by
    induction front with
    | nil => exact List.suffix_rfl
    | cons c front ih =>
      rw [List.cons_append, continued]
      exact (ih.trans (List.suffix_append _ _)).trans (List.suffix_cons _ _)
  rw [List.append_assoc]
  exact hbegins.isInfix.trans hends.isInfix

theorem toList_line (width level : UInt64) (text : String) :
    ("\n".intercalate ((Fragment.line text).lines width level)).toList =
      margin (level * width).toNat text.toList ++
        continued (level * width).toNat text.toList := by
  obtain ⟨first, rest, hsplit⟩ :=
    List.exists_cons_of_ne_nil (List.splitOnP_ne_nil (· == '\n') text.toList)
  obtain ⟨htext, hfirst⟩ := @intercalate_splitOn (level * width).toNat _ _ _ hsplit
  have hlines : ((Fragment.line text).lines width level).map String.toList =
      (first :: rest).map fun line =>
        (indentLine (level * width).toNat (String.ofList line)).toList := by
    rw [lines, splitLines, List.splitOn, hsplit, List.map_map, List.map_map]
    rfl
  have hnewline : "\n".toList = ['\n'] := rfl
  rw [String.toList_intercalate, hlines, hnewline, List.map_cons,
    intercalate_indentLine _ hfirst, htext]

theorem HasLine.print_occurs {fragment : Fragment} {level : UInt64} {text : String}
    (h : fragment.HasLine level text) (width : UInt64) {part : List Char}
    (hpart : part <:+: text.toList) (hlast : part.getLast? ≠ some '\n') :
    continued (level * width).toNat part <:+: (fragment.print width).toList := by
  have hlines := h.lines_occur width 0
  have hne : (Fragment.line text).lines width (0 + level) ≠ [] := by
    simp [lines, splitLines, List.splitOn, List.splitOnP_ne_nil]
  have hprinted := intercalate_occurs "\n" hne hlines
  rw [UInt64.zero_add, toList_line] at hprinted
  obtain ⟨front, back, hparts⟩ := hpart
  rw [← hparts] at hprinted
  exact ((continued_occurs hlast).trans (List.suffix_append _ _).isInfix).trans hprinted

end Fragment

/-- The texts of a list stand in another text, in their order and apart from each other. -/
def Placed : List (List Char) → List Char → Prop
  | [], _ => True
  | part :: parts, text => ∃ before after, text = before ++ part ++ after ∧ Placed parts after

namespace Placed

variable {parts : List (List Char)} {text : List Char}

theorem behind (h : Placed parts text) (front : List Char) : Placed parts (front ++ text) := by
  cases parts with
  | nil => trivial
  | cons part parts =>
    obtain ⟨before, after, rfl, hafter⟩ := h
    exact ⟨front ++ before, after, by simp only [List.append_assoc], hafter⟩

theorem append {others : List (List Char)} {other : List Char} (h : Placed parts text)
    (hothers : Placed others other) : Placed (parts ++ others) (text ++ other) := by
  induction parts generalizing text with
  | nil => exact hothers.behind text
  | cons part parts ih =>
    obtain ⟨before, after, rfl, hafter⟩ := h
    exact ⟨before, after ++ other, by simp only [List.append_assoc], ih hafter⟩

theorem occurs {part : List Char} (h : Placed parts text) (hpart : part ∈ parts) :
    part <:+: text := by
  induction parts generalizing text with
  | nil => cases hpart
  | cons first parts ih =>
    obtain ⟨before, after, rfl, hafter⟩ := h
    rcases List.mem_cons.mp hpart with rfl | hpart
    · exact ⟨before, after, rfl⟩
    · exact (ih hafter hpart).trans (List.suffix_append _ _).isInfix

end Placed

namespace Generated

def Told (g : Generated String) : Prop :=
  Placed (g.diagnostics.map fun d => d.placeholder.toList) g.output.toList

theorem told_pure (text : String) : Told (pure text) := trivial

theorem told_problem (kind : DiagnosticKind) (id : Option String) (message : String) :
    Told (problem kind id message) :=
  ⟨[], [], by simp [problem], trivial⟩

theorem Told.append {g h : Generated String} (hg : g.Told) (hh : h.Told) :
    Told (do return (← g) ++ (← h)) := by
  have hall := Placed.append hg hh
  rw [← List.map_append, ← String.toList_append] at hall
  simpa only [Told, output_bind, output_pure, diagnostics_bind, diagnostics_pure, List.append_nil]
    using hall

theorem Told.occurs {g : Generated String} (h : g.Told) {d : Diagnostic} (hd : d ∈ g.diagnostics) :
    d.placeholder.toList <:+: g.output.toList :=
  Placed.occurs h (List.mem_map_of_mem hd)

end Generated

namespace Expression

open Generated (Told told_pure told_problem)

theorem told_fieldCode {doc : Document} {node : Node} {text : Generated String}
    (h : FieldCode doc node text) : text.Told := by
  cases h with
  | named => exact told_pure _
  | _ => exact told_problem _ _ _

theorem told_numberCode {node : Node} {text : Generated String} (h : NumberCode node text) :
    text.Told := by
  cases h with
  | written => exact told_pure _
  | _ => exact told_problem _ _ _

theorem told_operatorCode {node : Node} {text : Generated String} (h : OperatorCode node text) :
    text.Told := by
  cases h with
  | missing => exact told_problem _ _ _
  | _ => exact told_pure _

theorem told_wrapped {text : Generated String} (h : text.Told) (parentheses : Bool) :
    Told (do return wrapped parentheses (← text)) := by
  cases parentheses with
  | false => simpa [wrapped] using h
  | true =>
    have hall := ((told_pure "(").append h).append (told_pure ")")
    simpa [Told, wrapped] using hall

theorem Spelled.told {doc : Document} {blank text : Generated String} {held : Option Value}
    {refs : List Node} (h : Spelled doc blank held text refs) (hblank : blank.Told) :
    text.Told := by
  induction h with
  | blank => exact hblank
  | stranger => exact told_problem _ _ _
  | reference _ _ htext => exact told_fieldCode htext
  | number _ _ htext => exact told_numberCode htext
  | operation outer inner _ _ _ hoperator _ ihl ihr =>
    have hleft := told_wrapped (ihl (told_problem _ _ _)) inner
    have hsides := (((hleft.append (told_pure " ")).append (told_operatorCode hoperator)).append
      (told_pure " ")).append (ihr (told_problem _ _ _))
    simpa [Told] using told_wrapped hsides outer
  | parentheses _ _ _ ih => exact told_wrapped (ih (told_problem _ _ _)) true
  | unknown => exact told_problem _ _ _

end Expression

namespace RecordModule

open Generated (Told told_pure told_problem)
open Expression (comment)

variable {doc : Document} {node record : Node}

theorem told_nameOf (what : String) (node : Node) : (nameOf what node).Told := by
  unfold nameOf
  split
  · exact told_pure _
  · exact told_problem _ _ _

theorem told_entryCode {text : Generated String} {refs : List Node}
    (h : EntryCode doc node text refs) : text.Told := by
  obtain ⟨blank, hblank, hspelled⟩ := h
  refine hspelled.told ?_
  cases hblank with
  | known => exact told_pure _
  | _ => exact told_problem _ _ _

/-- A problem that a line of the fragment tells of, not more than `depth` levels in. -/
def Seen (fragment : Fragment) (depth : Nat) (d : Diagnostic) : Prop :=
  ∃ level : UInt64, level.toNat ≤ depth ∧
    ∃ text, fragment.HasLine level text ∧ d.placeholder.toList <:+: text.toList

theorem Seen.mono {fragment : Fragment} {depth : Nat} {d : Diagnostic} (h : Seen fragment depth d)
    {more : Nat} (hle : depth ≤ more) : Seen fragment more d := by
  obtain ⟨level, hlevel, text, hline, htold⟩ := h
  exact ⟨level, hlevel.trans hle, text, hline, htold⟩

theorem Seen.part {part : Fragment} {parts : List Fragment} {depth : Nat} {d : Diagnostic}
    (h : Seen part depth d) (hpart : part ∈ parts) : Seen (.sequence parts) depth d := by
  obtain ⟨level, hlevel, text, hline, htold⟩ := h
  exact ⟨level, hlevel, text, .part hpart hline, htold⟩

theorem Seen.indented {fragment : Fragment} {depth : Nat} {d : Diagnostic}
    (h : Seen fragment depth d) (levels : UInt64) :
    Seen (.indented levels fragment) (levels.toNat + depth) d := by
  obtain ⟨level, hlevel, text, hline, htold⟩ := h
  refine ⟨levels + level, ?_, text, .indented levels hline, htold⟩
  rw [UInt64.toNat_add]
  exact (Nat.mod_le _ _).trans (Nat.add_le_add_left hlevel _)

theorem seen_placeholder (d : Diagnostic) : Seen (.line d.placeholder) 0 d :=
  ⟨0, Nat.le_refl 0, _, .line _, List.infix_rfl⟩

theorem seen_line {text : String} {d : Diagnostic} (h : d.placeholder.toList <:+: text.toList)
    (line : String) (front back : List Char) (hline : front ++ text.toList ++ back = line.toList) :
    Seen (.line line) 0 d :=
  ⟨0, Nat.le_refl 0, line, .line line, h.trans ⟨front, back, hline⟩⟩

theorem seen_layout {fragment : Fragment} {depth : Nat} {d : Diagnostic} (name : String)
    {preamble body forms : List Fragment} (h : Seen fragment depth d) :
    (fragment ∈ preamble → Seen (layout name preamble body forms) depth d) ∧
      (fragment ∈ body ∨ fragment ∈ forms →
        Seen (layout name preamble body forms) (1 + depth) d) := by
  refine ⟨fun hmem => ?_, fun hmem => ?_⟩
  · exact (h.part hmem).part (by simp)
  · rcases hmem with hmem | hmem <;> exact ((h.part hmem).indented 1).part (by simp)

theorem seen_conceptReport {d : Diagnostic} (h : d ∈ (conceptReport record).diagnostics) :
    ∃ fragment ∈ (conceptReport record).output, Seen fragment 0 d := by
  unfold conceptReport at h ⊢
  split at h
  next => cases h
  next hconcept =>
    rw [if_neg hconcept]
    cases List.mem_singleton.mp h
    exact ⟨_, List.mem_singleton_self _, seen_placeholder _⟩

theorem seen_cycleReport {arranged : Arrangement NodeId} {d : Diagnostic}
    (h : d ∈ (cycleReport doc record arranged).diagnostics) :
    ∃ fragment ∈ (cycleReport doc record arranged).output, Seen fragment 0 d := by
  cases arranged with
  | ordered order => cases h
  | stuck left =>
    obtain ⟨hdiagnostics, houtput⟩ := cycleReport_stuck doc record left
    rw [hdiagnostics] at h
    cases List.mem_singleton.mp h
    rw [houtput]
    exact ⟨_, List.mem_singleton_self _, seen_placeholder _⟩

theorem seen_entry_name {d : Diagnostic} (h : d ∈ (named node).diagnostics) (text : String) :
    Seen (entry node text) 0 d := by
  simp only [named, Generated.diagnostics_bind, Generated.diagnostics_pure, List.append_nil] at h
  have hname : d.placeholder.toList <:+: (attributeName node).toList := by
    rw [attributeName, ← output_nameOf]
    exact (told_nameOf "attribute" node).occurs h
  unfold entry
  split
  · exact (seen_line hname ("get " ++ attributeName node ++ "() \x7b") "get ".toList
      "() \x7b".toList (by simp)).part (by simp)
  · exact seen_line hname _ [] (" = " ++ text).toList (by simp)

theorem seen_entry_text {text : String} {d : Diagnostic}
    (h : d.placeholder.toList <:+: text.toList) : Seen (entry node text) 1 d := by
  unfold entry
  split
  · exact ((seen_line h ("return " ++ text) "return ".toList [] (by simp)).indented 1).part
      (by simp)
  · exact (seen_line h _ (attributeName node ++ " = ").toList [] (by simp)).mono (Nat.zero_le 1)

theorem seen_classField (forest : doc.Forest) {table : OperatorTable} {d : Diagnostic}
    (h : d ∈ (classField doc table (fieldOf node)).diagnostics) :
    Seen (classField doc table (fieldOf node)).output 1 d := by
  obtain ⟨text, refs, htext, heq⟩ := exists_classField forest table node
  rw [fieldOf, heq] at h ⊢
  simp only [Generated.diagnostics_bind, Generated.diagnostics_pure, List.append_nil] at h
  exact seen_entry_text ((told_entryCode htext).occurs h)

theorem seen_formField {object : String} {field : Named} {d : Diagnostic}
    (h : d ∈ (formField object field).diagnostics) : Seen (formField object field).output 1 d := by
  have hinputs (hd : d ∈ (formInputs object field).diagnostics) :
      Seen (formInputs object field).output 0 d := by
    unfold formInputs at hd ⊢
    dsimp only at hd ⊢
    split at hd
    all_goals first
      | cases List.mem_singleton.mp hd
        exact seen_placeholder _
      | cases hd
  simp only [formField, Generated.diagnostics_bind, Generated.diagnostics_pure,
    List.append_nil] at h
  exact ((hinputs h).indented 1).part (by simp)

theorem seen_layout_name {d : Diagnostic} (h : d ∈ (nameOf "record" record).diagnostics)
    (preamble body forms : List Fragment) :
    Seen (layout (nameOf "record" record).output preamble body forms) 0 d := by
  have hname := (told_nameOf "record" record).occurs h
  let name := (nameOf "record" record).output
  have hline : Seen (.line ("const " ++ name ++ " = new " ++ Text.capitalized name ++ "()")) 0 d :=
    seen_line hname _ "const ".toList (" = new " ++ Text.capitalized name ++ "()").toList
      (by simp [name])
  have hlines : Seen (.ofLines ["</form>)", "", "const " ++ name ++ " = new " ++
      Text.capitalized name ++ "()", "", "createRoot(document.getElementById(\"root\"))"]) 0 d :=
    hline.part (by simp)
  exact hlines.part (by simp [name])

theorem seen_attributeName (forest : doc.Forest) {ids : List NodeId} {table : OperatorTable}
    {d : Diagnostic} (hnode : node ∈ nodesAt doc ids) (h : d ∈ (named node).diagnostics) :
    ∃ fragment ∈ (nodesAt doc ((arrangement doc ids).orGiven ids)).map fun node =>
      (classField doc table (fieldOf node)).output, Seen fragment 0 d := by
  have hperm := (orGiven_perm doc ids).filterMap doc.get?
  refine ⟨_, List.mem_map_of_mem (hperm.mem_iff.mpr hnode), ?_⟩
  obtain ⟨text, -, -, heq⟩ := exists_classField forest table node
  rw [fieldOf, heq]
  exact seen_entry_name h text.output

theorem seen_fragment (forest : doc.Forest) {key : NodeId} (hrecord : doc.get? key = some record)
    {table : OperatorTable} {d : Diagnostic} (h : d ∈ (fragment doc table record).diagnostics)
    (hne : d ≠ notAnObject record) : Seen (fragment doc table record).output 2 d := by
  rw [fragment_eq forest hrecord] at h ⊢
  simp only [Generated.diagnostics_bind, Generated.diagnostics_pure, Generated.output_bind,
    Generated.output_pure, Generated.diagnostics_forEach, Generated.output_forEach, List.append_nil,
    List.mem_append, List.mem_flatMap] at h ⊢
  rcases h with h | h | h | ⟨node, hnode, h⟩ | h | ⟨node, hnode, h⟩ | ⟨node, hnode, h⟩
  · obtain ⟨report, hreport, hseen⟩ := seen_conceptReport h
    exact ((seen_layout _ hseen).1 hreport).mono (by omega)
  · exact (seen_layout_name h _ _ _).mono (by omega)
  · rw [attributesOf, diagnostics_attributesAmong] at h
    exact absurd (List.eq_of_mem_replicate h) hne
  · obtain ⟨entry, hentry, hseen⟩ := seen_attributeName forest hnode h
    exact ((seen_layout _ hseen).2 (.inl (List.mem_append_right _ hentry))).mono (by omega)
  · obtain ⟨report, hreport, hseen⟩ := seen_cycleReport h
    exact ((seen_layout _ hseen).2 (.inl (List.mem_append_left _ hreport))).mono (by omega)
  · refine (seen_layout _ (seen_classField forest h)).2 (.inl (List.mem_append_right _ ?_))
    exact List.mem_map_of_mem hnode
  · exact (seen_layout _ (seen_formField h)).2 (.inr (List.mem_map_of_mem hnode))

@[simp] theorem getLast?_placeholder (d : Diagnostic) : d.placeholder.toList.getLast? = some '/' := by
  have hend : d.placeholder.toList =
      ("/* [GENERATION PROBLEM] " ++ d.message).toList ++ " */".toList := String.toList_append
  rw [hend, List.getLast?_append_of_ne_nil _ (by decide)]
  rfl

/-- The placeholder of every problem stands in the code of a record, moved in by some levels, unless
the problem is an element of the record that is no node. There is such a problem exactly if there
is such an element. -/
theorem placeholder_in_output {doc : Document} (hdoc : doc.Reachable) {key : NodeId} {record : Node}
    (hrecord : doc.get? key = some record) (options : Options) :
    let generated := generateRecord doc record options
    (∀ d ∈ generated.diagnostics, d ≠ notAnObject record → ∃ level : UInt64, level ≤ 2 ∧
      Fragment.continued (level * options.indentWidth).toNat d.placeholder.toList <:+:
        generated.output.toList) ∧
      (notAnObject record ∈ generated.diagnostics ↔
        ∃ item ∈ attributeItems record, item.asNode? = none) := by
  have forest : doc.Forest := hdoc.wellFormed.toForest
  intro generated
  constructor
  · intro d hd hne
    have hfragment : d ∈ (fragment doc options.operators record).diagnostics := by
      simpa only [generated, generateRecord, Generated.diagnostics_bind, Generated.diagnostics_pure,
        List.append_nil] using hd
    obtain ⟨level, hlevel, text, hline, htold⟩ := seen_fragment forest hrecord hfragment hne
    refine ⟨level, UInt64.le_iff_toNat_le.mpr hlevel, hline.print_occurs options.indentWidth htold ?_⟩
    rw [getLast?_placeholder]
    decide
  · have hfilter := filter_notAnObject forest hrecord options
    have hmem : notAnObject record ∈ generated.diagnostics ↔ notAnObject record ∈
        List.replicate ((attributeItems record).countP fun item => item.asNode?.isNone)
          (notAnObject record) := by
      rw [← hfilter, List.mem_filter]
      simp [generated, notAnObject]
    rw [hmem, List.mem_replicate]
    simp [List.countP_eq_zero]

theorem placeholder_in_output_twoLines :
    let doc := List.foldl Document.after (.new "r" "Record Type") [
      .create "a" "Attribute" (.ofList [("name", .text "price"), ("type", .text "free\ntext")]),
      .assign "r" "attributes" (some (.list [.node "a"]))]
    let generated := generateRecord doc doc.rootNode {}
    let problem : Diagnostic :=
      ⟨.unhandledType, some "a", "type \"free\ntext\" has no form input"⟩
    doc.Reachable ∧ doc.get? "r" = some doc.rootNode ∧ problem ∈ generated.diagnostics ∧
      problem ≠ notAnObject doc.rootNode ∧ ∃ level : UInt64, level ≤ 2 ∧
        Fragment.continued (level * 4).toNat problem.placeholder.toList <:+: generated.output.toList := by
  intro doc generated problem
  have hdoc : doc.Reachable := by
    simp only [doc, List.foldl_cons, List.foldl_nil]
    iterate 2 refine .edited _ ?_ ?_
    · exact .new "r" "Record Type"
    all_goals trivial
  have hproblem : problem ∈ generated.diagnostics := by decide +kernel
  have hne : problem ≠ notAnObject doc.rootNode := by decide +kernel
  have hrecord : doc.get? "r" = some doc.rootNode := rfl
  exact ⟨hdoc, hrecord, hproblem, hne,
    (placeholder_in_output hdoc hrecord {}).1 problem hproblem hne⟩

/-- A text among the attributes of a record is a problem that the code does not tell of. -/
theorem placeholder_not_in_output :
    let doc := (Document.new "r" "Record Type").after
      (.assign "r" "attributes" (some (.list [.text "price"])))
    let generated := generateRecord doc doc.rootNode {}
    doc.Reachable ∧ doc.get? "r" = some doc.rootNode ∧
      ∃ d ∈ generated.diagnostics, ∀ blanks,
        ¬Fragment.continued blanks d.placeholder.toList <:+: generated.output.toList := by
  intro doc generated
  have hdoc : doc.Reachable := .edited _ (.new "r" "Record Type") trivial
  have hrecord : doc.get? "r" = some doc.rootNode := rfl
  have hproblem : notAnObject doc.rootNode ∈ generated.diagnostics := by decide +kernel
  have hletter : 'S' ∈ (notAnObject doc.rootNode).placeholder.toList := by decide +kernel
  have hconcept : preamble doc.rootNode = [] := rfl
  have hids : attributeIds doc.rootNode = [] := rfl
  have hname : codeText "record" doc.rootNode = comment "record's name is undefined" := rfl
  have harranged : arrangement doc [] = .ordered [] := by
    simp [arrangement, Arrangement.of, Arrangement.extend]
  have houtput := output_generateRecord hdoc.wellFormed.toForest hrecord {}
  simp only [hconcept, hids, hname, harranged, Arrangement.orGiven, nodesAt, List.filterMap_nil,
    List.map_nil, List.append_nil, List.flatMap_nil, cycleReport, Generated.output_pure] at houtput
  have hplain : 'S' ∉ (comment "record's name is undefined").toList ∧
      'S' ∉ (Text.capitalized (comment "record's name is undefined")).toList := by
    decide +kernel
  have habsent : 'S' ∉ generated.output.toList := by
    rw [houtput]
    apply Fragment.not_mem_intercalate (by decide)
    simp only [moduleLines, List.forall_mem_append, List.forall_mem_cons]
    simp [Fragment.indentLine, hplain]
  refine ⟨hdoc, hrecord, notAnObject doc.rootNode, hproblem, fun blanks hoccurs => ?_⟩
  exact habsent (hoccurs.subset (Fragment.subset_continued blanks _ hletter))

end RecordModule

end RecordForms
