import RecordForms.Proofs.Visible

/-! Printing in steps. The lines of a fragment do not depend on where it stands but for the blanks
in front of them, so a part may be printed on its own and the text put where the part was. Blanks are
counted in words of 64 bits, so this needs that no count goes beyond them. -/
namespace RecordForms.Fragment

theorem induction {P : Fragment → Prop} (line : ∀ text, P (.line text))
    (sequence : ∀ parts, (∀ part ∈ parts, P part) → P (.sequence parts))
    (indented : ∀ levels inner, P inner → P (.indented levels inner)) (fragment : Fragment) :
    P fragment :=
  @Fragment.rec P (fun parts => ∀ part ∈ parts, P part) line sequence indented (by simp)
    (fun _ _ hpart hparts => List.forall_mem_cons.mpr ⟨hpart, hparts⟩) fragment

mutual

def depth : Fragment → Nat
  | .line _ => 0
  | .sequence parts => depthOfParts parts
  | .indented levels inner => levels.toNat + depth inner

def depthOfParts : List Fragment → Nat
  | [] => 0
  | part :: parts => max (depth part) (depthOfParts parts)

end

/-- The levels of a fragment, and the blanks in front of its lines, can be counted in words. -/
def Fits (width : UInt64) (fragment : Fragment) : Prop :=
  fragment.depth < UInt64.size ∧ fragment.depth * width.toNat < UInt64.size

instance (width : UInt64) (fragment : Fragment) : Decidable (fragment.Fits width) :=
  inferInstanceAs (Decidable (_ ∧ _))

variable {width level : UInt64} {fragment : Fragment}

theorem depth_le_of_mem {part : Fragment} {parts : List Fragment} (h : part ∈ parts) :
    part.depth ≤ depthOfParts parts := by
  induction parts with
  | nil => cases h
  | cons first parts ih =>
    rw [depthOfParts]
    rcases List.mem_cons.mp h with rfl | h
    · exact Nat.le_max_left _ _
    · exact (ih h).trans (Nat.le_max_right _ _)

theorem Fits.of_depth_le {other : Fragment} (h : other.Fits width)
    (hle : fragment.depth ≤ other.depth) : fragment.Fits width :=
  ⟨hle.trans_lt h.1, (Nat.mul_le_mul_right _ hle).trans_lt h.2⟩

theorem Fits.toNat_add {outer : UInt64}
    (h : (Fragment.indented outer (.indented level fragment)).Fits width) :
    (outer + level).toNat = outer.toNat + level.toNat := by
  have hdepth := h.1
  simp only [depth, UInt64.size] at hdepth
  rw [UInt64.toNat_add]
  exact Nat.mod_eq_of_lt (by omega)

theorem Fits.toNat_mul {levels : UInt64} (h : (Fragment.indented levels fragment).Fits width) :
    (levels * width).toNat = levels.toNat * width.toNat := by
  have hle : levels.toNat * width.toNat ≤ (levels.toNat + fragment.depth) * width.toNat :=
    Nat.mul_le_mul_right _ (Nat.le_add_right _ _)
  rw [UInt64.toNat_mul]
  exact Nat.mod_eq_of_lt (hle.trans_lt h.2)

@[simp] theorem indentLine_indentLine (outer inner : Nat) (line : String) :
    indentLine outer (indentLine inner line) = indentLine (outer + inner) line := by
  by_cases hempty : line = ""
  · subst hempty
    rfl
  · simp [indentLine, hempty, ← String.append_assoc, ← String.ofList_append]

theorem lines_further {outer : UInt64}
    (h : (Fragment.indented outer (.indented level fragment)).Fits width) :
    fragment.lines width (outer + level) =
      (fragment.lines width level).map (indentLine (outer * width).toNat) := by
  induction fragment using Fragment.induction generalizing level with
  | line text =>
    -- words are multiplied only here, and here the products are small enough
    have hboth : (Fragment.indented (outer + level) (.line text)).Fits width :=
      h.of_depth_le (by simp only [depth, h.toNat_add]; omega)
    have hinner : (Fragment.indented level (.line text)).Fits width :=
      h.of_depth_le (Nat.le_add_left _ _)
    have hblanks : ((outer + level) * width).toNat =
        (outer * width).toNat + (level * width).toNat := by
      rw [hboth.toNat_mul, h.toNat_mul, hinner.toNat_mul, h.toNat_add, Nat.add_mul]
    rw [lines, lines, List.map_map, hblanks]
    exact List.map_congr_left fun line _ => (indentLine_indentLine _ _ line).symm
  | sequence parts ih =>
    rw [lines, lines, linesOfParts_eq, linesOfParts_eq, List.map_flatMap]
    refine List.flatMap_congr fun part hpart => ih part hpart (h.of_depth_le ?_)
    have hle := depth_le_of_mem hpart
    simp only [depth]
    omega
  | indented levels inner ih =>
    have hadd : (level + levels).toNat = level.toNat + levels.toNat :=
      Fits.toNat_add (h.of_depth_le (Nat.le_add_left _ _))
    rw [lines, lines, UInt64.add_assoc]
    refine ih (h.of_depth_le ?_)
    simp only [depth, hadd]
    omega

theorem newline_not_mem_lines :
    ∀ line ∈ fragment.lines width level, '\n' ∉ line.toList := by
  induction fragment using Fragment.induction generalizing level with
  | line text =>
    rw [lines, splitLines, List.map_map, List.forall_mem_map]
    intro line hline hmem
    rw [Function.comp_apply, toList_indentLine] at hmem
    have hnewline : '\n' ∉ line := fun h =>
      absurd (Text.not_of_mem_splitOnP line hline '\n' h) (by decide)
    split at hmem
    · cases hmem
    · rcases List.mem_append.mp hmem with hmem | hmem
      · exact absurd (List.eq_of_mem_replicate hmem) (by decide)
      · exact hnewline hmem
  | sequence parts ih =>
    rw [lines, linesOfParts_eq]
    intro line hline
    obtain ⟨part, hpart, hline⟩ := List.mem_flatMap.mp hline
    exact ih part hpart line hline
  | indented levels inner ih =>
    rw [lines]
    exact ih

theorem splitOn_print (h : fragment.lines width 0 ≠ []) :
    (fragment.print width).toList.splitOn '\n' = (fragment.lines width 0).map String.toList := by
  rw [print, String.toList_intercalate]
  exact List.splitOn_intercalate '\n' (List.forall_mem_map.mpr newline_not_mem_lines)
    (List.map_eq_nil_iff.not.mpr h)

theorem HasLine.lines_ne_nil {inner : UInt64} {text : String} (h : fragment.HasLine inner text) :
    fragment.lines width level ≠ [] := by
  have hline : (Fragment.line text).lines width (level + inner) ≠ [] := by
    simp [lines, splitLines, List.splitOn, List.splitOnP_ne_nil]
  exact fun hnil => hline (List.eq_nil_of_infix_nil (hnil ▸ h.lines_occur width level))

theorem toList_print_indented {levels : UInt64}
    (h : (Fragment.indented levels fragment).Fits width) :
    ((Fragment.indented levels fragment).print width).toList =
      ['\n'].intercalate (((fragment.print width).toList.splitOn '\n').map fun line =>
        if line = [] then [] else List.replicate (levels.toNat * width.toNat) ' ' ++ line) := by
  have hfits : (Fragment.indented levels (.indented 0 fragment)).Fits width :=
    h.of_depth_le (by simp [depth])
  have hprint : (Fragment.indented levels fragment).print width =
      "\n".intercalate ((fragment.lines width 0).map (indentLine (levels.toNat * width.toNat))) := by
    rw [← h.toNat_mul, ← lines_further hfits, UInt64.add_zero, print, lines, UInt64.zero_add]
  rw [hprint]
  by_cases hnil : fragment.lines width 0 = []
  -- no lines are printed as one that is empty, and it stays so
  · simp [print, hnil]
  · rw [splitOn_print hnil, String.toList_intercalate, List.map_map, List.map_map]
    refine congrArg ['\n'].intercalate (List.map_congr_left fun line _ => ?_)
    have hline := toList_indentLine (levels.toNat * width.toNat) line.toList
    rwa [String.ofList_toList] at hline

theorem lines_print (h : ∃ inner text, fragment.HasLine inner text)
    (hfits : (Fragment.indented level fragment).Fits width) :
    (Fragment.line (fragment.print width)).lines width level = fragment.lines width level := by
  obtain ⟨inner, text, hline⟩ := h
  have hsplit : splitLines (fragment.print width) = fragment.lines width 0 := by
    rw [splitLines, splitOn_print hline.lines_ne_nil, List.map_map]
    exact (List.map_congr_left fun _ _ => String.ofList_toList).trans (List.map_id _)
  have hzero : (Fragment.indented level (.indented 0 fragment)).Fits width :=
    hfits.of_depth_le (by simp [depth])
  rw [lines, hsplit, ← lines_further hzero, UInt64.add_zero]

inductive Frame where
  | place
  | sequence (before : List Fragment) (inner : Frame) (after : List Fragment)
  | indented (levels : UInt64) (inner : Frame)

def Frame.fill (fragment : Fragment) : Frame → Fragment
  | .place => fragment
  | .sequence before inner after => .sequence (before ++ inner.fill fragment :: after)
  | .indented levels inner => .indented levels (inner.fill fragment)

theorem Frame.lines_fill_congr {other : Fragment}
    (h : ∀ level, (Fragment.indented level fragment).Fits width →
      fragment.lines width level = other.lines width level) (frame : Frame) {level : UInt64}
    (hfits : (Fragment.indented level (frame.fill fragment)).Fits width) :
    (frame.fill fragment).lines width level = (frame.fill other).lines width level := by
  induction frame generalizing level with
  | place => exact h level hfits
  | sequence before inner after ih =>
    have hle : (inner.fill fragment).depth ≤ depthOfParts (before ++ inner.fill fragment :: after) :=
      depth_le_of_mem (by simp)
    have hinner := @ih level (hfits.of_depth_le (Nat.add_le_add_left hle _))
    simp only [fill, lines, linesOfParts_eq, List.flatMap_append, List.flatMap_cons, hinner]
  | indented levels inner ih =>
    have hadd : (level + levels).toNat = level.toNat + levels.toNat := hfits.toNat_add
    simp only [fill, lines]
    refine ih (hfits.of_depth_le ?_)
    simp only [fill, depth, hadd]
    omega

/-- A fragment without lines has an empty print, but in its place an empty line would stand. -/
example :
    let frame := Frame.sequence [.line "x"] .place [.line "y"]
    (Fragment.sequence []).print 2 = "" ∧ (frame.fill (.sequence [])).print 2 = "x\ny" ∧
      (frame.fill (.line "")).print 2 = "x\n\ny" := by
  decide +kernel

end RecordForms.Fragment
