import RecordForms.Proofs.Categories
import RecordForms.Proofs.Words

/-! Which names in code are identifiers. Words begin with letters or numbers, and case mappings keep
each of these kinds: they may add characters behind the first, but only letters and marks. So a name
begins with a character of the kind with which the first word of the display name begins. -/
namespace RecordForms

namespace Text

def isNamePart (c : Char) : Bool := isLetter c || isNumber c || isMark c

def namePartBits : Nat := letterChars.bits ||| numberChars.bits ||| markChars.bits

theorem isNamePart_eq : isNamePart = fun c => namePartBits.testBit c.toNat := by
  funext c
  simp only [isNamePart, isLetter, isNumber, isMark, CharSet.contains_eq, namePartBits,
    Nat.testBit_or]

def opensWith (set : CharSet) (text : List Char) : Bool :=
  text.head?.any set.contains && text.tail.all isNamePart

/-- A letter, and letters, numbers and marks behind it. -/
def isIdentifier (name : String) : Bool := opensWith letterChars name.toList

section Opening

variable {set : CharSet} {text rest : List Char} {c : Char}

@[simp] theorem opensWith_cons :
    opensWith set (c :: text) = true ↔ set.contains c = true ∧ ∀ d ∈ text, isNamePart d = true := by
  simp [opensWith]

theorem exists_cons_of_opensWith (h : opensWith set text = true) :
    ∃ c rest, text = c :: rest ∧ set.contains c = true ∧ ∀ d ∈ rest, isNamePart d = true := by
  cases text with
  | nil => contradiction
  | cons c rest => exact ⟨c, rest, rfl, opensWith_cons.mp h⟩

theorem opensWith_append (h : opensWith set text = true) (hrest : ∀ d ∈ rest, isNamePart d = true) :
    opensWith set (text ++ rest) = true := by
  obtain ⟨c, more, rfl, hc, hmore⟩ := exists_cons_of_opensWith h
  exact opensWith_cons.mpr ⟨hc, List.forall_mem_append.mpr ⟨hmore, hrest⟩⟩

end Opening

def CaseRun.keeps (set : CharSet) (run : CaseRun) : Bool :=
  (List.range ((run.last - run.first) / run.step + 1)).all fun k =>
    let code := run.first + k * run.step
    !set.bits.testBit code || set.bits.testBit (Char.ofNat (code + run.shift).toNat).toNat

theorem CaseRun.contains_image {set : CharSet} {run : CaseRun} (h : run.keeps set = true) {c : Char}
    (hcovers : run.covers c.toNat = true) (hc : set.contains c = true) :
    set.contains (Char.ofNat (c.toNat + run.shift).toNat) = true := by
  simp only [covers, Bool.and_eq_true, decide_eq_true_eq, beq_iff_eq] at hcovers
  obtain ⟨⟨hfirst, hlast⟩, hstep⟩ := hcovers
  have hplace : run.first + (c.toNat - run.first) / run.step * run.step = c.toNat := by
    rw [Nat.div_mul_cancel (Nat.dvd_of_mod_eq_zero hstep)]
    omega
  have hle : (c.toNat - run.first) / run.step ≤ (run.last - run.first) / run.step :=
    Nat.div_le_div_right (by omega)
  have hkept := List.all_eq_true.mp h _ (List.mem_range.mpr (Nat.lt_succ_of_le hle))
  rw [CharSet.contains_eq] at hc ⊢
  dsimp only at hkept hc ⊢
  rwa [hplace, hc, Bool.not_true, Bool.false_or] at hkept

/-- The characters of the set have images that begin in the set and go on as names do. -/
def CaseMapping.keeps (mapping : CaseMapping) (set : CharSet) : Bool :=
  (mapping.expansions.all fun e =>
    let image := e.2.map Char.ofNat
    !set.bits.testBit (Char.ofNat e.1).toNat ||
      image.head?.any (fun c => set.bits.testBit c.toNat) &&
        image.tail.all fun c => namePartBits.testBit c.toNat) &&
    mapping.runs.all (CaseRun.keeps set)

theorem CaseMapping.opensWith_image {mapping : CaseMapping} {set : CharSet}
    (h : mapping.keeps set = true) {c : Char} (hc : set.contains c = true) :
    opensWith set (mapping.image c) = true := by
  rw [keeps, Bool.and_eq_true, List.all_eq_true, List.all_eq_true] at h
  obtain ⟨hexpansions, hruns⟩ := h
  unfold image
  split
  next codes hcodes =>
    obtain ⟨front, back, heq, -⟩ := List.lookup_eq_some_iff.mp hcodes
    have hentry := hexpansions (c.toNat, codes) (by simp [heq])
    rw [CharSet.contains_eq] at hc
    dsimp only at hentry hc
    rw [Char.ofNat_toNat, hc, Bool.not_true, Bool.false_or] at hentry
    rwa [opensWith, isNamePart_eq, CharSet.contains_eq]
  next =>
    split
    next run hrun =>
      have hkeeps := hruns run (List.mem_of_find?_eq_some hrun)
      have hcovers := List.find?_some hrun
      exact opensWith_cons.mpr ⟨CaseRun.contains_image hkeeps hcovers hc, by simp⟩
    next => exact opensWith_cons.mpr ⟨hc, by simp⟩

/-- A kind of characters that lower and upper case do not lead out of. -/
structure CaseStable (set : CharSet) : Prop where
  part : ∀ {c}, set.contains c = true → isNamePart c = true
  keeps_lower : lowerCase.keeps set = true
  keeps_upper : upperCase.keeps set = true
  sigma : set.contains 'Σ' = true → set.contains 'σ' = true ∧ set.contains 'ς' = true

theorem caseStable_letterChars : CaseStable letterChars where
  part h := by simp [isNamePart, isLetter, h]
  keeps_lower := by decide +kernel
  keeps_upper := by decide +kernel
  sigma _ := by decide +kernel

theorem caseStable_numberChars : CaseStable numberChars where
  part h := by simp [isNamePart, isNumber, h]
  keeps_lower := by decide +kernel
  keeps_upper := by decide +kernel
  sigma h := absurd h (by decide +kernel)

theorem exists_caseStable {c : Char} (h : isWordChar c = true) :
    ∃ set, CaseStable set ∧ set.contains c = true := by
  rcases isLetter_or_isNumber_of_isWordChar h with hletter | hnumber
  · exact ⟨letterChars, caseStable_letterChars, hletter⟩
  · exact ⟨numberChars, caseStable_numberChars, hnumber⟩

section Words

variable {set : CharSet} {c : Char} {cs word : List Char}

theorem CaseStable.all_isNamePart (stable : CaseStable set) (h : opensWith set cs = true) :
    ∀ d ∈ cs, isNamePart d = true := by
  obtain ⟨c, rest, rfl, hc, hrest⟩ := exists_cons_of_opensWith h
  exact List.forall_mem_cons.mpr ⟨stable.part hc, hrest⟩

theorem CaseStable.opensWith_lowerChar (stable : CaseStable set) (hc : set.contains c = true)
    (before after : List Char) :
    opensWith set (if c = 'Σ' then [lowerSigma before after] else lowerCase.image c) = true := by
  split
  next hsigma =>
    obtain ⟨hmiddle, hfinal⟩ := stable.sigma (hsigma ▸ hc)
    refine opensWith_cons.mpr ⟨?_, by simp⟩
    rw [lowerSigma]
    split
    · exact hfinal
    · exact hmiddle
  next => exact CaseMapping.opensWith_image stable.keeps_lower hc

theorem isNamePart_lowerAfter (h : ∀ d ∈ cs, isWordChar d = true) (before : List Char) :
    ∀ d ∈ lowerAfter before cs, isNamePart d = true := by
  induction cs generalizing before with
  | nil => simp [lowerAfter]
  | cons c cs ih =>
    rw [List.forall_mem_cons] at h
    obtain ⟨set, stable, hc⟩ := exists_caseStable h.1
    rw [lowerAfter, List.forall_mem_append]
    exact ⟨stable.all_isNamePart (stable.opensWith_lowerChar hc before cs), ih h.2 _⟩

theorem CaseStable.opensWith_lower (stable : CaseStable set) (hc : set.contains c = true)
    (hcs : ∀ d ∈ cs, isWordChar d = true) : opensWith set (lower (c :: cs)) = true := by
  rw [lower, lowerAfter]
  exact opensWith_append (stable.opensWith_lowerChar hc [] cs) (isNamePart_lowerAfter hcs [c])

theorem CaseStable.opensWith_capitalize (stable : CaseStable set) (h : opensWith set cs = true) :
    opensWith set (capitalize cs) = true := by
  obtain ⟨c, rest, rfl, hc, hrest⟩ := exists_cons_of_opensWith h
  exact opensWith_append (CaseMapping.opensWith_image stable.keeps_upper hc) hrest

theorem isNamePart_capitalize_lower (h : ∀ d ∈ word, isWordChar d = true) :
    ∀ d ∈ capitalize (lower word), isNamePart d = true := by
  cases word with
  | nil => simp [lower, lowerAfter, capitalize]
  | cons c cs =>
    rw [List.forall_mem_cons] at h
    obtain ⟨set, stable, hc⟩ := exists_caseStable h.1
    exact stable.all_isNamePart (stable.opensWith_capitalize (stable.opensWith_lower hc h.2))

theorem words_cons_of_not (h : isWordChar c = false) (cs : List Char) :
    words (c :: cs) = words cs := by
  rw [words, List.splitOnP_cons_eq_if_modifyHead, h]
  simp [words]

theorem words_cons_of_isWordChar (h : isWordChar c = true) (cs : List Char) :
    ∃ word rest, words (c :: cs) = (c :: word) :: rest := by
  rw [words, List.splitOnP_cons_eq_if_modifyHead, h]
  cases hsplit : cs.splitOnP fun d => !isWordChar d with
  | nil => exact absurd hsplit (List.splitOnP_ne_nil _ _)
  | cons first more => exact ⟨first, _, by simp; rfl⟩

theorem words_eq_nil (h : cs.find? isWordChar = none) : words cs = [] := by
  induction cs with
  | nil => simp [words]
  | cons c cs ih =>
    rw [List.find?_eq_none, List.forall_mem_cons, Bool.not_eq_true] at h
    rw [words_cons_of_not h.1]
    exact ih (List.find?_eq_none.mpr h.2)

theorem exists_words_eq (h : cs.find? isWordChar = some c) :
    ∃ word rest, words cs = (c :: word) :: rest := by
  induction cs with
  | nil => contradiction
  | cons d cs ih =>
    cases hd : isWordChar d with
    | true =>
      rw [List.find?_cons_of_pos hd] at h
      obtain rfl := Option.some.inj h
      exact words_cons_of_isWordChar hd cs
    | false =>
      rw [List.find?_cons_of_neg (by simp [hd])] at h
      rw [words_cons_of_not hd]
      exact ih h

theorem CaseStable.opensWith_camelCase (stable : CaseStable set) {text : String}
    (hfind : text.toList.find? isWordChar = some c) (hc : set.contains c = true) :
    opensWith set (camelCase text).toList = true := by
  obtain ⟨word, rest, hwords⟩ := exists_words_eq hfind
  have hall : ∀ word ∈ words text.toList, ∀ d ∈ word, isWordChar d = true :=
    fun word hword => isWordChar_of_mem_words hword
  rw [hwords, List.forall_mem_cons, List.forall_mem_cons] at hall
  rw [camelCase, String.toList_ofList, hwords, joinWords]
  refine opensWith_append (stable.opensWith_lower hc hall.1.2) fun d hd => ?_
  obtain ⟨other, hother, hd⟩ := List.mem_flatMap.mp hd
  exact isNamePart_capitalize_lower (hall.2 other hother) d hd

theorem isEmpty_camelCase (text : String) :
    (camelCase text).isEmpty = (text.toList.find? isWordChar).isNone := by
  cases hfind : text.toList.find? isWordChar with
  | none =>
    rw [camelCase, words_eq_nil hfind]
    rfl
  | some c =>
    obtain ⟨set, stable, hc⟩ := exists_caseStable (List.find?_some hfind)
    obtain ⟨d, rest, hname, -⟩ := exists_cons_of_opensWith (stable.opensWith_camelCase hfind hc)
    refine Bool.eq_false_iff.mpr fun hempty => ?_
    rw [String.isEmpty_iff.mp hempty] at hname
    contradiction

end Words

end Text

namespace Node

open Text

def firstWordChar? (node : Node) : Option Char :=
  (node.getText? Property.name).bind fun text => text.toList.find? isWordChar

theorem codeName?_eq_none_iff (node : Node) :
    node.codeName? = none ↔ node.firstWordChar? = none := by
  cases htext : node.getText? Property.name with
  | none => simp [codeName?, firstWordChar?, htext]
  | some text =>
    simp only [codeName?, firstWordChar?, htext, Option.map_some, Option.bind_some,
      Option.filter_some, isEmpty_camelCase]
    cases text.toList.find? isWordChar <;> simp

theorem exists_text_of_codeName? {node : Node} {name : String} (h : node.codeName? = some name) :
    ∃ text first, text.toList.find? isWordChar = some first ∧ name = camelCase text ∧
      node.firstWordChar? = some first := by
  obtain ⟨hname, hne⟩ := Option.filter_eq_some_iff.mp h
  obtain ⟨text, htext, rfl⟩ := Option.map_eq_some_iff.mp hname
  rw [isEmpty_camelCase, Bool.not_eq_true', Option.isNone_eq_false_iff,
    Option.isSome_iff_exists] at hne
  obtain ⟨first, hfirst⟩ := hne
  exact ⟨text, first, hfirst, rfl, by rw [firstWordChar?, htext, Option.bind_some, hfirst]⟩

/-- A node has a name in code if its display name has a letter or a number. Such a name is not empty
and has letters, numbers and marks in it only. It is an identifier if the first letter or number of
the display name is a letter; if it is a number, the name begins with a number and is none. -/
theorem codeName?_isIdentifier_iff (node : Node) :
    (node.codeName? = none ↔ node.firstWordChar? = none) ∧
      ∀ name, node.codeName? = some name →
        name ≠ "" ∧ (∀ c ∈ name.toList, isNamePart c = true) ∧
        ∃ first, node.firstWordChar? = some first ∧
          (isIdentifier name = true ↔ isLetter first = true) ∧
          (isIdentifier name = false ↔ isNumber first = true) := by
  refine ⟨codeName?_eq_none_iff node, fun name h => ?_⟩
  obtain ⟨text, first, hfind, rfl, hfirst⟩ := exists_text_of_codeName? h
  have hopens {set : CharSet} (stable : CaseStable set) (hset : set.contains first = true) :
      opensWith set (camelCase text).toList = true :=
    stable.opensWith_camelCase hfind hset
  have hne : camelCase text ≠ "" := by
    intro hempty
    rw [← String.isEmpty_iff, isEmpty_camelCase, hfind] at hempty
    contradiction
  obtain ⟨set, stable, hset⟩ := exists_caseStable (List.find?_some hfind)
  refine ⟨hne, stable.all_isNamePart (hopens stable hset), first, hfirst, ?_⟩
  rcases isLetter_or_isNumber_of_isWordChar (List.find?_some hfind) with hletter | hnumber
  · have hidentifier : isIdentifier (camelCase text) = true :=
      hopens caseStable_letterChars hletter
    have hnot : isNumber first ≠ true := fun hnumber => by
      simp [not_isLetter_of_isNumber hnumber] at hletter
    simp [hidentifier, hletter, hnot]
  · -- the name begins with a number as well, and no number is a letter
    obtain ⟨c, rest, hname, hc, -⟩ :=
      exists_cons_of_opensWith (hopens caseStable_numberChars hnumber)
    have hidentifier : isIdentifier (camelCase text) = false := by
      have hletter : letterChars.contains c = false := not_isLetter_of_isNumber hc
      simp [isIdentifier, hname, opensWith, hletter]
    simp [hidentifier, hnumber, not_isLetter_of_isNumber hnumber]

/-- Case mappings that add marks: a capital i with a dot at the start, and a j with a caron. -/
theorem codeName?_isIdentifier_iff_marks :
    let node : Node := ⟨"a", "Attribute", .ofList [("name", .text "(İ) ǰ 2")]⟩
    node.codeName? = some "i̇J̌2" ∧ node.firstWordChar? = some 'İ' ∧ isLetter 'İ' = true ∧
      isIdentifier "i̇J̌2" = true := by
  intro node
  have hname : node.codeName? = some "i̇J̌2" := by decide +kernel
  have hfirst : node.firstWordChar? = some 'İ' := by decide +kernel
  have hletter : isLetter 'İ' = true := by decide +kernel
  obtain ⟨-, -, first, hsome, hiff, -⟩ := (codeName?_isIdentifier_iff node).2 _ hname
  obtain rfl := Option.some.inj (hfirst.symm.trans hsome)
  exact ⟨hname, hfirst, hletter, hiff.mpr hletter⟩

theorem codeName?_not_isIdentifier :
    let node : Node := ⟨"a", "Attribute", .ofList [("name", .text "2 days")]⟩
    ¬(node.codeName? = none ∨ ∃ name, node.codeName? = some name ∧ isIdentifier name = true) := by
  intro node
  have hname : node.codeName? = some "2Days" := by decide +kernel
  have hnot : isIdentifier "2Days" = false := by decide +kernel
  simp [hname, hnot]

end Node

end RecordForms
