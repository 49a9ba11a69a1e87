import RecordForms.Model.Node
import RecordForms.Proofs.Figures
import RecordForms.Proofs.Grammar

/-! The words of generated formulas. Names in code and written numbers hold no character that
would end a word, so each of them is one token. -/
namespace RecordForms

namespace Text

/-- The code point of the first digit. All signs, parentheses and the blank come before it. -/
def wordStart : Nat := 0x30

theorem wordStart_le_of_isWordChar {c : Char} (h : isWordChar c = true) : wordStart ≤ c.toNat := by
  have hranges : ∀ range ∈ wordChars.ranges, wordStart ≤ range.1 := by decide +kernel
  obtain ⟨range, hrange, hlow, -⟩ := (wordChars.contains_iff c).mp h
  exact Nat.le_trans (hranges range hrange) hlow

theorem not_delimiter {c : Char} (h : wordStart ≤ c.toNat) : Code.isDelimiter c = false := by
  have hall : ∀ d ∈ [' ', '(', ')', '+', '-', '*', '/'], d.toNat < wordStart := by
    simp only [List.forall_mem_cons, List.not_mem_nil, false_imp_iff, implies_true, and_true]
    decide
  rw [Code.isDelimiter, List.contains_eq_mem, decide_eq_false_iff_not]
  intro hmem
  have := hall c hmem
  omega

def CaseRun.staysAbove (run : CaseRun) : Bool :=
  wordStart ≤ run.first + run.shift &&
    (run.last + run.shift < 0xd800 ||
      0xdfff < run.first + run.shift && run.last + run.shift < 0x110000)

def CaseMapping.staysAbove (mapping : CaseMapping) : Bool :=
  (mapping.expansions.all fun e => e.2.all fun code => wordStart ≤ (Char.ofNat code).toNat) &&
    mapping.runs.all CaseRun.staysAbove

theorem toNat_ofNat {n : Nat} (h : n < 0xd800 ∨ 0xdfff < n ∧ n < 0x110000) :
    (Char.ofNat n).toNat = n := by
  have hvalid : n.isValidChar := by
    rcases h with h | h
    · exact .inl h
    · exact .inr h
  rw [Char.ofNat, dif_pos hvalid]
  rfl

theorem CaseMapping.wordStart_le_image {mapping : CaseMapping} (h : mapping.staysAbove = true)
    {c : Char} (hc : wordStart ≤ c.toNat) : ∀ d ∈ mapping.image c, wordStart ≤ d.toNat := by
  rw [staysAbove, Bool.and_eq_true, List.all_eq_true, List.all_eq_true] at h
  obtain ⟨hexpansions, hruns⟩ := h
  unfold image
  split
  next codes hcodes =>
    obtain ⟨front, back, heq, -⟩ := List.lookup_eq_some_iff.mp hcodes
    have hentry := hexpansions (c.toNat, codes) (by simp [heq])
    rw [List.forall_mem_map]
    intro code hcode
    exact of_decide_eq_true (List.all_eq_true.mp hentry code hcode)
  next =>
    split
    next run hrun =>
      have hstays := hruns run (List.mem_of_find?_eq_some hrun)
      have hcovers := List.find?_some hrun
      simp only [CaseRun.staysAbove, CaseRun.covers, Bool.and_eq_true, Bool.or_eq_true,
        decide_eq_true_eq] at hstays hcovers
      rw [List.forall_mem_singleton, toNat_ofNat (by omega)]
      omega
    next =>
      rw [List.forall_mem_singleton]
      exact hc

theorem wordStart_le_lower {cs : List Char} (h : ∀ c ∈ cs, wordStart ≤ c.toNat) :
    ∀ d ∈ lower cs, wordStart ≤ d.toNat := by
  have hmapping : lowerCase.staysAbove = true := by decide +kernel
  suffices hafter : ∀ before, ∀ d ∈ lowerAfter before cs, wordStart ≤ d.toNat from hafter []
  induction cs with
  | nil => simp [lowerAfter]
  | cons c cs ih =>
    rw [List.forall_mem_cons] at h
    intro before
    rw [lowerAfter, List.forall_mem_append]
    refine ⟨?_, ih h.2 _⟩
    split
    · rw [List.forall_mem_singleton, lowerSigma]
      split <;> decide
    · exact CaseMapping.wordStart_le_image hmapping h.1

theorem wordStart_le_capitalize {cs : List Char} (h : ∀ c ∈ cs, wordStart ≤ c.toNat) :
    ∀ d ∈ capitalize cs, wordStart ≤ d.toNat := by
  have hmapping : upperCase.staysAbove = true := by decide +kernel
  cases cs with
  | nil => simp [capitalize]
  | cons c cs =>
    rw [List.forall_mem_cons] at h
    rw [capitalize, List.forall_mem_append]
    exact ⟨CaseMapping.wordStart_le_image hmapping h.1, h.2⟩

theorem not_of_mem_splitOnP {p : Char → Bool} {cs : List Char} :
    ∀ word ∈ cs.splitOnP p, ∀ c ∈ word, p c = false := by
  induction cs with
  | nil => simp
  | cons c cs ih =>
    rw [List.splitOnP_cons_eq_if_modifyHead]
    split
    · simpa using ih
    next hc =>
      cases hsplit : cs.splitOnP p with
      | nil => simp
      | cons first rest =>
        rw [hsplit, List.forall_mem_cons] at ih
        rw [List.modifyHead_cons, List.forall_mem_cons, List.forall_mem_cons]
        exact ⟨⟨by simpa using hc, ih.1⟩, ih.2⟩

theorem isWordChar_of_mem_words {cs word : List Char} (h : word ∈ words cs) :
    ∀ c ∈ word, isWordChar c = true := by
  intro c hc
  have := not_of_mem_splitOnP word (List.mem_filter.mp h).1 c hc
  simpa using this

theorem wordStart_le_camelCase (name : String) :
    ∀ c ∈ (camelCase name).toList, wordStart ≤ c.toNat := by
  have hwords : ∀ word ∈ words name.toList, ∀ c ∈ word, wordStart ≤ c.toNat :=
    fun word hword c hc => wordStart_le_of_isWordChar (isWordChar_of_mem_words hword c hc)
  rw [camelCase, String.toList_ofList]
  cases hsplit : words name.toList with
  | nil => simp [joinWords]
  | cons first rest =>
    rw [hsplit, List.forall_mem_cons] at hwords
    rw [joinWords, List.forall_mem_append]
    refine ⟨wordStart_le_lower hwords.1, fun c hc => ?_⟩
    obtain ⟨word, hword, hc⟩ := List.mem_flatMap.mp hc
    exact wordStart_le_capitalize (wordStart_le_lower (hwords.2 word hword)) c hc

end Text

theorem Node.not_delimiter_of_codeName? {node : Node} {name : String}
    (h : node.codeName? = some name) : ∀ c ∈ name.toList, Code.isDelimiter c = false := by
  obtain ⟨hname, -⟩ := Option.filter_eq_some_iff.mp h
  obtain ⟨text, -, rfl⟩ := Option.map_eq_some_iff.mp hname
  exact fun c hc => Text.not_delimiter (Text.wordStart_le_camelCase text c hc)

theorem AllDigits.not_delimiter {cs : List Char} (h : AllDigits cs) :
    ∀ c ∈ cs, Code.isDelimiter c = false :=
  fun c hc => Text.not_delimiter (Char.isDigit_iff_toNat.mp (h c hc)).1

namespace Code

inductive IsUnsigned : List Char → Prop where
  | whole {digits : List Char} (hne : digits ≠ []) (hdigits : AllDigits digits) : IsUnsigned digits
  | pointed {whole fraction : List Char} (hwhole : IsWhole whole) (hne : fraction ≠ [])
      (hdigits : AllDigits fraction) : IsUnsigned (whole ++ '.' :: fraction)

theorem IsUnsigned.not_delimiter {cs : List Char} (h : IsUnsigned cs) :
    ∀ c ∈ cs, isDelimiter c = false := by
  cases h with
  | whole _ hdigits => exact hdigits.not_delimiter
  | pointed hwhole _ hdigits =>
    rw [List.forall_mem_append, List.forall_mem_cons]
    exact ⟨hwhole.digits.not_delimiter, rfl, hdigits.not_delimiter⟩

theorem IsUnsigned.isLiteral {cs : List Char} (h : IsUnsigned cs) : isLiteral cs = true := by
  unfold Code.isLiteral
  cases h with
  | whole hne hdigits => simpa [List.dropWhile_eq_nil_iff.mpr hdigits] using hne
  | @pointed whole fraction hwhole hne hdigits =>
    have hdrop : (whole ++ '.' :: fraction).dropWhile Char.isDigit = '.' :: fraction := by
      rw [List.dropWhile_append_of_pos hwhole.digits]
      rfl
    have hall : fraction.all Char.isDigit = true := List.all_eq_true.mpr hdigits
    have hhead := hwhole.head_append ('.' :: fraction)
    rw [hdrop]
    dsimp only
    rw [hhead, hall]
    simpa using hne

theorem IsUnsigned.reads {cs : List Char} (h : IsUnsigned cs) : Reads .primary cs (.literal cs) :=
  reads_literal h.not_delimiter h.isLiteral

def numeral : List Char → Formula
  | '-' :: digits => .negated (.literal digits)
  | digits => .literal digits

/-- A number as it is written: digits, with a point or a minus sign or both. -/
def IsNumeral (text : List Char) : Prop :=
  ∃ (negative : Bool) (digits : List Char),
    text = (if negative then ['-'] else []) ++ digits ∧ IsUnsigned digits

theorem IsUnsigned.ne_minus {cs : List Char} (h : IsUnsigned cs) (rest : List Char) :
    cs ≠ '-' :: rest := by
  rintro rfl
  exact absurd (h.not_delimiter '-' List.mem_cons_self) (by decide)

theorem IsNumeral.reads {text : List Char} (h : IsNumeral text) : Reads .unary text (numeral text) := by
  obtain ⟨negative, digits, rfl, hdigits⟩ := h
  cases negative with
  | true =>
    apply (hdigits.reads.loosen (by decide)).negated
    intro hsign
    obtain ⟨rest, hrest⟩ := List.head?_eq_some_iff.mp hsign
    exact hdigits.ne_minus rest hrest
  | false =>
    rw [if_neg (by decide), List.nil_append, numeral.eq_2 _ hdigits.ne_minus]
    exact hdigits.reads.loosen (by decide)

theorem IsNumeral.reads_primary {text : List Char} (h : IsNumeral text)
    (hsign : text.head? ≠ some '-') : Reads .primary text (numeral text) := by
  obtain ⟨negative, digits, rfl, hdigits⟩ := h
  cases negative with
  | true => exact absurd rfl hsign
  | false =>
    rw [if_neg (by decide), List.nil_append, numeral.eq_2 _ hdigits.ne_minus]
    exact hdigits.reads

theorem isUnsigned_decimalDigits (n : Nat) : IsUnsigned (decimalDigits n) :=
  .whole (decimalDigits_ne_nil n) (allDigits_decimalDigits n)

theorem isUnsigned_pointed (n places : Nat) : IsUnsigned (pointed (decimalDigits n) places) := by
  rcases Nat.eq_zero_or_pos places with rfl | hplaces
  · rw [pointed_zero (decimalDigits_ne_nil n)]
    exact isUnsigned_decimalDigits n
  · obtain ⟨whole, fraction, heq, hwhole, hne, hdigits⟩ :=
      pointed_eq (isWhole_decimalDigits n) hplaces
    rw [heq]
    exact .pointed hwhole hne hdigits

theorem isNumeral_integerText (n : Int) : IsNumeral (integerText n) := by
  refine ⟨n < 0, decimalDigits n.natAbs, ?_, isUnsigned_decimalDigits _⟩
  by_cases hn : n < 0 <;> simp [integerText, hn]

theorem isNumeral_decimal (d : Decimal) : IsNumeral d.text :=
  ⟨d.negative, _, rfl, isUnsigned_pointed _ _⟩

theorem isNumeral_display {x : Binary64} (h : x.isFinite = true) : IsNumeral x.display := by
  have hnan : x.isNaN = false := by
    unfold Binary64.isFinite at h
    unfold Binary64.isNaN
    simp_all
  refine ⟨x.isNegative, if x.isZero then ['0'] else (x.shortest .up).positional, ?_, ?_⟩
  · unfold Binary64.display
    rw [hnan, h]
    cases x.isZero <;> rfl
  · split
    · exact isUnsigned_decimalDigits 0
    · unfold Scientific.positional
      split
      · exact isUnsigned_pointed _ _
      · exact .whole (List.append_ne_nil_of_left_ne_nil (decimalDigits_ne_nil _) _)
          ((allDigits_decimalDigits _).append (allDigits_zeros _))

end Code

end RecordForms
