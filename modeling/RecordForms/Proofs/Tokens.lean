import RecordForms.Json.Printer
import RecordForms.Json.Token
import RecordForms.Proofs.Figures

/-! Scanning gives back the strings that are printed, and reads a printed number up to its end,
whatever follows it. -/
namespace RecordForms.Json

def Ends (rest : List Char) : Prop :=
  ∀ c ∈ rest.head?, c.isDigit = false ∧ c ≠ '.' ∧ isExponentMark c = false

theorem ends_nil : Ends [] := by simp [Ends]

theorem ends_cons {c : Char} (h : c.isDigit = false ∧ c ≠ '.' ∧ isExponentMark c = false)
    (rest : List Char) : Ends (c :: rest) := by
  simpa [Ends] using h

theorem Ends.not_digit {rest : List Char} (h : Ends rest) : rest.head?.any Char.isDigit = false := by
  cases rest with
  | nil => rfl
  | cons c rest => exact (h c rfl).1

theorem takeWhile_digits {ds rest : List Char} (hds : AllDigits ds)
    (hrest : rest.head?.any Char.isDigit = false) : (ds ++ rest).takeWhile Char.isDigit = ds := by
  rw [List.takeWhile_append_of_pos hds]
  cases rest with
  | nil => simp
  | cons c rest =>
    have hc : ¬c.isDigit = true := by simpa using hrest
    rw [List.takeWhile_cons_of_neg hc, List.append_nil]

theorem dropWhile_digits {ds rest : List Char} (hds : AllDigits ds)
    (hrest : rest.head?.any Char.isDigit = false) : (ds ++ rest).dropWhile Char.isDigit = rest := by
  rw [List.dropWhile_append_of_pos hds]
  cases rest with
  | nil => rfl
  | cons c rest =>
    have hc : ¬c.isDigit = true := by simpa using hrest
    rw [List.dropWhile_cons_of_neg hc]

theorem scanNumber_whole {whole rest : List Char} (h : IsWhole whole)
    (hrest : rest.head?.any Char.isDigit = false) (negative : Bool) :
    scanNumber negative (whole ++ rest) = scanAfterWhole negative whole rest := by
  cases whole with
  | nil => exact absurd rfl h.ne_nil
  | cons c cs =>
    have hcs : AllDigits cs := fun d hd => h.digits d (List.mem_cons_of_mem c hd)
    by_cases hc : c = '0'
    · subst hc
      rw [h.alone cs rfl]
      simp [scanNumber, hrest]
    · rw [List.cons_append, scanNumber.eq_3 _ _ _ hc, if_pos (h.digits c List.mem_cons_self),
        takeWhile_digits hcs hrest, dropWhile_digits hcs hrest]

theorem scanFraction_digits {fraction rest : List Char} (hne : fraction ≠ [])
    (hdigits : AllDigits fraction) (hrest : rest.head?.any Char.isDigit = false) (negative : Bool)
    (whole : List Char) :
    scanFraction negative whole (fraction ++ rest) =
      scanAfterFraction ⟨negative, whole, fraction⟩ rest := by
  simp [scanFraction, takeWhile_digits hdigits hrest, dropWhile_digits hdigits hrest, hne]

theorem scanExponent_text {exponent : Int} {rest : List Char}
    (hrest : rest.head?.any Char.isDigit = false) (digits : Numeral.Digits) :
    scanExponent digits ((Scientific.exponentText exponent).tail ++ rest) =
      realWithExponent digits (exponent < 0) (decimalDigits exponent.natAbs) rest := by
  have hall := allDigits_decimalDigits exponent.natAbs
  cases hplaces : decimalDigits exponent.natAbs with
  | nil => exact absurd hplaces (decimalDigits_ne_nil _)
  | cons c cs =>
    rw [hplaces] at hall
    have hc : c.isDigit = true := hall c List.mem_cons_self
    have hcs : AllDigits cs := fun d hd => hall d (List.mem_cons_of_mem c hd)
    by_cases hdown : exponent < 0 <;>
      simp [scanExponent, Scientific.exponentText, hplaces, hdown, hc, takeWhile_digits hcs hrest,
        dropWhile_digits hcs hrest]

/-- Scanning reads all of the number `cs` and nothing behind it. -/
def ScansTo (negative : Bool) (cs : List Char) (result : Option Numeral) : Prop :=
  ∀ rest, Ends rest →
    (scanNumber negative (cs ++ rest)).toOption = result.map fun n => (n, rest)

theorem scansTo_whole {whole : List Char} (h : IsWhole whole) (negative : Bool) :
    ScansTo negative whole (Numeral.Digits.whole? ⟨negative, whole, []⟩) := by
  intro rest hrest
  rw [scanNumber_whole h hrest.not_digit, scanAfterWhole]
  cases rest with
  | nil => cases Numeral.Digits.whole? ⟨negative, whole, []⟩ <;> rfl
  | cons c rest =>
    obtain ⟨-, hpoint, hmark⟩ := hrest c rfl
    cases Numeral.Digits.whole? ⟨negative, whole, []⟩ <;> simp [hpoint, hmark, Except.toOption]

theorem scanNumber_pointed {whole fraction rest : List Char} (h : IsWhole whole)
    (hne : fraction ≠ []) (hdigits : AllDigits fraction)
    (hrest : rest.head?.any Char.isDigit = false) (negative : Bool) :
    scanNumber negative ((whole ++ '.' :: fraction) ++ rest) =
      scanAfterFraction ⟨negative, whole, fraction⟩ rest := by
  have hpoint : scanAfterWhole negative whole ('.' :: fraction ++ rest) =
      scanFraction negative whole (fraction ++ rest) := rfl
  rw [List.append_assoc, scanNumber_whole h rfl, hpoint, scanFraction_digits hne hdigits hrest]

theorem scansTo_pointed {whole fraction : List Char} (h : IsWhole whole) (hne : fraction ≠ [])
    (hdigits : AllDigits fraction) (negative : Bool) :
    ScansTo negative (whole ++ '.' :: fraction)
      (Numeral.Digits.real? ⟨negative, whole, fraction⟩ 0) := by
  intro rest hrest
  rw [scanNumber_pointed h hne hdigits hrest.not_digit, scanAfterFraction]
  cases rest with
  | nil => cases Numeral.Digits.real? ⟨negative, whole, fraction⟩ 0 <;> rfl
  | cons c rest =>
    obtain ⟨-, -, hmark⟩ := hrest c rfl
    cases Numeral.Digits.real? ⟨negative, whole, fraction⟩ 0 <;> simp [hmark, Except.toOption]

def realTimes? (digits : Numeral.Digits) (exponent : Int) : Option Numeral :=
  (realWithExponent digits (exponent < 0) (decimalDigits exponent.natAbs) []).toOption.map Prod.fst

theorem toOption_scanExponent (digits : Numeral.Digits) (exponent : Int) {rest : List Char}
    (hrest : Ends rest) :
    (scanExponent digits ((Scientific.exponentText exponent).tail ++ rest)).toOption =
      (realTimes? digits exponent).map fun n => (n, rest) := by
  rw [scanExponent_text hrest.not_digit, realTimes?]
  unfold realWithExponent
  split
  · split <;> rfl
  · split <;> rfl

theorem scansTo_exponent {whole : List Char} (h : IsWhole whole) (negative : Bool) (exponent : Int) :
    ScansTo negative (whole ++ Scientific.exponentText exponent)
      (realTimes? ⟨negative, whole, []⟩ exponent) := by
  intro rest hrest
  rw [List.append_assoc, scanNumber_whole h rfl]
  exact toOption_scanExponent ⟨negative, whole, []⟩ exponent hrest

theorem scansTo_pointed_exponent {whole fraction : List Char} (h : IsWhole whole)
    (hne : fraction ≠ []) (hdigits : AllDigits fraction) (negative : Bool) (exponent : Int) :
    ScansTo negative ((whole ++ '.' :: fraction) ++ Scientific.exponentText exponent)
      (realTimes? ⟨negative, whole, fraction⟩ exponent) := by
  intro rest hrest
  rw [List.append_assoc, scanNumber_pointed h hne hdigits rfl]
  exact toOption_scanExponent ⟨negative, whole, fraction⟩ exponent hrest

theorem scansTo_of_isReal {cs : List Char} (h : IsReal cs) (negative : Bool) :
    ∃ result, ScansTo negative cs result := by
  cases h with
  | pointed hwhole hne hdigits => exact ⟨_, scansTo_pointed hwhole hne hdigits negative⟩
  | exponent hwhole => exact ⟨_, scansTo_exponent hwhole negative _⟩
  | pointedExponent hwhole hne hdigits =>
    exact ⟨_, scansTo_pointed_exponent hwhole hne hdigits negative _⟩

def scanSigned : List Char → Scan Numeral
  | '-' :: cs => scanNumber true cs
  | cs => scanNumber false cs

theorem scanSigned_append {negative : Bool} {cs : List Char}
    (hdigit : cs.head?.any Char.isDigit = true) (rest : List Char) :
    scanSigned (((if negative then ['-'] else []) ++ cs) ++ rest) =
      scanNumber negative (cs ++ rest) := by
  cases negative with
  | true => rfl
  | false =>
    cases cs with
    | nil => simp at hdigit
    | cons c cs =>
      have hc : c ≠ '-' := by rintro rfl; simp at hdigit
      exact scanSigned.eq_2 _ fun tail h => hc (List.cons.inj h).1

theorem toOption_scanSigned {negative : Bool} {cs : List Char} {result : Option Numeral}
    (hdigit : cs.head?.any Char.isDigit = true) (h : ScansTo negative cs result) {rest : List Char}
    (hrest : Ends rest) :
    (scanSigned (((if negative then ['-'] else []) ++ cs) ++ rest)).toOption =
      result.map fun n => (n, rest) := by
  rw [scanSigned_append hdigit, h rest hrest]

theorem numeralText_eq (n : Numeral) :
    ∃ negative cs result, numeralText n = (if negative then ['-'] else []) ++ cs ∧
      cs.head?.any Char.isDigit = true ∧ ScansTo negative cs result := by
  cases n with
  | whole n =>
    have hwhole := isWhole_decimalDigits n.natAbs
    refine ⟨n < 0, decimalDigits n.natAbs, _, ?_, hwhole.head, scansTo_whole hwhole _⟩
    by_cases hn : n < 0 <;> simp [numeralText, integerText, hn]
  | real x =>
    have hreal := x.isReal_storedMagnitude
    obtain ⟨result, hscans⟩ := scansTo_of_isReal hreal x.isNegative
    exact ⟨x.isNegative, x.storedMagnitude, result, x.stored_eq, hreal.head, hscans⟩

/-- The number that the text of a number is read as. -/
def reread? (n : Numeral) : Option Numeral := (scanSigned (numeralText n)).toOption.map Prod.fst

theorem toOption_scanSigned_numeralText (n : Numeral) {rest : List Char} (hrest : Ends rest) :
    (scanSigned (numeralText n ++ rest)).toOption = (reread? n).map fun m => (m, rest) := by
  obtain ⟨negative, cs, result, heq, hdigit, hscans⟩ := numeralText_eq n
  have halone := toOption_scanSigned hdigit hscans ends_nil
  rw [List.append_nil] at halone
  rw [reread?, heq, halone, toOption_scanSigned hdigit hscans hrest]
  cases result <;> rfl

theorem le_foldl_digits (cs : List Char) (n : Nat) :
    n ≤ cs.foldl (fun n c => n * 10 + digitValue c) n := by
  induction cs generalizing n with
  | nil => exact Nat.le_refl n
  | cons c cs ih =>
    have := ih (n * 10 + digitValue c)
    rw [List.foldl_cons]
    omega

theorem gather_of_lt {cs : List Char} {start : Nat}
    (h : cs.foldl (fun n c => n * 10 + digitValue c) start < twoTo 64) :
    Numeral.gather start cs = (cs.foldl (fun n c => n * 10 + digitValue c) start, []) := by
  induction cs generalizing start with
  | nil => rfl
  | cons c cs ih =>
    rw [List.foldl_cons] at h ⊢
    rw [Numeral.gather, if_pos (Nat.lt_of_le_of_lt (le_foldl_digits _ _) h), ih h]

@[simp] theorem digitsValue_decimalDigits (n : Nat) : digitsValue (decimalDigits n) = n := by
  have h := Nat.ofDigitChars_toDigits (b := 10) (n := n) (by decide) (by decide)
  rw [Nat.ofDigitChars] at h
  simpa only [digitsValue, decimalDigits, digitValue, Nat.mul_comm] using h

theorem gather_decimalDigits {n : Nat} (h : n < twoTo 64) :
    Numeral.gather 0 (decimalDigits n) = (n, []) := by
  have hvalue := digitsValue_decimalDigits n
  rw [digitsValue] at hvalue
  rw [gather_of_lt (by rwa [hvalue]), hvalue]

theorem ofWhole_natAbs {n : Int} (hlow : -twoTo 63 ≤ n) :
    Numeral.ofWhole (decide (n < 0)) n.natAbs = .whole n := by
  unfold Numeral.ofWhole
  by_cases hn : n < 0
  · have hzero : ¬(decide (n.natAbs = 0) || decide (twoTo 63 < n.natAbs)) = true := by
      rw [Bool.or_eq_true, decide_eq_true_iff, decide_eq_true_iff]
      omega
    rw [decide_eq_true hn, if_neg (by decide), if_neg hzero]
    congr 1
    omega
  · rw [decide_eq_false hn, if_pos (by decide)]
    congr 1
    omega

theorem reread?_whole {n : Int} (hlow : -twoTo 63 ≤ n) (hhigh : n < twoTo 63) :
    reread? (.whole n) = some (.whole n) := by
  have hwhole := isWhole_decimalDigits n.natAbs
  have htext : numeralText (.whole n) =
      (if decide (n < 0) then ['-'] else []) ++ decimalDigits n.natAbs := by
    by_cases hn : n < 0 <;> simp [numeralText, integerText, hn]
  have hscan := toOption_scanSigned hwhole.head (scansTo_whole hwhole (decide (n < 0))) ends_nil
  have hfits : n.natAbs ≤ twoTo 63 := by omega
  have hgather := gather_decimalDigits (Nat.lt_of_le_of_lt hfits (by decide))
  rw [List.append_nil] at hscan
  rw [reread?, htext, hscan, Numeral.Digits.whole?, hgather]
  dsimp only
  rw [ofWhole_natAbs hlow]
  rfl

theorem codeUnit?_control {n : Nat} (h : n < 0x20) :
    codeUnit? '0' '0' (Nat.digitChar (n / 16)) (Nat.digitChar (n % 16)) = some n := by
  have hall : ∀ n < 0x20,
      codeUnit? '0' '0' (Nat.digitChar (n / 16)) (Nat.digitChar (n % 16)) = some n := by decide
  exact hall n h

@[simp] theorem scanString_escapeChar (c : Char) (read cs : List Char) :
    scanString read (escapeChar c ++ cs) = scanString (c :: read) cs := by
  unfold escapeChar
  split
  any_goals simp [scanString, simpleEscape?]
  next hquote hbackslash _ _ _ _ _ =>
    split
    next hcontrol =>
      have hunit := codeUnit?_control hcontrol
      have htrailing : isTrailing c.toNat = false := by simp [isTrailing]; omega
      have hleading : isLeading c.toNat = false := by simp [isLeading]; omega
      simp [scanString, hunit, htrailing, hleading, Char.ofNat_toNat]
    next hplain =>
      rw [List.singleton_append, scanString.eq_7, if_neg hplain] <;> grind

@[simp] theorem scanString_escaped (text read rest : List Char) :
    scanString read (text.flatMap escapeChar ++ '"' :: rest) =
      .ok (String.ofList (read.reverse ++ text), rest) := by
  induction text generalizing read with
  | nil => simp [scanString]
  | cons c text ih =>
    rw [List.flatMap_cons, List.append_assoc, scanString_escapeChar, ih, List.reverse_cons,
      List.append_assoc, List.singleton_append]

@[simp] theorem scanToken_stringText (text : String) (rest : List Char) :
    scanToken '"' (text.toList.flatMap escapeChar ++ '"' :: rest) = (.string text, rest) := by
  rw [scanToken, scanString_escaped, tokenOf, List.reverse_nil, List.nil_append,
    String.ofList_toList]

end RecordForms.Json
