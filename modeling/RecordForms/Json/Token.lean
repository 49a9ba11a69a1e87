import RecordForms.Json.Fault
import RecordForms.Json.Numeral

/-! The tokens of a JSON text. Scanning goes on to the first malformed token; whether that token
or its place is what is wrong is for the reader to say. -/
namespace RecordForms.Json

inductive Token where
  | openList
  | closeList
  | openObject
  | closeObject
  | comma
  | colon
  | scalar (value : Json)
  | string (text : String)
  | malformed (fault : Fault)
  | stray
  | endOfText

abbrev Scan (α : Type) := Except Fault (α × List Char)

def scanWord : List Char → List Char → Except Fault (List Char)
  | [], rest => .ok rest
  | _ :: _, [] => .error (.before .endInValue [])
  | letter :: letters, c :: rest =>
    if c = letter then scanWord letters rest else .error (.behind .noWord (c :: rest))

def realWithExponent (digits : Numeral.Digits) (down : Bool) (places rest : List Char) :
    Scan Numeral :=
  match Numeral.exponent 0 places with
  | .ok n =>
    match digits.real? (if down then -n else n) with
    | some value => .ok (value, rest)
    | none => .error (.before .outOfRange rest)
  | .error behind =>
    if digits.gathered.1 = 0 || down then
      .ok (.real (.signed digits.negative (.ofNat 0)), rest)
    else .error (.before .outOfRange (behind ++ rest))

def scanExponent (digits : Numeral.Digits) (cs : List Char) : Scan Numeral :=
  let down := cs.head? = some '-'
  let unsigned := if down || cs.head? = some '+' then cs.tail else cs
  match unsigned with
  | [] => .error (.before .endInValue [])
  | c :: rest =>
    if c.isDigit then
      realWithExponent digits down (c :: rest.takeWhile Char.isDigit) (rest.dropWhile Char.isDigit)
    else .error (.behind .badNumber (c :: rest))

def isExponentMark (c : Char) : Bool := c == 'e' || c == 'E'

def scanAfterFraction (digits : Numeral.Digits) (cs : List Char) : Scan Numeral :=
  if cs.head?.any isExponentMark then scanExponent digits cs.tail
  else
    match digits.real? 0 with
    | some value => .ok (value, cs)
    | none => .error (.before .outOfRange cs)

def scanFraction (negative : Bool) (whole cs : List Char) : Scan Numeral :=
  let fraction := cs.takeWhile Char.isDigit
  let rest := cs.dropWhile Char.isDigit
  if fraction.isEmpty then
    .error (if rest.isEmpty then .before .endInValue [] else .behind .badNumber rest)
  else scanAfterFraction ⟨negative, whole, fraction⟩ rest

def scanAfterWhole (negative : Bool) (whole cs : List Char) : Scan Numeral :=
  if cs.head? = some '.' then scanFraction negative whole cs.tail
  else if cs.head?.any isExponentMark then scanExponent ⟨negative, whole, []⟩ cs.tail
  else
    match Numeral.Digits.whole? ⟨negative, whole, []⟩ with
    | some value => .ok (value, cs)
    | none => .error (.before .outOfRange cs)

/-- A number without its sign. A zero in front stands alone. -/
def scanNumber (negative : Bool) : List Char → Scan Numeral
  | [] => .error (.before .endInValue [])
  | '0' :: rest =>
    if rest.head?.any Char.isDigit then .error (.behind .badNumber rest)
    else scanAfterWhole negative ['0'] rest
  | c :: rest =>
    if c.isDigit then
      scanAfterWhole negative (c :: rest.takeWhile Char.isDigit) (rest.dropWhile Char.isDigit)
    else .error (.behind .badNumber (c :: rest))

def hexValue? (c : Char) : Option Nat :=
  if c.isDigit then some (digitValue c)
  else if 'a' ≤ c && c ≤ 'f' then some (c.toNat - 'a'.toNat + 10)
  else if 'A' ≤ c && c ≤ 'F' then some (c.toNat - 'A'.toNat + 10)
  else none

def codeUnit? (a b c d : Char) : Option Nat := do
  return (((← hexValue? a) * 16 + (← hexValue? b)) * 16 + (← hexValue? c)) * 16 + (← hexValue? d)

def isLeading (unit : Nat) : Bool := 0xd800 ≤ unit && unit < 0xdc00

def isTrailing (unit : Nat) : Bool := 0xdc00 ≤ unit && unit < 0xe000

def surrogatePair (leading trailing : Nat) : Char :=
  Char.ofNat (0x10000 + (leading - 0xd800) * 0x400 + (trailing - 0xdc00))

/-- A code unit takes four bytes of the text, whatever they are. -/
def codeUnitFault (cs : List Char) : Fault :=
  if byteSize cs < 4 then ⟨.endInString, 0⟩ else ⟨.badEscape, byteSize cs - 4⟩

def surrogateFault : List Char → Fault
  | [] => ⟨.endInString, 0⟩
  | ['\\'] => ⟨.endInString, 0⟩
  | '\\' :: 'u' :: rest => codeUnitFault rest
  | '\\' :: rest => .behind .endOfSurrogates rest
  | rest => .behind .endOfSurrogates rest

def simpleEscape? : Char → Option Char
  | '"' => some '"'
  | '\\' => some '\\'
  | '/' => some '/'
  | 'b' => some '\x08'
  | 'f' => some '\x0c'
  | 'n' => some '\n'
  | 'r' => some '\r'
  | 't' => some '\t'
  | _ => none

/-- The characters of a string up to its closing quote; those already read are held in reverse. -/
def scanString (read : List Char) : List Char → Scan String
  | [] => .error (.before .endInString [])
  | '"' :: rest => .ok (String.ofList read.reverse, rest)
  | ['\\'] => .error (.before .endInString [])
  | '\\' :: 'u' :: a :: b :: c :: d :: rest =>
    match codeUnit? a b c d with
    | none => .error (codeUnitFault (a :: b :: c :: d :: rest))
    | some unit =>
      if isTrailing unit then .error (.before .loneSurrogate rest)
      else if isLeading unit then
        match rest with
        | '\\' :: 'u' :: a' :: b' :: c' :: d' :: rest' =>
          match codeUnit? a' b' c' d' with
          | none => .error (codeUnitFault (a' :: b' :: c' :: d' :: rest'))
          | some second =>
            if isTrailing second then scanString (surrogatePair unit second :: read) rest'
            else .error (.before .loneSurrogate rest')
        | _ => .error (surrogateFault rest)
      else scanString (Char.ofNat unit :: read) rest
  | '\\' :: 'u' :: rest => .error (codeUnitFault rest)
  | '\\' :: c :: rest =>
    match simpleEscape? c with
    | some escaped => scanString (escaped :: read) rest
    | none => .error (.behind .badEscape (c :: rest))
  | c :: rest =>
    if c.toNat < 0x20 then .error (.behind .controlCharacter (c :: rest))
    else scanString (c :: read) rest

def tokenOf {α : Type} (make : α → Token) : Scan α → Token × List Char
  | .ok (a, rest) => (make a, rest)
  | .error fault => (.malformed fault, [])

def wordToken (value : Json) : Except Fault (List Char) → Token × List Char
  | .ok rest => (.scalar value, rest)
  | .error fault => (.malformed fault, [])

def scanToken (c : Char) (rest : List Char) : Token × List Char :=
  match c with
  | '[' => (.openList, rest)
  | ']' => (.closeList, rest)
  | '\x7b' => (.openObject, rest)
  | '\x7d' => (.closeObject, rest)
  | ',' => (.comma, rest)
  | ':' => (.colon, rest)
  | '"' => tokenOf .string (scanString [] rest)
  | '-' => tokenOf (fun n => .scalar (.number n)) (scanNumber true rest)
  | 't' => wordToken (.bool true) (scanWord ['r', 'u', 'e'] rest)
  | 'f' => wordToken (.bool false) (scanWord ['a', 'l', 's', 'e'] rest)
  | 'n' => wordToken .null (scanWord ['u', 'l', 'l'] rest)
  | c =>
    if c.isDigit then tokenOf (fun n => .scalar (.number n)) (scanNumber false (c :: rest))
    else (.stray, rest)

def isSpace (c : Char) : Bool := c == ' ' || c == '\n' || c == '\t' || c == '\r'

theorem length_scanWord {word cs rest : List Char} (h : scanWord word cs = .ok rest) :
    rest.length ≤ cs.length := by
  induction word generalizing cs with
  | nil => simp only [scanWord, Except.ok.injEq] at h; simp [h]
  | cons letter letters ih =>
    cases cs with
    | nil => simp [scanWord] at h
    | cons c cs =>
      simp only [scanWord] at h
      split at h
      · exact Nat.le_succ_of_le (ih h)
      · simp at h

theorem length_dropDigits (cs : List Char) : (cs.dropWhile Char.isDigit).length ≤ cs.length :=
  (List.dropWhile_sublist _).length_le

theorem length_realWithExponent {digits : Numeral.Digits} {down : Bool} {places cs rest : List Char}
    {n : Numeral} (h : realWithExponent digits down places cs = .ok (n, rest)) :
    rest.length ≤ cs.length := by
  unfold realWithExponent at h
  split at h <;> split at h <;> simp_all

theorem length_scanExponent {digits : Numeral.Digits} {cs rest : List Char} {n : Numeral}
    (h : scanExponent digits cs = .ok (n, rest)) : rest.length ≤ cs.length := by
  unfold scanExponent at h
  dsimp only at h
  split at h
  · simp at h
  next c tail hcs =>
    split at h
    · have hrest := length_realWithExponent h
      have hdrop := length_dropDigits tail
      have htail : (c :: tail).length ≤ cs.length := by
        rw [← hcs]; split <;> simp
      simp only [List.length_cons] at htail
      omega
    · simp at h

theorem length_scanAfterFraction {digits : Numeral.Digits} {cs rest : List Char} {n : Numeral}
    (h : scanAfterFraction digits cs = .ok (n, rest)) : rest.length ≤ cs.length := by
  unfold scanAfterFraction at h
  split at h
  · have := length_scanExponent h
    simp only [List.length_tail] at this
    omega
  · split at h <;> simp_all

theorem length_scanFraction {negative : Bool} {whole cs rest : List Char} {n : Numeral}
    (h : scanFraction negative whole cs = .ok (n, rest)) : rest.length ≤ cs.length := by
  unfold scanFraction at h
  dsimp only at h
  split at h
  · simp at h
  · exact Nat.le_trans (length_scanAfterFraction h) (length_dropDigits cs)

theorem length_scanAfterWhole {negative : Bool} {whole cs rest : List Char} {n : Numeral}
    (h : scanAfterWhole negative whole cs = .ok (n, rest)) : rest.length ≤ cs.length := by
  unfold scanAfterWhole at h
  split at h
  · have := length_scanFraction h
    simp only [List.length_tail] at this
    omega
  · split at h
    · have := length_scanExponent h
      simp only [List.length_tail] at this
      omega
    · split at h <;> simp_all

theorem length_scanNumber {negative : Bool} {c : Char} {cs rest : List Char} {n : Numeral}
    (h : scanNumber negative (c :: cs) = .ok (n, rest)) : rest.length ≤ cs.length := by
  unfold scanNumber at h
  split at h
  · contradiction
  next tail hcs =>
    obtain ⟨rfl, rfl⟩ := List.cons.inj hcs
    split at h
    · simp at h
    · exact length_scanAfterWhole h
  next c' tail _ hcs =>
    obtain ⟨rfl, rfl⟩ := List.cons.inj hcs
    split at h
    · exact Nat.le_trans (length_scanAfterWhole h) (length_dropDigits cs)
    · simp at h

theorem length_scanString {read cs rest : List Char} {text : String}
    (h : scanString read cs = .ok (text, rest)) : rest.length ≤ cs.length := by
  fun_induction scanString read cs generalizing text rest with
  | case1 => simp at h
  | case2 => simp_all
  | case3 => simp at h
  | case4 => simp_all
  | case5 => simp_all
  | case6 => simp_all
  | case7 =>
    rename_i ih
    have := ih h
    simp only [List.length_cons]
    omega
  | case8 => simp_all
  | case9 => simp_all
  | case10 =>
    rename_i ih
    have := ih h
    simp only [List.length_cons]
    omega
  | case11 => simp_all
  | case12 =>
    rename_i ih
    have := ih h
    simp only [List.length_cons]
    omega
  | case13 => simp_all
  | case14 => simp_all
  | case15 =>
    rename_i ih
    have := ih h
    simp only [List.length_cons]
    omega

theorem length_tokenOf {α : Type} {make : α → Token} {scan : Scan α} {n : Nat}
    (h : ∀ a rest, scan = .ok (a, rest) → rest.length ≤ n) : (tokenOf make scan).2.length ≤ n := by
  cases scan with
  | error fault => simp [tokenOf]
  | ok found => exact h found.1 found.2 rfl

theorem length_wordToken {value : Json} {word cs : List Char} :
    (wordToken value (scanWord word cs)).2.length ≤ cs.length := by
  cases h : scanWord word cs with
  | error fault => simp [wordToken]
  | ok rest => exact length_scanWord h

theorem length_scanToken (c : Char) (cs : List Char) : (scanToken c cs).2.length ≤ cs.length := by
  unfold scanToken
  split
  any_goals exact Nat.le_refl _
  · exact length_tokenOf fun _ _ h => length_scanString h
  · refine length_tokenOf fun _ _ h => ?_
    cases cs with
    | nil => simp [scanNumber] at h
    | cons c cs => exact Nat.le_succ_of_le (length_scanNumber h)
  any_goals exact length_wordToken
  · split
    · exact length_tokenOf fun _ _ h => length_scanNumber h
    · exact Nat.le_refl _

structure Lexeme where
  token : Token
  source : List Char

def lexemes : List Char → List Lexeme
  | [] => [⟨.endOfText, []⟩]
  | c :: cs =>
    if isSpace c then lexemes cs
    else ⟨(scanToken c cs).1, c :: cs⟩ :: lexemes (scanToken c cs).2
termination_by cs => cs.length
decreasing_by
  · simp
  · exact Nat.lt_succ_of_le (length_scanToken c cs)

end RecordForms.Json
