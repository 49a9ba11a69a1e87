import RecordForms.Number.Decimal

/-! The shape of written numbers: runs of digits, at most one point with digits on both sides of
it, and no zero in front of other digits. -/
namespace RecordForms

def AllDigits (cs : List Char) : Prop := ∀ c ∈ cs, c.isDigit = true

theorem AllDigits.append {xs ys : List Char} (hx : AllDigits xs) (hy : AllDigits ys) :
    AllDigits (xs ++ ys) :=
  fun c h => (List.mem_append.mp h).elim (hx c) (hy c)

theorem allDigits_decimalDigits (n : Nat) : AllDigits (decimalDigits n) :=
  fun _ h => Nat.isDigit_of_mem_toDigits (by decide) (by decide) h

theorem decimalDigits_ne_nil (n : Nat) : decimalDigits n ≠ [] := Nat.toDigits_ne_nil

theorem allDigits_zeros (n : Nat) : AllDigits (zeros n) := by
  intro c h
  rw [List.eq_of_mem_replicate h]
  decide

/-- Digits of which a zero in front is the only one. -/
structure IsWhole (cs : List Char) : Prop where
  ne_nil : cs ≠ []
  digits : AllDigits cs
  alone : ∀ rest, cs = '0' :: rest → rest = []

theorem isWhole_zero : IsWhole ['0'] :=
  ⟨by decide, allDigits_zeros 1, fun rest h => (List.cons.inj h).2.symm⟩

theorem digitChar_ne_zero {n : Nat} (hpos : 0 < n) (hlt : n < 10) : Nat.digitChar n ≠ '0' := by
  intro h
  have := Nat.toNat_digitChar_of_lt_ten hlt
  rw [h] at this
  have : 48 = 48 + n := this
  omega

theorem decimalDigits_ne_cons_zero {n : Nat} (hpos : 0 < n) (rest : List Char) :
    decimalDigits n ≠ '0' :: rest := by
  induction n using Nat.strongRecOn generalizing rest with
  | ind n ih =>
    unfold decimalDigits
    by_cases hlt : n < 10
    · rw [Nat.toDigits_of_lt_base hlt]
      intro h
      exact digitChar_ne_zero hpos hlt (List.cons.inj h).1
    · rw [Nat.toDigits_of_base_le (by decide) (by omega)]
      -- the first digit is that of the quotient, which has digits of its own
      cases hq : Nat.toDigits 10 (n / 10) with
      | nil => exact absurd hq Nat.toDigits_ne_nil
      | cons c cs =>
        intro h
        refine ih (n / 10) (by omega) (by omega) cs (hq.trans ?_)
        rw [(List.cons.inj h).1]

theorem isWhole_decimalDigits (n : Nat) : IsWhole (decimalDigits n) := by
  rcases Nat.eq_zero_or_pos n with rfl | hpos
  · exact isWhole_zero
  · exact ⟨decimalDigits_ne_nil n, allDigits_decimalDigits n,
      fun rest h => absurd h (decimalDigits_ne_cons_zero hpos rest)⟩

theorem IsWhole.take {cs : List Char} (h : IsWhole cs) {n : Nat} (hn : 0 < n) :
    IsWhole (cs.take n) := by
  cases cs with
  | nil => exact absurd rfl h.ne_nil
  | cons c cs =>
    obtain ⟨n, rfl⟩ := Nat.exists_eq_succ_of_ne_zero (Nat.ne_of_gt hn)
    rw [List.take_succ_cons]
    refine ⟨by simp, fun d hd => h.digits d (List.mem_of_mem_take (i := n + 1) hd), fun rest heq => ?_⟩
    obtain ⟨rfl, rfl⟩ := List.cons.inj heq
    rw [h.alone cs rfl, List.take_nil]

theorem pointed_zero {digits : List Char} (h : digits ≠ []) : pointed digits 0 = digits := by
  have hlength : 0 < digits.length := List.length_pos_iff.mpr h
  have hzeros : zeros (0 + 1 - digits.length) = [] := by
    rw [show 0 + 1 - digits.length = 0 by omega]
    rfl
  simp [pointed, hzeros]

theorem pointed_eq {digits : List Char} (h : IsWhole digits) {places : Nat} (hplaces : 0 < places) :
    ∃ whole fraction, pointed digits places = whole ++ '.' :: fraction ∧
      IsWhole whole ∧ fraction ≠ [] ∧ AllDigits fraction := by
  have hall : AllDigits (zeros (places + 1 - digits.length) ++ digits) :=
    (allDigits_zeros _).append h.digits
  have hlength : (zeros (places + 1 - digits.length) ++ digits).length =
      max (places + 1) digits.length := by
    simp only [List.length_append, zeros, List.length_replicate]
    omega
  refine ⟨_, _, by rw [pointed, if_neg (by omega)], ?_, ?_, fun c hc => hall c (List.mem_of_mem_drop hc)⟩
  · by_cases hlong : places < digits.length
    · rw [show places + 1 - digits.length = 0 by omega]
      exact h.take (by simp [zeros]; omega)
    · -- A number below one begins with a single zero of the padding.
      rw [hlength, show max (places + 1) digits.length - places = 1 by omega,
        show places + 1 - digits.length = (places - digits.length) + 1 by omega]
      exact isWhole_zero
  · rw [← List.length_pos_iff, List.length_drop]
    omega

theorem Scientific.isWhole_positional {s : Scientific} (hpos : 0 < s.coefficient)
    (hexponent : ¬s.exponent < 0) : IsWhole s.positional := by
  rw [positional, if_neg hexponent]
  refine ⟨List.append_ne_nil_of_left_ne_nil (decimalDigits_ne_nil _) _,
    (allDigits_decimalDigits _).append (allDigits_zeros _), fun rest h => ?_⟩
  cases hdigits : decimalDigits s.coefficient with
  | nil => exact absurd hdigits (decimalDigits_ne_nil _)
  | cons c cs =>
    rw [hdigits] at h
    rw [(List.cons.inj h).1] at hdigits
    exact absurd hdigits (decimalDigits_ne_cons_zero hpos cs)

inductive IsReal : List Char → Prop where
  | pointed {whole fraction : List Char} (hwhole : IsWhole whole) (hne : fraction ≠ [])
      (hdigits : AllDigits fraction) : IsReal (whole ++ '.' :: fraction)
  | exponent {whole : List Char} {exponent : Int} (hwhole : IsWhole whole) :
      IsReal (whole ++ Scientific.exponentText exponent)
  | pointedExponent {whole fraction : List Char} {exponent : Int} (hwhole : IsWhole whole)
      (hne : fraction ≠ []) (hdigits : AllDigits fraction) :
      IsReal ((whole ++ '.' :: fraction) ++ Scientific.exponentText exponent)

theorem IsWhole.head {cs : List Char} (h : IsWhole cs) : cs.head?.any Char.isDigit = true := by
  cases cs with
  | nil => exact absurd rfl h.ne_nil
  | cons c cs => exact h.digits c List.mem_cons_self

theorem IsWhole.head_append {cs : List Char} (h : IsWhole cs) (rest : List Char) :
    (cs ++ rest).head?.any Char.isDigit = true := by
  cases cs with
  | nil => exact absurd rfl h.ne_nil
  | cons c cs => exact h.head

theorem IsReal.head {cs : List Char} (h : IsReal cs) : cs.head?.any Char.isDigit = true := by
  cases h with
  | pointed hwhole _ _ => exact hwhole.head_append _
  | exponent hwhole => exact hwhole.head_append _
  | pointedExponent hwhole _ _ =>
    rw [List.append_assoc]
    exact hwhole.head_append _

theorem Scientific.isReal_withExponent (s : Scientific) : IsReal s.withExponent := by
  have hwhole := isWhole_decimalDigits s.coefficient
  rw [withExponent]
  rcases Nat.eq_zero_or_pos ((decimalDigits s.coefficient).length - 1) with hzero | hpos
  · rw [hzero, pointed_zero hwhole.ne_nil]
    exact .exponent hwhole
  · obtain ⟨whole, fraction, heq, hw, hne, hdigits⟩ := pointed_eq hwhole hpos
    rw [heq]
    exact .pointedExponent hw hne hdigits

namespace Binary64

variable {x : Binary64}

theorem significand_pos (h : x.isZero = false) : 0 < x.significand := by
  unfold significand
  split
  next hfield =>
    have : x.fractionField ≠ 0 := by simpa [isZero, hfield] using h
    omega
  next => exact Nat.add_pos_left (Nat.pow_pos (by decide)) _

theorem lowerEnd_pos (h : x.isZero = false) : 0 < x.lowerEnd.num := by
  have := significand_pos h
  refine Nat.mul_pos ?_ (Nat.pow_pos (by decide))
  split <;> omega

theorem pos_of_accepts (h : x.isZero = false) {coefficient : Nat} {exponent : Int}
    (haccepts : x.accepts coefficient exponent = true) : 0 < coefficient := by
  have hlow : 0 < (x.lowerEnd.perPowerOfTen exponent).num := by
    have hend := lowerEnd_pos h
    generalize x.lowerEnd = low at hend ⊢
    unfold Ratio.perPowerOfTen
    split
    · exact Nat.mul_pos hend (Nat.pow_pos (by decide))
    · exact hend
  rcases Nat.eq_zero_or_pos coefficient with rfl | hpos
  · unfold accepts at haccepts
    generalize x.lowerEnd.perPowerOfTen exponent = low at haccepts hlow
    generalize x.upperEnd.perPowerOfTen exponent = high at haccepts
    simp only [Nat.zero_mul, Nat.le_zero_eq, Nat.not_lt_zero, Nat.ne_of_gt hlow] at haccepts
    simp at haccepts
  · exact hpos

theorem coefficient_pos_of_onGrid? (h : x.isZero = false) {tie : Tie} {exponent : Int}
    {s : Scientific} (hs : x.onGrid? tie exponent = some s) : 0 < s.coefficient := by
  simp only [onGrid?] at hs
  split at hs
  next hbelow _ =>
    have := pos_of_accepts h hbelow
    split at hs
    · rw [← Option.some.inj hs]; exact this
    · split at hs
      · rw [← Option.some.inj hs]; exact Nat.succ_pos _
      · rw [← Option.some.inj hs]
        cases tie <;> simp only [Tie.choose] <;> omega
  next hbelow _ => rw [← Option.some.inj hs]; exact pos_of_accepts h hbelow
  next => rw [← Option.some.inj hs]; exact Nat.succ_pos _
  next => contradiction

theorem coefficient_pos_dropZeros (n : Nat) {s : Scientific} (h : 0 < s.coefficient) :
    0 < (dropZeros n s).coefficient := by
  induction n generalizing s with
  | zero => exact h
  | succ n ih =>
    unfold dropZeros
    split
    · exact ih (show 0 < s.coefficient / 10 by omega)
    · exact h

/-- The digits of a number that is not zero; the second case is that of no digits found. -/
theorem coefficient_pos_shortest (h : x.isZero = false) (tie : Tie) :
    0 < (x.shortest tie).coefficient ∨ x.shortest tie = ⟨0, 17⟩ := by
  rw [shortest]
  cases hfound : (List.range 17).findSome? fun (n : Nat) => x.onGrid? tie (x.decimalPlace - (n + 1)) with
  | none => exact .inr (by decide)
  | some s =>
    obtain ⟨n, -, hs⟩ := List.exists_of_findSome?_eq_some hfound
    exact .inl (coefficient_pos_dropZeros _ (coefficient_pos_of_onGrid? h hs))

def storedMagnitude (x : Binary64) : List Char :=
  if x.isZero then ['0', '.', '0'] else storedDigits (x.shortest .toEven)

theorem stored_eq (x : Binary64) : x.stored = x.signText ++ x.storedMagnitude := by
  unfold stored storedMagnitude
  split <;> rfl

theorem isReal_storedMagnitude (x : Binary64) : IsReal x.storedMagnitude := by
  unfold storedMagnitude
  split
  · exact .pointed isWhole_zero (by decide) (allDigits_zeros 1)
  next hzero =>
    have hcases := coefficient_pos_shortest (by simpa using hzero) .toEven
    generalize x.shortest .toEven = s at hcases
    unfold storedDigits
    split
    next hpositional =>
      split
      next hexponent =>
        obtain ⟨whole, fraction, heq, hw, hne, hdigits⟩ :=
          pointed_eq (isWhole_decimalDigits s.coefficient) (show 0 < s.exponent.natAbs by omega)
        rw [Scientific.positional, if_pos hexponent, heq]
        exact .pointed hw hne hdigits
      next hexponent =>
        rcases hcases with hpos | rfl
        · exact .pointed (Scientific.isWhole_positional hpos hexponent) (by decide)
            (allDigits_zeros 1)
        · exact absurd hpositional (by decide)
    next => exact s.isReal_withExponent

end Binary64

end RecordForms
