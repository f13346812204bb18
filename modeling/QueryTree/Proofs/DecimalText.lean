import QueryTree.Decimal

/-!
# Decimals are read back from their text

The text of a decimal has all its places, so it is read with the same coefficient and
the same scale.  Only a zero loses its sign.
-/

namespace QueryTree

namespace Digits

theorem toNat_append (first second : List Digit) :
    toNat (first ++ second) = second.foldl (fun value digit => 10 * value + digit.val)
      (toNat first) := by
  rw [toNat, List.foldl_append]
  rfl

theorem toNat_replicate_zero (count : Nat) : toNat (List.replicate count Digit.zero) = 0 := by
  induction count with
  | zero => rfl
  | succ count ih =>
      rw [List.replicate_succ', toNat_append_singleton, ih]
      rfl

end Digits

namespace Decimal

theorem toNat_padded (length n : Nat) : Digits.toNat (padded length n) = n := by
  rw [padded, Digits.toNat_append, Digits.toNat_replicate_zero]
  exact Digits.toNat_ofNat n

theorem length_le_padded (length n : Nat) : length <= (padded length n).length := by
  rw [padded, List.length_append, List.length_replicate]
  omega

/-!
# Reading digits
-/

namespace Progress

/-- The progress after some more digits. -/
def pushAll (p : Progress) (digits : List Digit) : Progress :=
  digits.foldl push p

theorem pushAll_cons (p : Progress) (digit : Digit) (digits : List Digit) :
    p.pushAll (digit :: digits) = (p.push digit).pushAll digits :=
  rfl

theorem coefficient_pushAll (p : Progress) (digits : List Digit) :
    (p.pushAll digits).coefficient =
      digits.foldl (fun value digit => 10 * value + digit.val) p.coefficient := by
  induction digits generalizing p with
  | nil => rfl
  | cons digit rest ih => exact ih (p.push digit)

theorem coefficient_le_pushAll (p : Progress) (digits : List Digit) :
    p.coefficient <= (p.pushAll digits).coefficient := by
  induction digits generalizing p with
  | nil => exact Nat.le_refl _
  | cons digit rest ih =>
      have hpush : p.coefficient <= (p.push digit).coefficient := by
        rw [push]
        simp only
        omega
      exact Nat.le_trans hpush (ih (p.push digit))

theorem point_pushAll (p : Progress) (digits : List Digit) :
    (p.pushAll digits).point = p.point := by
  induction digits generalizing p with
  | nil => rfl
  | cons digit rest ih => exact ih (p.push digit)

theorem any_pushAll {p : Progress} {digits : List Digit} (hany : p.any = true ∨ digits ≠ []) :
    (p.pushAll digits).any = true := by
  induction digits generalizing p with
  | nil => exact hany.resolve_right fun hne => hne rfl
  | cons digit rest ih => exact ih (Or.inl rfl)

theorem scale_pushAll (p : Progress) (digits : List Digit) :
    (p.pushAll digits).scale = if p.point then p.scale + digits.length else p.scale := by
  induction digits generalizing p with
  | nil => cases p.point <;> rfl
  | cons digit rest ih =>
      show ((p.push digit).pushAll rest).scale = _
      rw [ih]
      cases hpoint : p.point with
      | true =>
          simp only [push, hpoint, if_true, List.length_cons]
          omega
      | false => simp only [push, hpoint, Bool.false_eq_true, if_false]

end Progress

/-- What is done with one character. -/
theorem readDigits_cons (negative : Bool) (p : Progress) (c : Char) (rest : List Char) :
    readDigits negative p (c :: rest) =
      match Digit.ofChar? c with
      | some digit =>
          if !p.isFull && decide ((p.push digit).coefficient < limit) then
            readDigits negative (p.push digit) rest
          else if p.point && isTail rest then p.round? negative digit
          else none
      | none =>
          if c == '.' && !p.point then readDigits negative { p with point := true } rest
          else if c == '_' && p.any then
            if p.isFull && !p.wide then
              if isTail rest then mk? negative p.coefficient p.scale else none
            else readDigits negative p rest
          else none := by
  rfl

/-- Digits that fit are all taken. -/
theorem readDigits_digits {negative : Bool} {p : Progress} {digits : List Digit}
    (hfits : (p.pushAll digits).coefficient < limit)
    (hplaces : p.point = true -> p.scale + digits.length <= 28) (rest : List Char) :
    readDigits negative p (digits.map Digit.toChar ++ rest) =
      readDigits negative (p.pushAll digits) rest := by
  induction digits generalizing p with
  | nil => rfl
  | cons digit digits ih =>
      rw [Progress.pushAll_cons] at hfits
      have hle := (p.push digit).coefficient_le_pushAll digits
      have hpush : (p.push digit).coefficient < limit := Nat.lt_of_le_of_lt hle hfits
      have hroom : p.isFull = false := by
        cases hpoint : p.point with
        | false => simp [Progress.isFull, hpoint]
        | true =>
            have hcount := hplaces hpoint
            rw [List.length_cons] at hcount
            simp only [Progress.isFull, hpoint, Bool.true_and, decide_eq_false_iff_not]
            omega
      rw [List.map_cons, List.cons_append, readDigits_cons, Digit.ofChar?_toChar]
      simp only [hroom, hpush, Bool.not_false, decide_true, Bool.and_self, if_true]
      apply ih hfits
      intro hpoint
      have hcount := hplaces hpoint
      rw [List.length_cons] at hcount
      simp only [Progress.push, show p.point = true from hpoint, if_true]
      omega

theorem readDigits_point {negative : Bool} {p : Progress} (hpoint : p.point = false)
    (rest : List Char) :
    readDigits negative p ('.' :: rest) = readDigits negative { p with point := true } rest := by
  have hdot : Digit.ofChar? '.' = none := by decide
  rw [readDigits_cons, hdot, hpoint]
  rfl

theorem readDigits_end {negative : Bool} {p : Progress} (hany : p.any = true) :
    readDigits negative p [] = mk? negative p.coefficient p.scale :=
  if_pos hany

/-!
# Whole decimals
-/

section

variable (d : Decimal)

/-- The digits before the point. -/
def whole : List Digit :=
  let digits := padded (d.scale + 1) d.coefficient
  digits.take (digits.length - d.scale)

/-- The digits after the point. -/
def fraction : List Digit :=
  let digits := padded (d.scale + 1) d.coefficient
  digits.drop (digits.length - d.scale)

theorem whole_ne_nil : d.whole ≠ [] := by
  have hlength := length_le_padded (d.scale + 1) d.coefficient
  rw [whole, Ne, List.take_eq_nil_iff, ← List.length_eq_zero_iff]
  omega

theorem length_fraction : d.fraction.length = d.scale := by
  have hlength := length_le_padded (d.scale + 1) d.coefficient
  rw [fraction, List.length_drop]
  omega

theorem toNat_whole_fraction :
    d.fraction.foldl (fun value digit => 10 * value + digit.val) (Digits.toNat d.whole) =
      d.coefficient := by
  rw [← Digits.toNat_append, whole, fraction, List.take_append_drop, toNat_padded]

/-- The progress once the digits before the point are read. -/
theorem readDigits_whole (negative : Bool) (rest : List Char) :
    readDigits negative .start (d.whole.map Digit.toChar ++ rest) =
      readDigits negative (Progress.start.pushAll d.whole) rest := by
  apply readDigits_digits
  · have hle := (Progress.start.pushAll d.whole).coefficient_le_pushAll d.fraction
    have hvalue : ((Progress.start.pushAll d.whole).pushAll d.fraction).coefficient =
        d.coefficient := by
      rw [Progress.coefficient_pushAll, Progress.coefficient_pushAll]
      exact d.toNat_whole_fraction
    rw [hvalue] at hle
    exact Nat.lt_of_le_of_lt hle d.coefficient_lt
  · nofun

/-- The text of a decimal is its sign, the digits before the point and, if there are any
places, the point and the digits after it. -/
theorem toList_toText :
    d.toText.toList =
      (if d.negative then ['-'] else []) ++
        (d.whole.map Digit.toChar ++
          if d.scale = 0 then [] else '.' :: d.fraction.map Digit.toChar) := by
  have hsign : (if d.negative then "-" else "").toList = if d.negative then ['-'] else [] := by
    cases d.negative with
    | true => rfl
    | false => rfl
  rw [toText, whole, fraction]
  by_cases hscale : d.scale = 0
  · simp only [hscale, if_true, Nat.sub_zero, List.take_length, List.append_nil,
      String.toList_append, Digits.toText, String.toList_ofList, hsign]
  · simp only [hscale, if_false, String.toList_append, Digits.toText, String.toList_ofList, hsign,
      List.append_assoc]
    rfl

/-- The text without its sign is read with all its digits and all its places. -/
theorem readDigits_text (negative : Bool) :
    readDigits negative .start
        (d.whole.map Digit.toChar ++
          if d.scale = 0 then [] else '.' :: d.fraction.map Digit.toChar) =
      mk? negative d.coefficient d.scale := by
  have hany : (Progress.start.pushAll d.whole).any = true :=
    Progress.any_pushAll (Or.inr d.whole_ne_nil)
  have hwhole : (Progress.start.pushAll d.whole).coefficient = Digits.toNat d.whole :=
    Progress.coefficient_pushAll .start d.whole
  have hplaces : (Progress.start.pushAll d.whole).scale = 0 := by
    rw [Progress.scale_pushAll]
    rfl
  rw [readDigits_whole]
  by_cases hscale : d.scale = 0
  · have hfraction : d.fraction = [] := by
      rw [← List.length_eq_zero_iff, length_fraction, hscale]
    have hvalue := d.toNat_whole_fraction
    rw [hfraction, List.foldl_nil] at hvalue
    rw [if_pos hscale, readDigits_end hany, hwhole, hvalue, hplaces, hscale]
  · have hpoint := Progress.point_pushAll .start d.whole
    rw [if_neg hscale, readDigits_point hpoint, ← List.append_nil (d.fraction.map Digit.toChar)]
    generalize hp : ({ Progress.start.pushAll d.whole with point := true } : Progress) = p
    have hvalue : (p.pushAll d.fraction).coefficient = d.coefficient := by
      rw [← hp, Progress.coefficient_pushAll, hwhole]
      exact d.toNat_whole_fraction
    have hcount : (p.pushAll d.fraction).scale = d.scale := by
      rw [← hp, Progress.scale_pushAll, if_pos rfl, hplaces, length_fraction, Nat.zero_add]
    rw [readDigits_digits, readDigits_end, hvalue, hcount]
    · exact Progress.any_pushAll (Or.inl (by rw [← hp, hany]))
    · rw [hvalue]
      exact d.coefficient_lt
    · intro _
      rw [← hp, hplaces, length_fraction, Nat.zero_add]
      exact d.scale_le

/-- A digit is no sign. -/
theorem ofPlain?_digit (digit : Digit) (rest : List Char) :
    ofPlain? (digit.toChar :: rest) = readDigits false .start (digit.toChar :: rest) := by
  have hminus : forall digit : Digit, digit.toChar ≠ '-' := by decide
  have hplus : forall digit : Digit, digit.toChar ≠ '+' := by decide
  rw [ofPlain?]
  · intro _ htext
    exact hminus digit (List.cons.inj htext).left
  · intro _ htext
    exact hplus digit (List.cons.inj htext).left

theorem ofPlain?_toText :
    ofPlain? d.toText.toList = mk? d.negative d.coefficient d.scale := by
  rw [toList_toText]
  cases d.negative with
  | true => exact d.readDigits_text true
  | false =>
      have hread := d.readDigits_text false
      rcases hwhole : d.whole with _ | ⟨first, rest⟩
      · exact absurd hwhole d.whole_ne_nil
      · rw [hwhole] at hread
        exact (ofPlain?_digit first _).trans hread

/-- Every decimal but minus zero is read back from its text, with all its places. -/
theorem ofText?_toText {d : Decimal} (hzero : d.negative = true -> d.coefficient ≠ 0) :
    ofText? d.toText = some d := by
  have hbounds : d.coefficient < limit ∧ d.scale <= 28 := ⟨d.coefficient_lt, d.scale_le⟩
  have hsign : (d.negative && d.coefficient != 0) = d.negative := by
    cases hnegative : d.negative with
    | true => simp [hzero hnegative]
    | false => rfl
  rw [ofText?, ofPlain?_toText, mk?, hsign, ofParts?, dif_pos hbounds]

end

end Decimal

end QueryTree
