import Mathlib.Data.List.TakeWhile
import Mathlib.Data.Rat.Floor
import Mathlib.Tactic.FieldSimp
import Mathlib.Tactic.Ring
import MultiBrandInvoicing.Money.Calculation

/-!
# Numbers read from decimal text

`Number(formatQuantity(quantity))`, as the adapter sends a quantity: the text of a quantity
stands for exactly that many ten-thousandths.
-/

set_option autoImplicit false

namespace MultiBrandInvoicing

def decimalNumber (text : String) : ℚ :=
  match decimalGroups? text.toList with
  | none => 0
  | some (negative, whole, fraction) =>
      let magnitude := (digitsValue whole : ℚ) + digitsValue fraction / 10 ^ fraction.length
      if negative then -magnitude else magnitude

/-! ## Digits -/

theorem foldl_digits (digits : List Char) (start : Nat) :
    digits.foldl (fun value digit => value * 10 + ((digit.toNat - '0'.toNat : Nat) : Int)) start =
      (Nat.ofDigitChars 10 digits start : Int) := by
  induction digits generalizing start with
  | nil => simp
  | cons digit rest ih =>
      rw [List.foldl_cons, Nat.ofDigitChars_cons, ← ih]
      congr 1
      push_cast
      ring

theorem digitsValue_eq (digits : List Char) :
    digitsValue digits = (Nat.ofDigitChars 10 digits 0 : Int) := foldl_digits digits 0

theorem digitsValue_toString (n : Nat) : digitsValue (toString n).toList = n := by
  rw [digitsValue_eq, Nat.toString_eq_ofList_toDigits, String.toList_ofList,
    Nat.ofDigitChars_ten_toDigits]

theorem digitsValue_zeros_append (count : Nat) (digits : List Char) :
    digitsValue (List.replicate count '0' ++ digits) = digitsValue digits := by
  simp [digitsValue_eq, Nat.ofDigitChars_append, Nat.ofDigitChars_replicate_zero]

theorem digitsValue_append_zeros (digits : List Char) (count : Nat) :
    digitsValue (digits ++ List.replicate count '0') = digitsValue digits * 10 ^ count := by
  simp [digitsValue_eq, Nat.ofDigitChars_append, Nat.ofDigitChars_replicate_zero, mul_comm]

theorem isDigit_of_mem_toString {n : Nat} {char : Char} (member : char ∈ (toString n).toList) :
    char.isDigit = true := by
  rw [Nat.toString_eq_ofList_toDigits, String.toList_ofList] at member
  exact Nat.isDigit_of_mem_toDigits (by decide) (by decide) member

theorem toString_ne_nil (n : Nat) : (toString n).toList ≠ [] := by
  rw [Nat.toString_eq_ofList_toDigits, String.toList_ofList]
  exact Nat.toDigits_ne_nil

theorem padStart_toList (n width : Nat) :
    (padStart (toString n) width).toList =
      List.replicate (width - (toString n).length) '0' ++ (toString n).toList := by
  simp [padStart]

theorem padStart_length {n width : Nat} (positive : 0 < width) (small : n < 10 ^ width) :
    (padStart (toString n) width).toList.length = width := by
  have short : (toString n).length ≤ width := by
    rw [Nat.toString_eq_ofList_toDigits, String.length_ofList]
    exact (Nat.length_toDigits_le_iff (by decide) positive).mpr small
  rw [padStart_toList, List.length_append, List.length_replicate, String.length_toList]
  omega

def dropZeros (digits : List Char) : List Char :=
  (digits.reverse.dropWhile fun digit => digit = '0').reverse

theorem dropZeros_append (digits : List Char) :
    ∃ count, digits = dropZeros digits ++ List.replicate count '0' := by
  refine ⟨(digits.reverse.takeWhile fun digit => digit = '0').length, ?_⟩
  have zeros : digits.reverse.takeWhile (fun digit => digit = '0') =
      List.replicate (digits.reverse.takeWhile fun digit => digit = '0').length '0' := by
    apply List.eq_replicate_of_mem
    intro digit member
    simpa using List.mem_takeWhile_imp member
  have whole := congrArg List.reverse
    (List.takeWhile_append_dropWhile (p := fun digit => digit = '0') (l := digits.reverse))
  rw [List.reverse_append, List.reverse_reverse, zeros, List.reverse_replicate] at whole
  exact whole.symm

/-! ## The groups of a formatted number -/

def decimalText (negative : Bool) (whole fraction : List Char) : List Char :=
  (if negative then ['-'] else []) ++ whole ++ (if fraction.isEmpty then [] else '.' :: fraction)

theorem decimalGroups?_decimalText {negative : Bool} {whole fraction : List Char}
    (nonempty : whole ≠ []) (digits : ∀ char ∈ whole, char.isDigit = true)
    (fractionDigits : ∀ char ∈ fraction, char.isDigit = true) :
    decimalGroups? (decimalText negative whole fraction) = some (negative, whole, fraction) := by
  have signed : (decimalText negative whole fraction).head? = some '-' ↔ negative = true := by
    cases negative with
    | true => simp [decimalText]
    | false =>
        cases whole with
        | nil => exact absurd rfl nonempty
        | cons first rest =>
            have digit := digits first (by simp)
            simp only [decimalText, Bool.false_eq_true, if_false, List.nil_append, List.cons_append,
              List.head?_cons, Option.some.injEq, iff_false]
            rintro rfl
            exact absurd digit (by decide)
  have body : (if (decimalText negative whole fraction).head? = some '-' then
      (decimalText negative whole fraction).tail else decimalText negative whole fraction) =
      whole ++ (if fraction.isEmpty then [] else '.' :: fraction) := by
    cases negative with
    | true => simp [decimalText]
    | false =>
        rw [if_neg (by simpa using signed.not.mpr Bool.false_ne_true)]
        simp [decimalText]
  have taken : (whole ++ (if fraction.isEmpty then [] else '.' :: fraction)).takeWhile
      Char.isDigit = whole := by
    rw [List.takeWhile_append_of_pos digits]
    split <;> simp [Char.isDigit]
  have dropped : (whole ++ (if fraction.isEmpty then [] else '.' :: fraction)).dropWhile
      Char.isDigit = if fraction.isEmpty then [] else '.' :: fraction := by
    rw [List.dropWhile_append_of_pos digits]
    split <;> simp [Char.isDigit]
  have present : whole.isEmpty = false := by simpa using nonempty
  simp only [decimalGroups?, body, taken, dropped, present, Bool.false_eq_true,
    if_false]
  cases fraction with
  | nil => simp [signed]
  | cons first rest =>
      have allDigits : (first :: rest).all Char.isDigit = true := by
        simpa using fractionDigits
      simp [signed, allDigits]

/-- The number four padded digits stand for behind the point, its last zeros dropped. -/
theorem fraction_value {rest : Nat} (small : rest < 10 ^ quantityDecimals) :
    let fraction := dropZeros (padStart (toString rest) quantityDecimals).toList
    (digitsValue fraction : ℚ) / 10 ^ fraction.length = rest / quantityScale := by
  intro fraction
  obtain ⟨count, padded⟩ := dropZeros_append (padStart (toString rest) quantityDecimals).toList
  have width : fraction.length + count = quantityDecimals := by
    rw [← padStart_length (by decide) small, padded, List.length_append, List.length_replicate]
  have value : (rest : Int) = digitsValue fraction * 10 ^ count := by
    rw [← digitsValue_append_zeros, ← padded, padStart_toList, digitsValue_zeros_append,
      digitsValue_toString]
  have scale : (quantityScale : ℚ) = 10 ^ fraction.length * 10 ^ count := by
    rw [← pow_add, width]
    norm_num [quantityScale, quantityDecimals]
  have exact_ : (rest : ℚ) = digitsValue fraction * 10 ^ count := by exact_mod_cast value
  rw [scale, exact_]
  field_simp

theorem mem_dropZeros {digits : List Char} {char : Char} (member : char ∈ dropZeros digits) :
    char ∈ digits := by
  obtain ⟨count, split_⟩ := dropZeros_append digits
  rw [split_]
  exact List.mem_append_left _ member

theorem isDigit_of_mem_padStart {n width : Nat} {char : Char}
    (member : char ∈ (padStart (toString n) width).toList) : char.isDigit = true := by
  rw [padStart_toList, List.mem_append] at member
  rcases member with zero | digit
  · rw [List.eq_of_mem_replicate zero]
    rfl
  · exact isDigit_of_mem_toString digit

theorem formatQuantity_toList {quantity : Int} {text : String}
    (formatted : formatQuantity quantity = .ok text) :
    text.toList = decimalText (quantity < 0)
      (toString (quantity.natAbs / quantityScale.natAbs)).toList
      (dropZeros (padStart (toString (quantity.natAbs % quantityScale.natAbs))
        quantityDecimals).toList) := by
  obtain ⟨asserted, checked, assembled⟩ := bind_ok formatted
  obtain ⟨_, rfl⟩ := assertQuantity_eq_ok.mp checked
  have written : (if asserted < 0 then "-" else "") ++
      toString (asserted.natAbs / quantityScale.natAbs) ++
      (if (dropZeros (padStart (toString (asserted.natAbs % quantityScale.natAbs))
          quantityDecimals).toList).isEmpty then ""
        else "." ++ String.ofList (dropZeros
          (padStart (toString (asserted.natAbs % quantityScale.natAbs))
            quantityDecimals).toList)) = text := Except.ok.inj assembled
  have sign : (if asserted < 0 then "-" else "").toList =
      if decide (asserted < 0) = true then ['-'] else [] := by
    by_cases negative : asserted < 0 <;> simp [negative]
  rw [← written, String.toList_append, String.toList_append, sign, decimalText]
  generalize dropZeros (padStart (toString (asserted.natAbs % quantityScale.natAbs))
    quantityDecimals).toList = fraction
  cases fraction <;> simp

theorem divMod_scale (n : Nat) :
    ((n / quantityScale.natAbs : Nat) : ℚ) + ((n % quantityScale.natAbs : Nat) : ℚ) / quantityScale =
      n / quantityScale := by
  have whole : (n : ℚ) = 10000 * ((n / 10000 : Nat) : ℚ) + ((n % 10000 : Nat) : ℚ) := by
    exact_mod_cast (Nat.div_add_mod n 10000).symm
  have scale : (quantityScale : ℚ) = 10000 := by norm_num [quantityScale]
  have scaleNat : quantityScale.natAbs = 10000 := rfl
  rw [scale, scaleNat, whole]
  field_simp

/-- The text a quantity is formatted as is read as that quantity. -/
theorem decimalNumber_formatQuantity {quantity : Int} {text : String}
    (formatted : formatQuantity quantity = .ok text) :
    decimalNumber text = quantity / quantityScale := by
  have small : quantity.natAbs % quantityScale.natAbs < 10 ^ quantityDecimals :=
    Nat.mod_lt _ (by decide)
  rw [decimalNumber, formatQuantity_toList formatted,
    decimalGroups?_decimalText (toString_ne_nil _)
      (fun char member => isDigit_of_mem_toString member)
      (fun char member => isDigit_of_mem_padStart (mem_dropZeros member))]
  simp only [digitsValue_toString, fraction_value small, Int.cast_natCast, divMod_scale]
  rcases Int.natAbs_eq quantity with above | below
  · have nonneg : ¬quantity < 0 := by omega
    have size : (quantity : ℚ) = ((quantity.natAbs : Int) : ℚ) := congrArg Int.cast above
    rw [Int.cast_natCast] at size
    rw [decide_eq_false nonneg, if_neg Bool.false_ne_true, ← size]
  · by_cases negative : quantity < 0
    · have size : (quantity : ℚ) = ((-(quantity.natAbs : Int) : Int) : ℚ) := congrArg Int.cast below
      rw [Int.cast_neg, Int.cast_natCast] at size
      rw [decide_eq_true negative, if_pos rfl, ← neg_div, ← size]
    · have zero : quantity = 0 := by omega
      rw [zero]
      norm_num

end MultiBrandInvoicing
