import MultiBrandInvoicing.Money.DecimalText
import MultiBrandInvoicing.Money.NumberFigures

/-!
# Amounts as text

`formatMinor` and `parseMinor` in `packages/shared/src/money/money.ts`, the first with the
division of numbers it cuts the major units off with.  For every safe amount the text is that of
the integer quotient and remainder, and it is read back as the amount under any currency.
-/

set_option autoImplicit false

namespace MultiBrandInvoicing

def truncatedQuotient (magnitude divisor : Nat) : Int :=
  ⌊Doubles.nearest ((magnitude : ℚ) / divisor)⌋

def formatMinorInNumbers (amount : Int) (currency : CurrencyCode) : Except MoneyError String := do
  let amount ← assertMinor amount "amount"
  let exponent := minorUnitExponent currency
  let divisor : Nat := 10 ^ exponent
  let major := truncatedQuotient amount.natAbs divisor
  let minor := padStart (toString (amount.natAbs % divisor)) exponent
  let sign := if amount < 0 then "-" else ""
  return s!"{sign}{major}.{minor}"

example : formatMinorInNumbers (-9007199254740991) .usd = .ok "-90071992547409.91" := by
  decide +kernel

theorem truncatedQuotient_of_isSafeInteger {amount : Int} (safe : isSafeInteger amount = true)
    {divisor : Nat} (positive : 0 < divisor) :
    truncatedQuotient amount.natAbs divisor = (amount.natAbs / divisor : Nat) := by
  rw [truncatedQuotient, Doubles.floor_nearest_div (isSafeInteger_iff.mp safe) positive]
  rfl

/-- The division of numbers cuts off what the division of integers does. -/
theorem formatMinorInNumbers_eq (amount : Int) (currency : CurrencyCode) :
    formatMinorInNumbers amount currency = formatMinor amount currency := by
  unfold formatMinorInNumbers formatMinor
  cases checked : assertMinor amount "amount" with
  | error error => rfl
  | ok asserted =>
      obtain ⟨safe, rfl⟩ := assertMinor_eq_ok.mp checked
      have major := truncatedQuotient_of_isSafeInteger safe
        (show 0 < 10 ^ minorUnitExponent currency from Nat.pow_pos (by decide))
      simp only [bind, Except.bind, major]
      rfl

/-! ## Reading an amount back -/

theorem trim_eq_self {text : List Char} (kept : ∀ char ∈ text, isTrimmed char = false) :
    trim text = text := by
  have front : ∀ text : List Char, (∀ char ∈ text, isTrimmed char = false) →
      text.dropWhile isTrimmed = text := by
    intro text kept
    cases text with
    | nil => rfl
    | cons first rest => simp [kept first (by simp)]
  rw [trim, front text kept, front text.reverse fun char member => kept char (by simpa using member),
    List.reverse_reverse]

theorem mem_decimalText {negative : Bool} {whole fraction : List Char} {char : Char}
    (member : char ∈ decimalText negative whole fraction) :
    char = '-' ∨ char = '.' ∨ char ∈ whole ∨ char ∈ fraction := by
  unfold decimalText at member
  rw [List.mem_append, List.mem_append] at member
  rcases member with (sign | digit) | rest
  · split at sign
    · exact .inl (by simpa using sign)
    · cases sign
  · exact .inr (.inr (.inl digit))
  · split at rest
    · cases rest
    · rcases List.mem_cons.mp rest with point | digit
      · exact .inr (.inl point)
      · exact .inr (.inr (.inr digit))

theorem plain_of_isDigit {char : Char} (plain : char = '-' ∨ char = '.' ∨ char.isDigit = true) :
    isTrimmed char = false ∧ char ≠ ',' := by
  rcases plain with rfl | rfl | digit
  · exact ⟨by decide, by decide⟩
  · exact ⟨by decide, by decide⟩
  · have range : 48 ≤ char.toNat ∧ char.toNat ≤ 57 := by
      simpa [Char.isDigit, UInt32.le_iff_toNat_le] using digit
    constructor
    · simp only [isTrimmed, List.contains_eq_mem, List.mem_cons, List.not_mem_nil, or_false,
        Bool.or_eq_false_iff, Bool.and_eq_false_iff, decide_eq_false_iff_not]
      omega
    · rintro rfl
      exact absurd range (by decide)

theorem mem_plain {negative : Bool} {whole fraction : List Char}
    (digits : ∀ char ∈ whole, char.isDigit = true)
    (fractionDigits : ∀ char ∈ fraction, char.isDigit = true) {char : Char}
    (member : char ∈ decimalText negative whole fraction) :
    isTrimmed char = false ∧ char ≠ ',' := by
  refine plain_of_isDigit ?_
  rcases mem_decimalText member with sign | point | digit | digit
  · exact .inl sign
  · exact .inr (.inl point)
  · exact .inr (.inr (digits char digit))
  · exact .inr (.inr (fractionDigits char digit))

theorem formatMinor_toList {amount : Int} {currency : CurrencyCode} {text : String}
    (formatted : formatMinor amount currency = .ok text) :
    isSafeInteger amount = true ∧ text.toList = decimalText (amount < 0)
      (toString (amount.natAbs / 10 ^ minorUnitExponent currency)).toList
      (padStart (toString (amount.natAbs % 10 ^ minorUnitExponent currency))
        (minorUnitExponent currency)).toList := by
  obtain ⟨asserted, checked, assembled⟩ := bind_ok formatted
  obtain ⟨safe, rfl⟩ := assertMinor_eq_ok.mp checked
  refine ⟨safe, ?_⟩
  have written : (if asserted < 0 then "-" else "") ++
      toString (asserted.natAbs / 10 ^ minorUnitExponent currency) ++ "." ++
      padStart (toString (asserted.natAbs % 10 ^ minorUnitExponent currency))
        (minorUnitExponent currency) = text := Except.ok.inj assembled
  have width : (padStart (toString (asserted.natAbs % 10 ^ minorUnitExponent currency))
      (minorUnitExponent currency)).toList.length = minorUnitExponent currency :=
    padStart_length (by cases currency <;> decide) (Nat.mod_lt _ (Nat.pow_pos (by decide)))
  have sign : (if asserted < 0 then "-" else "").toList =
      if decide (asserted < 0) = true then ['-'] else [] := by
    by_cases negative : asserted < 0 <;> simp [negative]
  rw [← written, String.toList_append, String.toList_append, String.toList_append, sign,
    decimalText]
  generalize (padStart (toString (asserted.natAbs % 10 ^ minorUnitExponent currency))
    (minorUnitExponent currency)).toList = fraction at width
  cases fraction with
  | nil => cases currency <;> cases width
  | cons first rest => simp

theorem minorUnitExponent_eq (currency : CurrencyCode) : minorUnitExponent currency = 2 := by
  cases currency <;> rfl

/-- An amount is read back from its text, whatever currency it is read in. -/
theorem parseMinor_formatMinor {amount : Int} {written : CurrencyCode} {text : String}
    (formatted : formatMinor amount written = .ok text) (read : CurrencyCode) :
    parseMinor text read = .ok amount := by
  obtain ⟨safe, characters⟩ := formatMinor_toList formatted
  rw [minorUnitExponent_eq] at characters
  have digits : ∀ char ∈ (toString (amount.natAbs / 10 ^ 2)).toList, char.isDigit = true :=
    fun char member => isDigit_of_mem_toString member
  have fractionDigits : ∀ char ∈ (padStart (toString (amount.natAbs % 10 ^ 2)) 2).toList,
      char.isDigit = true := fun char member => isDigit_of_mem_padStart member
  have kept : (trim text.toList).filter (fun char => char != ',') = text.toList := by
    have plain : ∀ char ∈ text.toList, isTrimmed char = false ∧ char ≠ ',' := by
      rw [characters]
      exact fun char member => mem_plain digits fractionDigits member
    rw [trim_eq_self fun char member => (plain char member).1, List.filter_eq_self]
    exact fun char member => by simpa using (plain char member).2
  have width : (padStart (toString (amount.natAbs % 10 ^ 2)) 2).toList.length = 2 :=
    padStart_length (by decide) (Nat.mod_lt _ (by decide))
  have fraction : digitsValue (padEnd (padStart (toString (amount.natAbs % 10 ^ 2)) 2).toList 2) =
      (amount.natAbs % 10 ^ 2 : Nat) := by
    rw [padEnd, width, Nat.sub_self, List.replicate_zero, List.append_nil, padStart_toList,
      digitsValue_zeros_append, digitsValue_toString]
  have magnitude : digitsValue (toString (amount.natAbs / 10 ^ 2)).toList * 10 ^ 2 +
      digitsValue (padEnd (padStart (toString (amount.natAbs % 10 ^ 2)) 2).toList 2) =
        amount.natAbs := by
    rw [digitsValue_toString, fraction]
    omega
  have value : (if decide (amount < 0) = true then -(amount.natAbs : Int) else amount.natAbs) =
      amount := by
    by_cases negative : amount < 0
    · rw [if_pos (by simpa using negative)]
      omega
    · rw [if_neg (by simpa using negative)]
      omega
  simp only [parseMinor, kept, minorUnitExponent_eq]
  rw [characters, decimalGroups?_decimalText (toString_ne_nil _) digits fractionDigits]
  simp only [width, lt_irrefl, if_false, magnitude, value]
  exact toSafeNumber_eq_ok.mpr ⟨safe, rfl⟩

theorem formatMinor_of_isSafeInteger {amount : Int} (safe : isSafeInteger amount = true)
    (currency : CurrencyCode) : ∃ text, formatMinor amount currency = .ok text := by
  have checked : assertMinor amount "amount" = .ok amount := assertMinor_eq_ok.mpr ⟨safe, rfl⟩
  unfold formatMinor
  rw [checked]
  exact ⟨_, rfl⟩

end MultiBrandInvoicing
