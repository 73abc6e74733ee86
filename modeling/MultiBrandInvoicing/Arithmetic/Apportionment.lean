import Mathlib.Algebra.BigOperators.Group.List.Basic
import Mathlib.Data.Rat.Floor
import Mathlib.Tactic.FieldSimp
import Mathlib.Tactic.Linarith
import Mathlib.Tactic.Positivity
import Mathlib.Tactic.Ring

/-!
# Apportioning an amount in whole units

The whole part of every weight's share is taken first.  What that leaves of the amount is as many
units as the fractions it cut off add up to, and handing the units out keeps a part next to its
exact share where, and only where, that share is not whole.
-/

set_option autoImplicit false

namespace Apportionment

/-- The share of a weight, cut off towards zero. -/
def share (amount total weight : ℤ) : ℤ := (amount * weight).tdiv total

/-- The fraction that is cut off, in parts of the total. -/
def cutOff (amount total weight : ℤ) : ℤ := |amount| * weight % total

def unit (amount : ℤ) : ℤ := if 0 ≤ amount then 1 else -1

/-- How many units the fractions cut off add up to. -/
def units (amount total : ℤ) (weights : List ℤ) : ℕ :=
  ((weights.map (cutOff amount total)).sum / total).toNat

/-- One more unit for the first parts. -/
def handOut (unit : ℤ) : ℕ → List ℤ → List ℤ
  | 0, parts => parts
  | _ + 1, [] => []
  | count + 1, part :: rest => (part + unit) :: handOut unit count rest

/-- A whole number next to an exact share. -/
def Rounds (part : ℤ) (exact_ : ℚ) : Prop := part = ⌊exact_⌋ ∨ part = ⌈exact_⌉

theorem rounds_iff {part : ℤ} {exact_ : ℚ} : Rounds part exact_ ↔ |(part : ℚ) - exact_| < 1 := by
  have below : part = ⌊exact_⌋ ↔ (part : ℚ) ≤ exact_ ∧ exact_ < part + 1 := by
    rw [eq_comm, Int.floor_eq_iff]
  have above : part = ⌈exact_⌉ ↔ (part : ℚ) - 1 < exact_ ∧ exact_ ≤ part := by
    rw [eq_comm, Int.ceil_eq_iff]
  rw [Rounds, below, above, abs_lt]
  constructor
  · rintro (⟨_, _⟩ | ⟨_, _⟩)
    · constructor <;> linarith
    · constructor <;> linarith
  · intro ⟨_, _⟩
    rcases le_total (part : ℚ) exact_ with low | high
    · exact .inl ⟨low, by linarith⟩
    · exact .inr ⟨by linarith, high⟩

/-- The same in whole numbers. -/
theorem rounds_div_iff {part numerator total : ℤ} (positive : 0 < total) :
    Rounds part ((numerator : ℚ) / total) ↔ |part * total - numerator| < total := by
  have above : (0 : ℚ) < total := by exact_mod_cast positive
  have scaled : |(part : ℚ) - numerator / total| * total = |(part : ℚ) * total - numerator| := by
    rw [← abs_of_pos above, ← abs_mul, abs_of_pos above, sub_mul, div_mul_cancel₀ _ above.ne']
  rw [rounds_iff, ← mul_lt_mul_iff_left₀ above, scaled, one_mul]
  exact_mod_cast Iff.rfl

theorem length_handOut (unit : ℤ) (count : ℕ) (parts : List ℤ) :
    (handOut unit count parts).length = parts.length := by
  induction parts generalizing count with
  | nil => cases count <;> rfl
  | cons part rest ih =>
      cases count with
      | zero => rfl
      | succ count => exact congrArg (· + 1) (ih count)

theorem sum_handOut (unit : ℤ) {count : ℕ} {parts : List ℤ} (enough : count ≤ parts.length) :
    (handOut unit count parts).sum = parts.sum + count * unit := by
  induction parts generalizing count with
  | nil =>
      have none : count = 0 := by simpa using enough
      simp [none, handOut]
  | cons part rest ih =>
      cases count with
      | zero => simp [handOut]
      | succ count =>
          have later := ih (Nat.le_of_succ_le_succ enough)
          simp only [handOut, List.sum_cons, later]
          push_cast
          ring

theorem forall₂_handOut {α : Type} {P : α → ℤ → Prop} {part : α → ℤ} (unit : ℤ) (count : ℕ)
    {values : List α} (each : ∀ value ∈ values, P value (part value)) :
    List.Forall₂ P values (handOut unit count (values.map part)) ↔
      ∀ value ∈ values.take count, P value (part value + unit) := by
  induction values generalizing count with
  | nil => cases count <;> simp [handOut]
  | cons value rest ih =>
      obtain ⟨here, others⟩ := List.forall_mem_cons.mp each
      cases count with
      | zero =>
          have all := (ih 0 others).mpr (by simp)
          simpa [handOut, here] using all
      | succ count =>
          rw [List.map_cons, handOut, List.forall₂_cons, ih count others, List.take_succ_cons,
            List.forall_mem_cons]

section Total

variable (amount : ℤ) {total : ℤ}

theorem unit_eq_or (amount : ℤ) : unit amount = 1 ∨ unit amount = -1 := by
  unfold unit
  split
  · exact .inl rfl
  · exact .inr rfl

theorem abs_eq_unit_mul (amount : ℤ) : |amount| = unit amount * amount := by
  unfold unit
  split
  case isTrue nonneg => rw [abs_of_nonneg nonneg, one_mul]
  case isFalse negative => rw [abs_of_neg (not_le.mp negative), neg_one_mul]

theorem unit_mul_self (amount : ℤ) : unit amount * unit amount = 1 := by
  unfold unit
  split <;> rfl

theorem cutOff_nonneg (positive : 0 < total) (weight : ℤ) : 0 ≤ cutOff amount total weight :=
  Int.emod_nonneg _ positive.ne'

theorem cutOff_lt (positive : 0 < total) (weight : ℤ) : cutOff amount total weight < total :=
  Int.emod_lt_of_pos _ positive

theorem cutOff_le (positive : 0 < total) {weight : ℤ} (weightNonneg : 0 ≤ weight) :
    cutOff amount total weight ≤ |amount| * weight := by
  have nonneg := mul_nonneg (abs_nonneg amount) weightNonneg
  have division := Int.ediv_mul_add_emod (|amount| * weight) total
  have whole := mul_nonneg (Int.ediv_nonneg nonneg positive.le) positive.le
  rw [cutOff]
  omega

theorem cutOff_eq_zero_iff {weight : ℤ} :
    cutOff amount total weight = 0 ↔ total ∣ amount * weight := by
  rw [cutOff, ← Int.dvd_iff_emod_eq_zero, abs_eq_unit_mul, mul_assoc]
  unfold unit
  split
  · rw [one_mul]
  · rw [neg_one_mul, Int.dvd_neg]

/-- Cutting a share off and what is cut off make up the share. -/
theorem share_mul_add (total : ℤ) {weight : ℤ} (weightNonneg : 0 ≤ weight) :
    share amount total weight * total + unit amount * cutOff amount total weight =
      amount * weight := by
  unfold share cutOff unit
  split
  case isTrue nonneg =>
    rw [abs_of_nonneg nonneg, Int.tdiv_eq_ediv_of_nonneg (mul_nonneg nonneg weightNonneg), one_mul]
    exact Int.ediv_mul_add_emod _ _
  case isFalse negative =>
    have flipped : 0 ≤ -amount * weight :=
      mul_nonneg (neg_nonneg.mpr (not_le.mp negative).le) weightNonneg
    have whole : (amount * weight).tdiv total = -(-amount * weight / total) := by
      rw [← Int.tdiv_eq_ediv_of_nonneg flipped, neg_mul, Int.neg_tdiv, neg_neg]
    have division := Int.ediv_mul_add_emod (-amount * weight) total
    rw [whole, abs_of_neg (not_le.mp negative)]
    linarith

theorem share_zero : share amount total 0 = 0 := by simp [share]

theorem rounds_share (positive : 0 < total) {weight : ℤ} (weightNonneg : 0 ≤ weight) :
    Rounds (share amount total weight) (((amount * weight : ℤ) : ℚ) / total) := by
  rw [rounds_div_iff positive, ← share_mul_add amount total weightNonneg]
  have low := cutOff_nonneg amount positive weight
  have high := cutOff_lt amount positive weight
  have apart : share amount total weight * total -
      (share amount total weight * total + unit amount * cutOff amount total weight) =
        -(unit amount * cutOff amount total weight) := by ring
  rw [apart, abs_neg]
  unfold unit
  split
  · rw [one_mul, abs_of_nonneg low]
    exact high
  · rw [neg_one_mul, abs_neg, abs_of_nonneg low]
    exact high

theorem rounds_share_add_unit_iff (positive : 0 < total) {weight : ℤ} (weightNonneg : 0 ≤ weight) :
    Rounds (share amount total weight + unit amount) (((amount * weight : ℤ) : ℚ) / total) ↔
      ¬total ∣ amount * weight := by
  rw [rounds_div_iff positive, ← cutOff_eq_zero_iff, ← share_mul_add amount total weightNonneg]
  have low := cutOff_nonneg amount positive weight
  have high := cutOff_lt amount positive weight
  have apart : (share amount total weight + unit amount) * total -
      (share amount total weight * total + unit amount * cutOff amount total weight) =
        unit amount * (total - cutOff amount total weight) := by ring
  have size : |unit amount * (total - cutOff amount total weight)| =
      total - cutOff amount total weight := by
    unfold unit
    split
    · rw [one_mul, abs_of_pos (by omega)]
    · rw [neg_one_mul, abs_neg, abs_of_pos (by omega)]
  rw [apart, size]
  omega

end Total

section Weights

variable (amount : ℤ) {total : ℤ} {weights : List ℤ}

theorem sum_shares_mul_add (total : ℤ) (nonneg : ∀ weight ∈ weights, 0 ≤ weight) :
    (weights.map (share amount total)).sum * total +
        unit amount * (weights.map (cutOff amount total)).sum = amount * weights.sum := by
  induction weights with
  | nil => simp
  | cons weight rest ih =>
      obtain ⟨here, others⟩ := List.forall_mem_cons.mp nonneg
      have first := share_mul_add amount total here
      simp only [List.map_cons, List.sum_cons, add_mul, mul_add]
      linarith [ih others]

theorem sum_cutOff_le (positive : 0 < total) (nonneg : ∀ weight ∈ weights, 0 ≤ weight) :
    (weights.map (cutOff amount total)).sum ≤ |amount| * weights.sum := by
  induction weights with
  | nil => simp
  | cons weight rest ih =>
      obtain ⟨here, others⟩ := List.forall_mem_cons.mp nonneg
      have first := cutOff_le amount positive here
      simp only [List.map_cons, List.sum_cons, mul_add]
      linarith [ih others]

theorem sum_cutOff_lt (positive : 0 < total) (some_ : weights ≠ []) :
    (weights.map (cutOff amount total)).sum < weights.length * total := by
  induction weights with
  | nil => exact absurd rfl some_
  | cons weight rest ih =>
      have first := cutOff_lt amount positive weight
      simp only [List.map_cons, List.sum_cons, List.length_cons]
      push_cast
      rw [add_mul, one_mul]
      cases rest with
      | nil => simpa using first
      | cons next later => linarith [ih (List.cons_ne_nil next later)]

theorem sum_cutOff_nonneg (positive : 0 < total) (weights : List ℤ) :
    0 ≤ (weights.map (cutOff amount total)).sum := by
  refine List.sum_nonneg fun fraction member => ?_
  obtain ⟨weight, _, rfl⟩ := List.mem_map.mp member
  exact cutOff_nonneg amount positive weight

/-- The fractions cut off are what the shares leave, up to the sign of the amount. -/
theorem sum_cutOff_eq (nonneg : ∀ weight ∈ weights, 0 ≤ weight) :
    (weights.map (cutOff amount weights.sum)).sum =
      unit amount * (amount - (weights.map (share amount weights.sum)).sum) * weights.sum := by
  have whole := sum_shares_mul_add amount weights.sum nonneg
  have signed := congrArg (unit amount * ·) whole
  simp only [mul_add, ← mul_assoc, unit_mul_self, one_mul] at signed
  linarith

theorem units_eq (nonneg : ∀ weight ∈ weights, 0 ≤ weight) (positive : 0 < weights.sum) :
    (units amount weights.sum weights : ℤ) =
      unit amount * (amount - (weights.map (share amount weights.sum)).sum) := by
  have fractions := sum_cutOff_nonneg amount positive weights
  unfold units
  rw [Int.toNat_of_nonneg (Int.ediv_nonneg fractions positive.le), sum_cutOff_eq amount nonneg,
    Int.mul_ediv_cancel _ positive.ne']

/-- What the shares leave of the amount are the units. -/
theorem sum_shares_add (nonneg : ∀ weight ∈ weights, 0 ≤ weight) (positive : 0 < weights.sum) :
    (weights.map (share amount weights.sum)).sum + units amount weights.sum weights * unit amount =
      amount := by
  rw [units_eq amount nonneg positive, mul_comm (unit amount), mul_assoc, unit_mul_self]
  ring

theorem units_mul (nonneg : ∀ weight ∈ weights, 0 ≤ weight) (positive : 0 < weights.sum) :
    (units amount weights.sum weights : ℤ) * weights.sum =
      (weights.map (cutOff amount weights.sum)).sum := by
  rw [units_eq amount nonneg positive, sum_cutOff_eq amount nonneg]

theorem units_lt (nonneg : ∀ weight ∈ weights, 0 ≤ weight) (positive : 0 < weights.sum) :
    units amount weights.sum weights < weights.length := by
  have some_ : weights ≠ [] := by
    rintro rfl
    simp at positive
  have below := sum_cutOff_lt amount positive some_
  rw [← units_mul amount nonneg positive] at below
  exact_mod_cast lt_of_mul_lt_mul_right below positive.le

theorem units_le (nonneg : ∀ weight ∈ weights, 0 ≤ weight) (positive : 0 < weights.sum) :
    (units amount weights.sum weights : ℤ) ≤ |amount| := by
  have below := sum_cutOff_le amount positive nonneg
  rw [← units_mul amount nonneg positive] at below
  exact le_of_mul_le_mul_right below positive

theorem abs_share_mul_le {weight : ℤ} (positive : 0 < total) (weightNonneg : 0 ≤ weight) :
    |share amount total weight| * total ≤ |amount| * weight := by
  have parts := share_mul_add amount total weightNonneg
  have low := cutOff_nonneg amount positive weight
  have high := cutOff_le amount positive weightNonneg
  have signed : unit amount * (share amount total weight * total) +
      cutOff amount total weight = |amount| * weight := by
    have scaled := congrArg (unit amount * ·) parts
    simp only [mul_add, ← mul_assoc, unit_mul_self, one_mul] at scaled
    rw [abs_eq_unit_mul]
    linarith
  have size : |unit amount| = 1 := by
    unfold unit
    split <;> rfl
  have sized : |share amount total weight| * total =
      |unit amount * (share amount total weight * total)| := by
    rw [abs_mul, abs_mul, size, one_mul, abs_of_pos positive]
  rw [sized, abs_of_nonneg (by linarith)]
  linarith

theorem sum_abs_shares_mul_le (positive : 0 < total) (nonneg : ∀ weight ∈ weights, 0 ≤ weight) :
    (weights.map fun weight => |share amount total weight|).sum * total ≤
      |amount| * weights.sum := by
  induction weights with
  | nil => simp
  | cons weight rest ih =>
      obtain ⟨here, others⟩ := List.forall_mem_cons.mp nonneg
      have first := abs_share_mul_le amount positive here
      simp only [List.map_cons, List.sum_cons, add_mul, mul_add]
      linarith [ih others]

theorem sum_abs_shares_le (nonneg : ∀ weight ∈ weights, 0 ≤ weight)
    (positive : 0 < weights.sum) :
    (weights.map fun weight => |share amount weights.sum weight|).sum ≤ |amount| :=
  le_of_mul_le_mul_right (sum_abs_shares_mul_le amount positive nonneg) positive

end Weights

end Apportionment
