import Mathlib.Algebra.BigOperators.Ring.List
import MultiBrandInvoicing.Arithmetic.Apportionment
import MultiBrandInvoicing.Money.NumberFigures

/-!
# Allocation

`allocate` of `packages/shared/src/money/money.ts` over whole weights.  The weights are scaled
and added with the language's numbers, the shares are taken in big integers, and what these leave
goes around the slots from the first.  A weight as large as to overflow a double is left out.
-/

set_option autoImplicit false

namespace MultiBrandInvoicing

open Apportionment

/-- `*` on whole numbers, where the product is not infinite. -/
def multiplyFinite (first second : Int) : Int := Doubles.round (first * second)

def addAll (values : List Int) : Int := values.foldl addNumbers 0

def weightScale : Int := 1000000

/-- `Math.round` leaves the product, which is whole, as it is. -/
def scaledWeights (weights : List Int) : List Int :=
  weights.map fun weight => multiplyFinite weight weightScale

def distribute (step : Int) : Nat → Nat → Int → List Int → Option (List Int)
  | 0, _, remainder, result => if remainder = 0 then some result else none
  | fuel + 1, i, remainder, result =>
      if remainder = 0 then some result
      else
        distribute step fuel ((i + 1) % result.length) (subtractNumbers remainder step)
          (result.set i (addNumbers (result.getD i 0) step))

def baseShares (amount : Int) (scaled : List Int) : Except MoneyError (List Int) :=
  let scaledTotal := addAll scaled
  scaled.mapM fun weight =>
    toSafeNumber ((amount * weight).tdiv (if scaledTotal = 0 then 1 else scaledTotal)) "allocation"

/-- What is left of the amount goes around the slots. -/
def distributed (fuel : Nat) (amount : Int) (base : List Int) : Option (List Int) :=
  let remainder := subtractNumbers amount (addAll base)
  distribute (if 0 ≤ remainder then 1 else -1) fuel 0 remainder base

def allocate (fuel : Nat) (amount : Int) (weights : List Int) :
    Except MoneyError (Option (List Int)) := do
  let amount ← assertMinor amount "amount"
  if weights.isEmpty then .error (.moneyError "allocate requires at least one weight")
  else if weights.any (· < 0) then
    .error (.moneyError "allocation weights must be non-negative finite numbers")
  else if addAll weights = 0 then
    .ok (some (weights.zipIdx.map fun (_, i) => if i = 0 then amount else 0))
  else do
    let base ← baseShares amount (scaledWeights weights)
    .ok (distributed fuel amount base)

example : allocate 3 (-100) [1, 1, 1] = .ok (some [-34, -33, -33]) := by decide +kernel

/-! ## The additions are exact -/

theorem sum_natAbs (values : List Int) :
    ((values.map Int.natAbs).sum : Int) = (values.map abs).sum := by
  induction values with
  | nil => rfl
  | cons value rest ih =>
      simp only [List.map_cons, List.sum_cons, Nat.cast_add, ih, Int.natCast_natAbs]

theorem addAll_eq {values : List Int} (small : (values.map Int.natAbs).sum ≤ 2 ^ 53) :
    addAll values = values.sum := by
  rw [addAll, foldl_addNumbers (by simpa using small), zero_add]

theorem foldl_addNumbers_pos {values : List Int} {start : Int} (startNonneg : 0 ≤ start)
    (nonneg : ∀ value ∈ values, 0 ≤ value) (positive : 0 < start + values.sum) :
    0 < values.foldl addNumbers start := by
  induction values generalizing start with
  | nil => simpa using positive
  | cons value rest ih =>
      obtain ⟨here, others⟩ := List.forall_mem_cons.mp nonneg
      have rounded : ∀ sum : Int, 0 ≤ sum → 0 ≤ Doubles.round sum ∧
          (0 < sum → 0 < Doubles.round sum) := by
        intro sum sumNonneg
        rcases sumNonneg.eq_or_lt with zero | sumPositive
        · rw [← zero, Doubles.round_of_natAbs_le (by decide)]
          exact ⟨le_rfl, id⟩
        · exact ⟨(Doubles.round_pos sumPositive).le, Doubles.round_pos⟩
      obtain ⟨sumNonneg, sumPositive⟩ := rounded (start + value) (by omega)
      refine ih sumNonneg others ?_
      have restNonneg := List.sum_nonneg others
      rw [List.sum_cons] at positive
      have sum : addNumbers start value = Doubles.round (start + value) := rfl
      rw [sum]
      rcases (show 0 ≤ start + value by omega).eq_or_lt with zero | now
      · omega
      · have rounded := sumPositive now
        omega

theorem addAll_pos {weights : List Int} (nonneg : ∀ weight ∈ weights, 0 ≤ weight)
    (positive : 0 < weights.sum) : 0 < addAll weights :=
  foldl_addNumbers_pos le_rfl nonneg (by simpa using positive)

/-- The scaled weights and their total are numbers that doubles hold. -/
structure ScalesExactly (weights : List Int) : Prop where
  scaled : ∀ weight ∈ weights, multiplyFinite weight weightScale = weight * weightScale
  total : addAll (scaledWeights weights) = weights.sum * weightScale

theorem scalesExactly_of_le {weights : List Int} (nonneg : ∀ weight ∈ weights, 0 ≤ weight)
    (small : weights.sum * weightScale ≤ 2 ^ 53) : ScalesExactly weights := by
  have each : ∀ weight ∈ weights, multiplyFinite weight weightScale = weight * weightScale := by
    intro weight member
    have part := List.single_le_sum nonneg weight member
    have least := nonneg weight member
    refine Doubles.round_of_natAbs_le ?_
    unfold weightScale at small ⊢
    omega
  have same : scaledWeights weights = weights.map (· * weightScale) := List.map_congr_left each
  have sum : (weights.map (· * weightScale)).sum = weights.sum * weightScale := by
    rw [List.sum_map_mul_right, List.map_id']
  refine ⟨each, ?_⟩
  rw [same, addAll_eq, sum]
  have sizes := sum_natAbs (weights.map (· * weightScale))
  have positive : (weights.map (· * weightScale)).map abs = weights.map (· * weightScale) := by
    rw [List.map_map]
    refine List.map_congr_left fun weight member => abs_of_nonneg ?_
    exact mul_nonneg (nonneg weight member) (by decide)
  rw [positive, sum] at sizes
  omega

/-! ## What is allocated -/

section Exact

variable {amount : Int} {weights : List Int}

theorem baseShares_eq (safe : isSafeInteger amount = true)
    (nonneg : ∀ weight ∈ weights, 0 ≤ weight) (positive : 0 < weights.sum)
    (exact_ : ScalesExactly weights) :
    baseShares amount (scaledWeights weights) =
      .ok (weights.map (share amount weights.sum)) := by
  have scale : (0 : Int) < weightScale := by decide
  have totalPositive : 0 < weights.sum * weightScale := mul_pos positive scale
  have same : scaledWeights weights = weights.map (· * weightScale) :=
    List.map_congr_left exact_.scaled
  simp only [baseShares, exact_.total, if_neg totalPositive.ne']
  rw [same]
  refine (mapM_eq_ok (fun _ _ => toSafeNumber_eq_ok) _ _).mpr ⟨?_, ?_⟩
  · intro scaled member
    obtain ⟨weight, found, rfl⟩ := List.mem_map.mp member
    have size := abs_share_mul_le amount positive (nonneg weight found)
    have part := List.single_le_sum nonneg weight found
    have bound : |share amount weights.sum weight| ≤ |amount| := by
      refine le_of_mul_le_mul_right (size.trans ?_) positive
      exact mul_le_mul_of_nonneg_left part (abs_nonneg amount)
    rw [← mul_assoc, Int.mul_tdiv_mul_of_pos_left _ _ scale, isSafeInteger_iff]
    rw [isSafeInteger_iff] at safe
    have sizes := Int.ofNat_le.mp (by
      simpa only [Int.natCast_natAbs] using bound :
        ((share amount weights.sum weight).natAbs : Int) ≤ amount.natAbs)
    exact lt_of_le_of_lt sizes safe
  · rw [List.map_map]
    refine List.map_congr_left fun weight _ => ?_
    rw [Function.comp, ← mul_assoc, Int.mul_tdiv_mul_of_pos_left _ _ scale]
    rfl

/-- The slots before the loop's index are done; it stops after as many as there are units. -/
theorem distribute_eq {step : Int} (single : step = 1 ∨ step = -1) {done parts : List Int}
    {count fuel i : Nat} (enough : count ≤ parts.length) (fueled : count ≤ fuel)
    (here : count = 0 ∨ i = done.length) (remaining : count ≤ 2 ^ 53)
    (small : ∀ part ∈ parts, part.natAbs < 2 ^ 53) :
    distribute step fuel i (count * step) (done ++ parts) =
      some (done ++ handOut step count parts) := by
  induction count generalizing done parts fuel i with
  | zero => cases fuel <;> simp [distribute, handOut]
  | succ count ih =>
      obtain ⟨fuel, rfl⟩ : ∃ less, fuel = less + 1 := ⟨fuel - 1, by omega⟩
      obtain rfl : i = done.length := here.resolve_left (Nat.succ_ne_zero count)
      cases parts with
      | nil => simp at enough
      | cons part rest =>
          rw [List.length_cons] at enough
          have left : ((count + 1 : Nat) : Int) * step ≠ 0 := by
            rcases single with rfl | rfl <;> omega
          have subtracted : subtractNumbers (((count + 1 : Nat) : Int) * step) step =
              count * step := by
            have exact_ : ((count + 1 : Nat) : Int) * step - step = count * step := by
              push_cast
              ring
            rw [subtractNumbers, exact_]
            refine Doubles.round_of_natAbs_le ?_
            rcases single with rfl | rfl <;> omega
          have added : addNumbers part step = part + step := by
            have size := small part List.mem_cons_self
            refine Doubles.round_of_natAbs_le ?_
            rcases single with rfl | rfl <;> omega
          have replaced : (done ++ part :: rest).set done.length (part + step) =
              (done ++ [part + step]) ++ rest := by
            rw [List.set_append_right _ _ le_rfl, Nat.sub_self, List.set_cons_zero,
              List.append_assoc, List.singleton_append]
          have next : count = 0 ∨ (done.length + 1) % (done ++ part :: rest).length =
              (done ++ [part + step]).length := by
            rcases Nat.eq_zero_or_pos count with none | more
            · exact .inl none
            · refine .inr ?_
              rw [List.length_append, List.length_append, List.length_singleton, List.length_cons]
              exact Nat.mod_eq_of_lt (by omega)
          have got : (done ++ part :: rest).getD done.length 0 = part := by simp
          rw [distribute, if_neg left, got, subtracted, added, replaced,
            ih (by omega) (by omega) next (by omega) fun other member =>
              small other (List.mem_cons_of_mem part member)]
          simp [handOut]

theorem sum_natAbs_shares_le (amount : Int) (nonneg : ∀ weight ∈ weights, 0 ≤ weight)
    (positive : 0 < weights.sum) :
    ((weights.map (share amount weights.sum)).map Int.natAbs).sum ≤ amount.natAbs := by
  have same := sum_natAbs (weights.map (share amount weights.sum))
  have magnitude : ((amount.natAbs : Nat) : Int) = |amount| := Int.natCast_natAbs amount
  have under : ((weights.map (share amount weights.sum)).map abs).sum ≤ |amount| := by
    rw [List.map_map]
    exact sum_abs_shares_le amount nonneg positive
  omega

theorem remainder_eq (safe : isSafeInteger amount = true)
    (nonneg : ∀ weight ∈ weights, 0 ≤ weight) (positive : 0 < weights.sum) :
    subtractNumbers amount (addAll (weights.map (share amount weights.sum))) =
      units amount weights.sum weights * unit amount := by
  have size := isSafeInteger_iff.mp safe
  have added := addAll_eq ((sum_natAbs_shares_le amount nonneg positive).trans size.le)
  have left := sum_shares_add amount nonneg positive
  have fewer := units_le amount nonneg positive
  have magnitude : ((amount.natAbs : Nat) : Int) = |amount| := Int.natCast_natAbs amount
  have exactly : amount - (weights.map (share amount weights.sum)).sum =
      units amount weights.sum weights * unit amount := by omega
  rw [added, subtractNumbers, exactly]
  refine Doubles.round_of_natAbs_le ?_
  rcases unit_eq_or amount with up | down
  · rw [up]
    omega
  · rw [down]
    omega

theorem distributed_eq (safe : isSafeInteger amount = true)
    (nonneg : ∀ weight ∈ weights, 0 ≤ weight) (positive : 0 < weights.sum) {fuel : Nat}
    (enough : weights.length ≤ fuel) :
    distributed fuel amount (weights.map (share amount weights.sum)) =
      some (handOut (unit amount) (units amount weights.sum weights)
        (weights.map (share amount weights.sum))) := by
  have size := isSafeInteger_iff.mp safe
  have few := units_lt amount nonneg positive
  have fewer := units_le amount nonneg positive
  have lengths := sum_natAbs_shares_le amount nonneg positive
  have remainder := remainder_eq safe nonneg positive
  have magnitude : ((amount.natAbs : Nat) : Int) = |amount| := Int.natCast_natAbs amount
  have sameLength : (weights.map (share amount weights.sum)).length = weights.length :=
    List.length_map _
  have bounded : ∀ part ∈ weights.map (share amount weights.sum), part.natAbs < 2 ^ 53 := by
    intro part member
    have one := List.single_le_sum (fun _ _ => Nat.zero_le _) _
      (List.mem_map_of_mem (f := Int.natAbs) member)
    omega
  have loop : ∀ step : Int, step = 1 ∨ step = -1 →
      distribute step fuel 0 (units amount weights.sum weights * step)
          ([] ++ weights.map (share amount weights.sum)) =
        some ([] ++ handOut step (units amount weights.sum weights)
          (weights.map (share amount weights.sum))) := by
    intro step steps
    exact distribute_eq steps (by omega) (by omega) (.inr rfl) (by omega) bounded
  -- Without a unit to hand out the direction of the loop is not that of the amount.
  rcases Nat.eq_zero_or_pos (units amount weights.sum weights) with none | more
  · have start := loop 1 (.inl rfl)
    simp only [none, Nat.cast_zero, zero_mul, List.nil_append] at start remainder ⊢
    simp only [distributed, remainder, if_pos (le_refl (0 : Int)), start, handOut]
  · have start := loop (unit amount) (unit_eq_or amount)
    have steps : (if 0 ≤ (units amount weights.sum weights : Int) * unit amount then (1 : Int)
        else -1) = unit amount := by
      rcases unit_eq_or amount with up | down
      · rw [up, if_pos (by omega)]
      · rw [down, if_neg (by omega)]
    simp only [List.nil_append] at start
    simp only [distributed, remainder, steps, start]

/-- In the range where the scaling is exact, the parts are the shares with a unit more for the
first slots. -/
theorem allocate_eq (safe : isSafeInteger amount = true)
    (nonneg : ∀ weight ∈ weights, 0 ≤ weight) (positive : 0 < weights.sum)
    (exact_ : ScalesExactly weights) {fuel : Nat} (enough : weights.length ≤ fuel) :
    allocate fuel amount weights =
      .ok (some (handOut (unit amount) (units amount weights.sum weights)
        (weights.map (share amount weights.sum)))) := by
  have some_ : weights.isEmpty = false := by
    cases weights with
    | nil => simp at positive
    | cons weight rest => rfl
  have noneNegative : (weights.any (· < 0)) = false := by
    simpa using nonneg
  have unequal : addAll weights ≠ 0 := (addAll_pos nonneg positive).ne'
  have asserted : assertMinor amount "amount" = .ok amount := assertMinor_eq_ok.mpr ⟨safe, rfl⟩
  have shares := baseShares_eq safe nonneg positive exact_
  have done := distributed_eq safe nonneg positive enough
  simp only [allocate, asserted, some_, noneNegative, unequal, shares, done, bind, Except.bind,
    Bool.false_eq_true, if_false]

/-- A part next to the exact share of its weight, and zero for a zero weight. -/
def Fair (amount : Int) (weights : List Int) (weight part : Int) : Prop :=
  Rounds part (((amount * weight : Int) : ℚ) / weights.sum) ∧ (weight = 0 → part = 0)

def FairSplit (amount : Int) (weights : List Int)
    (outcome : Except MoneyError (Option (List Int))) : Prop :=
  ∃ parts, outcome = .ok (some parts) ∧ parts.length = weights.length ∧ parts.sum = amount ∧
    List.Forall₂ (Fair amount weights) weights parts

/-- As many slots from the first as the fractions of the exact shares add up to have a share that
is not whole. -/
def LeadsAreFractional (amount : Int) (weights : List Int) : Prop :=
  ∀ weight ∈ weights.take (units amount weights.sum weights), ¬weights.sum ∣ amount * weight

instance (amount : Int) (weights : List Int) : Decidable (LeadsAreFractional amount weights) :=
  inferInstanceAs (Decidable (∀ weight ∈ _, _))

/-- What the truncation leaves goes to the first slots, whatever their shares are: the split is
fair exactly where these have a fraction to be rounded up. -/
theorem allocate_fair_iff (safe : isSafeInteger amount = true)
    (nonneg : ∀ weight ∈ weights, 0 ≤ weight) (positive : 0 < weights.sum)
    (exact_ : ScalesExactly weights) {fuel : Nat} (enough : weights.length ≤ fuel) :
    FairSplit amount weights (allocate fuel amount weights) ↔
      LeadsAreFractional amount weights := by
  have few := units_lt amount nonneg positive
  have left := sum_shares_add amount nonneg positive
  have whole : ∀ weight ∈ weights,
      Fair amount weights weight (share amount weights.sum weight) := by
    intro weight member
    refine ⟨rounds_share amount positive (nonneg weight member), ?_⟩
    rintro rfl
    exact share_zero amount
  have parts := forall₂_handOut (unit amount) (units amount weights.sum weights) whole
  have rounded : ∀ weight ∈ weights.take (units amount weights.sum weights),
      Fair amount weights weight (share amount weights.sum weight + unit amount) ↔
        ¬weights.sum ∣ amount * weight := by
    intro weight member
    have weightNonneg := nonneg weight (List.mem_of_mem_take member)
    rw [Fair, rounds_share_add_unit_iff amount positive weightNonneg, and_iff_left_iff_imp]
    rintro fractional rfl
    exact absurd (by simp) fractional
  have fair : LeadsAreFractional amount weights ↔ _ :=
    (forall₂_congr rounded).symm.trans parts.symm
  rw [allocate_eq safe nonneg positive exact_ enough, fair]
  constructor
  · rintro ⟨parts, same, _, _, each⟩
    cases same
    exact each
  · intro each
    refine ⟨_, rfl, ?_, ?_, each⟩
    · rw [length_handOut, List.length_map]
    · rw [sum_handOut _ (by simpa using few.le), left]

end Exact

theorem allocate_fair_iff_sample :
    FairSplit (-100) [1, 1, 1] (allocate 3 (-100) [1, 1, 1]) ↔
      LeadsAreFractional (-100) [1, 1, 1] :=
  allocate_fair_iff (by decide) (by decide) (by decide)
    (scalesExactly_of_le (by decide) (by decide)) (by decide)

/-- A first slot of weight zero is given the cent that the others leave. -/
theorem zero_weight_allocated :
    ScalesExactly [0, 1, 1] ∧ allocate 3 1 [0, 1, 1] = .ok (some [1, 0, 0]) ∧
      ¬FairSplit 1 [0, 1, 1] (allocate 3 1 [0, 1, 1]) := by
  have scales : ScalesExactly [0, 1, 1] := scalesExactly_of_le (by decide) (by decide)
  refine ⟨scales, by decide +kernel, ?_⟩
  rintro ⟨parts, same, _, _, each⟩
  have given : allocate 3 1 [0, 1, 1] = .ok (some [1, 0, 0]) := by decide +kernel
  rw [given] at same
  cases same
  cases each with
  | cons first _ => exact absurd (first.2 rfl) (by decide)

end MultiBrandInvoicing
