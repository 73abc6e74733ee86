import MultiBrandInvoicing.Merchants.Onboarding
import MultiBrandInvoicing.Tenancy.Roles

/-!
# The steps of the setup

`apps/admin/src/lib/onboarding.ts` works out which form a user owes from what the API answers.
Rows that only go forward never take the step back.
-/

set_option autoImplicit false

namespace MultiBrandInvoicing.Onboarding

open Merchants CompanyDetails Roles

inductive OnboardingStep where
  | setPassword | companyDetails | brandStructure | multiBrandSetup | awaitingSetup
  deriving DecidableEq, Repr

structure CurrentUser where
  role : Role
  assignedBrandIds : List String
  mustResetPassword : Bool

/-- `ACTIONS` of `packages/shared/src/domain/roles.ts`. -/
def actions : List Roles.Action := [.read, .write, .delete, .approve]

def grantsFor (role : Role) (resource : Resource) : List Roles.Action :=
  actions.filter fun action => (permissions role resource).contains action

def hasPermission (user : CurrentUser) (resource : Resource) (action : Roles.Action) : Bool :=
  (grantsFor user.role resource).contains action

def resolveSetupStep (merchant : MerchantOnboardingState) : OnboardingStep :=
  match merchant.brandStructure with
  | none =>
    if merchant.companyDetails = none ∧ merchant.hasBrands = false then .companyDetails
    else .brandStructure
  | some _ => .multiBrandSetup

def brandSetupSteps : List OnboardingStep := [.companyDetails, .brandStructure, .multiBrandSetup]

/-- It answers nothing where nothing is owed any more. -/
def resolveOnboardingStep (user : CurrentUser) (merchant : MerchantOnboardingState) :
    Option OnboardingStep :=
  if user.mustResetPassword then some .setPassword
  else if merchant.onboardingComplete then none
  else
    let step := resolveSetupStep merchant
    if brandSetupSteps.contains step && !hasPermission user .brands .write then
      some .awaitingSetup
    else some step

def routeForStep : Option OnboardingStep → String
  | some .setPassword => "/set-password"
  | some .companyDetails => "/brands/new"
  | some .brandStructure => "/brands/structure"
  | some .multiBrandSetup => "/brands/multi"
  | some .awaitingSetup => "/awaiting-setup"
  | none => "/"

def reaches (user : CurrentUser) (brand : Merchants.BrandRow) : Bool :=
  coversAllBrands user.role || user.assignedBrandIds.contains brand.id

/-- `GET /merchant/onboarding`. -/
def getMerchantOnboarding (user : CurrentUser) (store : Store) : MerchantOnboardingState :=
  getOnboardingState ⟨store.merchant, store.brands.countP (reaches user)⟩

def stepOf (user : CurrentUser) (store : Store) : Option OnboardingStep :=
  resolveOnboardingStep user (getMerchantOnboarding user store)

/-! ## How far a setup has come -/

/-- The forms that a step still leaves to fill in, one that only another can see to above all. -/
def formsLeft : Option OnboardingStep → Nat
  | none => 0
  | some .multiBrandSetup => 1
  | some .brandStructure => 2
  | some .companyDetails => 3
  | some .awaitingSetup => 4
  | some .setPassword => 5

theorem companyDetailsOf_eq_none {store : Store} (sound : Sound store) :
    companyDetailsOf store.merchant = none ↔ store.merchant.companyLegalName = none := by
  unfold companyDetailsOf
  cases staged : store.merchant.companyLegalName with
  | none => exact ⟨fun _ => rfl, fun _ => rfl⟩
  | some name =>
    obtain ⟨written, -⟩ := sound.named name staged
    simp [written]

/-- What an answer of the API has once, a later one has too. -/
structure Later (before after : MerchantOnboardingState) : Prop where
  details : after.companyDetails = none → before.companyDetails = none
  decided : after.brandStructure = none → before.brandStructure = none
  brands : before.hasBrands = true → after.hasBrands = true
  complete : before.onboardingComplete = true → after.onboardingComplete = true

theorem later_of_forward {before after : Store} (sound : Sound before)
    (advances : Advances before after) (user : CurrentUser) :
    Later (getMerchantOnboarding user before) (getMerchantOnboarding user after) where
  details := by
    intro gone
    have unnamed := (companyDetailsOf_eq_none advances.1).mp gone
    apply (companyDetailsOf_eq_none sound).mpr
    by_contra named
    have stays := advances.2.named (Option.isSome_iff_ne_none.mpr named)
    rw [unnamed] at stays
    cases stays
  decided := by
    intro undecided
    by_contra decided
    have stays := advances.2.decided (Option.isSome_iff_ne_none.mpr decided)
    rw [show after.merchant.brandStructure = none from undecided] at stays
    cases stays
  brands := by
    intro seen
    have more := advances.2.brands.sublist.countP_le (p := reaches user)
    exact decide_eq_true (Nat.lt_of_lt_of_le (of_decide_eq_true seen) more)
  complete := advances.2.complete

theorem formsLeft_resolveSetupStep {before after : MerchantOnboardingState}
    (later : Later before after) :
    formsLeft (some (resolveSetupStep after)) ≤ formsLeft (some (resolveSetupStep before)) := by
  unfold resolveSetupStep
  cases decided : before.brandStructure with
  | some structure_ =>
    cases now_ : after.brandStructure with
    | some _ => exact Nat.le_refl _
    | none => rw [later.decided now_] at decided; cases decided
  | none =>
    cases after.brandStructure with
    | some _ => dsimp only; split <;> decide
    | none =>
      dsimp only
      by_cases bare : after.companyDetails = none ∧ after.hasBrands = false
      · have before_ : before.companyDetails = none ∧ before.hasBrands = false := by
          refine ⟨later.details bare.1, ?_⟩
          by_contra seen
          rw [later.brands (Bool.eq_true_of_not_eq_false seen)] at bare
          cases bare.2
        rw [if_pos bare, if_pos before_]
      · rw [if_neg bare]
        split <;> decide

theorem formsLeft_mono {before after : MerchantOnboardingState} (later : Later before after)
    (user : CurrentUser) :
    formsLeft (resolveOnboardingStep user after) ≤
      formsLeft (resolveOnboardingStep user before) := by
  unfold resolveOnboardingStep
  by_cases reset : user.mustResetPassword = true
  · rw [if_pos reset, if_pos reset]
  · rw [if_neg reset, if_neg reset]
    by_cases done : after.onboardingComplete = true
    · rw [if_pos done]
      exact Nat.zero_le _
    · rw [if_neg done, if_neg fun was => done (later.complete was)]
      have shown : ∀ merchant, brandSetupSteps.contains (resolveSetupStep merchant) = true := by
        intro merchant
        unfold resolveSetupStep
        split <;> (try split) <;> rfl
      simp only [shown, Bool.true_and]
      cases hasPermission user .brands .write with
      | true => exact formsLeft_resolveSetupStep later
      | false => exact Nat.le_refl _

/-! ## Who may set brands up -/

theorem hasPermission_eq_can (user : CurrentUser) (resource : Resource) (action : Roles.Action) :
    hasPermission user resource action = can user.role resource action := by
  have listed : action ∈ actions := by cases action <;> decide
  rw [Bool.eq_iff_iff, hasPermission, grantsFor, can, List.contains_iff_mem, List.mem_filter]
  exact and_iff_right listed

theorem coversAllBrands_of_write {role : Role} (may : can role .brands .write = true) :
    coversAllBrands role = true := by
  revert may
  cases role <;> decide

theorem resolveSetupStep_decided {user : CurrentUser} {store : Store} {choice : BrandStructure}
    (decided : store.merchant.brandStructure = some choice) :
    resolveSetupStep (getMerchantOnboarding user store) = .multiBrandSetup := by
  rw [resolveSetupStep,
    show (getMerchantOnboarding user store).brandStructure = some choice from decided]

section Permitted

variable {user : CurrentUser} (may : can user.role .brands .write = true)

include may

theorem getMerchantOnboarding_of_write (store : Store) :
    getMerchantOnboarding user store =
      getOnboardingState ⟨store.merchant, store.brands.length⟩ := by
  have all : ∀ brand ∈ store.brands, reaches user brand = true := by
    intro brand _
    rw [reaches, coversAllBrands_of_write may, Bool.true_or]
  rw [getMerchantOnboarding, List.countP_eq_length.mpr all]

theorem stepOf_of_write (changed : user.mustResetPassword = false) (store : Store) :
    stepOf user store = if store.merchant.onboardingComplete then none
      else some (resolveSetupStep (getMerchantOnboarding user store)) := by
  have allowed : hasPermission user .brands .write = true := by rw [hasPermission_eq_can, may]
  unfold stepOf resolveOnboardingStep
  simp only [changed, allowed, Bool.not_true, Bool.and_false, Bool.false_eq_true, if_false]
  rfl

variable (changed : user.mustResetPassword = false) {store : Store}

include changed

theorem stepOf_complete (complete : store.merchant.onboardingComplete = true) :
    stepOf user store = none := by
  rw [stepOf_of_write may changed, if_pos complete]

theorem stepOf_multi (incomplete : store.merchant.onboardingComplete = false)
    (decided : store.merchant.brandStructure = some .multi) :
    stepOf user store = some .multiBrandSetup := by
  rw [stepOf_of_write may changed, incomplete, if_neg Bool.false_ne_true,
    resolveSetupStep_decided decided]

theorem stepOf_ready (sound : Sound store)
    (incomplete : store.merchant.onboardingComplete = false)
    (undecided : store.merchant.brandStructure = none)
    (ready : store.merchant.companyLegalName.isSome = true) :
    stepOf user store = some .brandStructure := by
  have staged : ¬(companyDetailsOf store.merchant = none ∧
      (getMerchantOnboarding user store).hasBrands = false) := by
    intro bare
    rw [(companyDetailsOf_eq_none sound).mp bare.1] at ready
    cases ready
  rw [stepOf_of_write may changed, incomplete, if_neg Bool.false_ne_true, resolveSetupStep,
    show (getMerchantOnboarding user store).brandStructure = none from undecided]
  exact congrArg some (if_neg staged)

theorem of_stepOf {step : OnboardingStep} (shown : stepOf user store = some step) :
    store.merchant.onboardingComplete = false ∧
      step = resolveSetupStep (getMerchantOnboarding user store) := by
  rw [stepOf_of_write may changed] at shown
  cases complete : store.merchant.onboardingComplete with
  | true => rw [complete, if_pos rfl] at shown; cases shown
  | false =>
    rw [complete, if_neg Bool.false_ne_true] at shown
    exact ⟨rfl, (Option.some.inj shown).symm⟩

theorem of_companyDetails (shown : stepOf user store = some .companyDetails) :
    store.merchant.onboardingComplete = false ∧ store.merchant.brandStructure = none := by
  obtain ⟨incomplete, is⟩ := of_stepOf may changed shown
  refine ⟨incomplete, ?_⟩
  cases decided : store.merchant.brandStructure with
  | none => rfl
  | some choice =>
    rw [resolveSetupStep_decided decided] at is
    cases is

theorem of_brandStructure (sound : Sound store)
    (shown : stepOf user store = some .brandStructure) :
    store.merchant.onboardingComplete = false ∧ store.merchant.brandStructure = none ∧
      (store.merchant.companyLegalName.isSome = true ∨ store.brands ≠ []) := by
  obtain ⟨incomplete, is⟩ := of_stepOf may changed shown
  refine ⟨incomplete, ?_⟩
  cases decided : store.merchant.brandStructure with
  | some choice =>
    rw [resolveSetupStep_decided decided] at is
    cases is
  | none =>
    refine ⟨rfl, ?_⟩
    by_contra bare
    rw [not_or, Bool.not_eq_true, Option.isSome_eq_false_iff, Option.isNone_iff_eq_none,
      not_not] at bare
    rw [getMerchantOnboarding_of_write may, bare.2] at is
    have details := (companyDetailsOf_eq_none sound).mpr bare.1
    simp [resolveSetupStep, getOnboardingState, decided, details] at is

theorem of_multiBrandSetup (sound : Sound store)
    (shown : stepOf user store = some .multiBrandSetup) :
    store.merchant.onboardingComplete = false ∧
      store.merchant.brandStructure = some .multi := by
  obtain ⟨incomplete, is⟩ := of_stepOf may changed shown
  refine ⟨incomplete, ?_⟩
  cases decided : store.merchant.brandStructure with
  | some structure_ =>
    cases structure_ with
    | multi => rfl
    | single =>
      rw [sound.single decided] at incomplete
      cases incomplete
  | none =>
    rw [resolveSetupStep,
      show (getMerchantOnboarding user store).brandStructure = none from decided] at is
    dsimp only at is
    split at is <;> cases is

end Permitted

end MultiBrandInvoicing.Onboarding
