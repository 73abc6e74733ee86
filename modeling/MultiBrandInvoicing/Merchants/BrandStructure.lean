import Mathlib.Data.List.Sort
import MultiBrandInvoicing.Ports.PaymentGateway
import MultiBrandInvoicing.ReadCommitted.Journal

/-!
# The choice of a brand structure

`MerchantService.chooseBrandStructure` in `apps/api/src/merchant/merchant.service.ts`: the rows
of one merchant, and the calls that decide between one brand and several.  The route asks for a
role that covers every brand, so a call sees all the brands of its merchant.
-/

set_option autoImplicit false

namespace MultiBrandInvoicing

namespace Merchants

open ReadCommitted Program

inductive BrandStructure where
  | single | multi
  deriving DecidableEq, Repr

inductive BusinessType where
  | soleProprietorship | llc | corporation | partnership | nonprofit
  deriving DecidableEq, Repr

/-- The staged company details of a merchant and what it has decided. -/
structure Merchant where
  companyLegalName : Option String := none
  companyBusinessType : Option BusinessType := none
  companyPhone : Option String := none
  companyEmail : Option String := none
  companyMailingAddress : Option String := none
  companyBillingAddress : Option String := none
  companyTaxId : Option String := none
  companyLogoKey : Option String := none
  brandStructure : Option BrandStructure := none
  onboardingComplete : Bool := false
  deriving DecidableEq, Repr

structure BrandRow where
  id : String
  legalName : String
  displayName : String
  businessType : Option BusinessType
  phone : Option String
  email : Option String
  mailingAddress : Option String
  billingAddress : Option String
  taxId : Option String
  logoKey : Option String
  currency : String
  timezone : String
  themeColor : String
  invoicePrefix : String
  createdAt : Time
  deriving DecidableEq, Repr

structure Store where
  merchant : Merchant
  brands : List BrandRow
  deriving DecidableEq, Repr

inductive RowKey where
  | merchant
  | brand (id : String)
  deriving DecidableEq, Repr

inductive MerchantEffect where
  | decide (brandStructure : BrandStructure) (onboardingComplete : Option Bool)
  | createBrand (row : BrandRow)
  deriving DecidableEq, Repr

inductive MerchantError where
  | badRequest (message : String)
  deriving DecidableEq, Repr

abbrev Tx := Program Store RowKey MerchantEffect MerchantError

namespace MerchantEffect

/-- A new brand's foreign key does not wait for a change of the merchant's other columns. -/
def rows : MerchantEffect → List RowKey
  | decide _ _ => [.merchant]
  | createBrand row => [.brand row.id]

def apply : MerchantEffect → Store → Store
  | decide brandStructure onboardingComplete, store =>
      { store with
        merchant := { store.merchant with
          brandStructure := some brandStructure
          onboardingComplete := onboardingComplete.getD store.merchant.onboardingComplete } }
  | createBrand row, store => { store with brands := store.brands ++ [row] }

end MerchantEffect

def perform (effect : MerchantEffect) : Tx Bool :=
  writeRows effect effect.rows (fun _ => true) effect.apply

structure CreatedBrandSummary where
  id : String
  displayName : String
  deriving DecidableEq, Repr

namespace MerchantService

def summary (brand : BrandRow) : CreatedBrandSummary := ⟨brand.id, brand.displayName⟩

def firstBrand? (store : Store) : Option BrandRow :=
  (store.brands.insertionSort fun one other => one.createdAt ≤ other.createdAt).head?

def brandOf (merchant : Merchant) (id : String) (now : Time) : Option BrandRow :=
  match merchant.companyLegalName, merchant.companyBusinessType with
  | some legalName, some businessType =>
      if legalName = "" then none
      else
        some {
          id
          legalName
          displayName := legalName
          businessType := some businessType
          phone := merchant.companyPhone
          email := merchant.companyEmail
          mailingAddress := merchant.companyMailingAddress
          billingAddress := merchant.companyBillingAddress
          taxId := merchant.companyTaxId
          logoKey := merchant.companyLogoKey
          currency := "USD"
          timezone := "America/New_York"
          themeColor := "#2D6A6A"
          invoicePrefix := "INV"
          createdAt := now }
  | _, _ => none

def createBrand (made : Option BrandRow) : Tx (Option CreatedBrandSummary) :=
  match made with
  | none => .throw (.badRequest "company details must be completed before choosing single brand")
  | some brand => do
      let _ ← perform (.createBrand brand)
      let _ ← perform (.decide .single (some true))
      pure (some (summary brand))

/-- A merchant that has a brand already adopts it. -/
def chooseSingle (merchant : Merchant) (id : String) (now : Time) :
    Tx (Option CreatedBrandSummary) := do
  let store ← read
  match firstBrand? store with
  | some existingBrand => do
      let _ ← perform (.decide .single (some true))
      pure (some (summary existingBrand))
  | none => createBrand (brandOf merchant id now)

def chooseMulti : Tx (Option CreatedBrandSummary) := do
  let _ ← perform (.decide .multi none)
  pure none

def chooseBrandStructure (choice : BrandStructure) (id : String) (now : Time) :
    Tx (Option CreatedBrandSummary) := do
  let store ← read
  match store.merchant.brandStructure with
  | some .single => do
      let later ← read
      pure ((firstBrand? later).map summary)
  | some .multi => pure none
  | none =>
      match choice with
      | .multi => chooseMulti
      | .single => chooseSingle store.merchant id now

theorem firstBrand?_eq_none {store : Store} : firstBrand? store = none ↔ store.brands = [] := by
  have long := List.length_insertionSort
    (fun one other : BrandRow => one.createdAt ≤ other.createdAt) store.brands
  rw [firstBrand?, List.head?_eq_none_iff, ← List.length_eq_zero_iff, long,
    List.length_eq_zero_iff]

end MerchantService

end Merchants

end MultiBrandInvoicing
