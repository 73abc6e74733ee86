import MultiBrandInvoicing.Merchants.BrandStructure
import MultiBrandInvoicing.Tables.Updates

/-!
# The company details of a merchant

`getOnboardingState` and `setCompanyDetails` of `apps/api/src/merchant/merchant.service.ts`, with
all the columns of the merchant that they read and write.  An address that is null is handed to
the database client as undefined, which leaves the column as it is.
-/

set_option autoImplicit false

namespace MultiBrandInvoicing

namespace CompanyDetails

open Records Merchants

structure Address where
  line1 : Option String
  line2 : Option String
  city : Option String
  region : Option String
  postalCode : Option String
  country : Option String
  deriving DecidableEq, Repr

/-- What a column of JSON may hold: nothing enforces that it is an address. -/
inductive JsonValue where
  | null
  | address (value : Address)
  | other (text : String)
  deriving DecidableEq, Repr

structure MerchantRow where
  companyLegalName : Option String
  companyDba : Option String
  companyBusinessType : Option BusinessType
  companyPhone : Option String
  companyEmail : Option String
  companyWebsite : Option String
  companyMailingAddress : Option JsonValue
  companyBillingAddress : Option JsonValue
  companyTaxId : Option String
  companyLogoKey : Option String
  brandStructure : Option BrandStructure
  onboardingComplete : Bool
  updatedAt : Time
  deriving DecidableEq, Repr

structure Store where
  merchant : MerchantRow
  brandCount : Nat
  deriving DecidableEq, Repr

/-! ## Reading -/

structure CompanyDetailsView where
  legalName : String
  dba : Option String
  businessType : String
  phone : Option String
  email : Option String
  website : Option String
  mailingAddress : JsonValue
  billingAddress : JsonValue
  taxId : Option String
  hasLogo : Bool
  deriving DecidableEq, Repr

structure MerchantOnboardingState where
  companyDetails : Option CompanyDetailsView
  brandStructure : Option BrandStructure
  hasBrands : Bool
  onboardingComplete : Bool
  deriving DecidableEq, Repr

def businessTypeCode : BusinessType → String
  | .soleProprietorship => "SOLE_PROPRIETORSHIP"
  | .llc => "LLC"
  | .corporation => "CORPORATION"
  | .partnership => "PARTNERSHIP"
  | .nonprofit => "NONPROFIT"

/-- The null of the database and the null of JSON read the same. -/
def readJson (column : Option JsonValue) : JsonValue := column.getD .null

def companyDetailsOf (merchant : MerchantRow) : Option CompanyDetailsView :=
  match merchant.companyLegalName with
  | none => none
  | some legalName =>
      if legalName = "" then none
      else some {
        legalName
        dba := merchant.companyDba
        businessType := (merchant.companyBusinessType.map businessTypeCode).getD ""
        phone := merchant.companyPhone
        email := merchant.companyEmail
        website := merchant.companyWebsite
        mailingAddress := readJson merchant.companyMailingAddress
        billingAddress := readJson merchant.companyBillingAddress
        taxId := merchant.companyTaxId
        hasLogo := merchant.companyLogoKey.isSome }

def getOnboardingState (store : Store) : MerchantOnboardingState where
  companyDetails := companyDetailsOf store.merchant
  brandStructure := store.merchant.brandStructure
  hasBrands := 0 < store.brandCount
  onboardingComplete := store.merchant.onboardingComplete

/-! ## Writing -/

/-- What `companyDetailsSchema` has accepted.  Of its checks only the one on the legal name
matters here. -/
structure CompanyDetailsInput where
  legalName : String
  named : legalName ≠ ""
  dba : Option String
  businessType : BusinessType
  phone : Option String
  email : Option String
  website : Option String
  mailingAddress : Option Address
  billingAddress : Option Address
  taxId : Option String

def addressUpdate (address : Option Address) : Update (Option JsonValue) :=
  Update.orUndefined ((address.map JsonValue.address).map some)

def setCompanyDetails (input : CompanyDetailsInput) (now : Time) (store : Store) : Store :=
  { store with
    merchant := { store.merchant with
      companyLegalName := some input.legalName
      companyDba := input.dba
      companyBusinessType := some input.businessType
      companyPhone := input.phone
      companyEmail := input.email
      companyWebsite := input.website
      companyMailingAddress :=
        (addressUpdate input.mailingAddress).write store.merchant.companyMailingAddress
      companyBillingAddress :=
        (addressUpdate input.billingAddress).write store.merchant.companyBillingAddress
      companyTaxId := input.taxId
      updatedAt := now } }

/-! ## Reading back what was written -/

def addressJson (address : Option Address) : JsonValue :=
  (address.map JsonValue.address).getD .null

structure ShowsInput (details : CompanyDetailsView) (input : CompanyDetailsInput) : Prop where
  legalName : details.legalName = input.legalName
  dba : details.dba = input.dba
  businessType : details.businessType = businessTypeCode input.businessType
  phone : details.phone = input.phone
  email : details.email = input.email
  website : details.website = input.website
  mailingAddress : details.mailingAddress = addressJson input.mailingAddress
  billingAddress : details.billingAddress = addressJson input.billingAddress
  taxId : details.taxId = input.taxId

/-- What the database client does to a row when nothing is new. -/
def Store.touched (store : Store) (now : Time) : Store :=
  { store with merchant := { store.merchant with updatedAt := now } }

theorem setCompanyDetails_repeated (input : CompanyDetailsInput) (now later : Time)
    (store : Store) :
    setCompanyDetails input later (setCompanyDetails input now store) =
      (setCompanyDetails input now store).touched later := by
  simp [setCompanyDetails, Store.touched]

theorem getOnboardingState_touched (store : Store) (now : Time) :
    getOnboardingState (store.touched now) = getOnboardingState store := rfl

theorem readJson_addressUpdate_iff (address : Option Address) (stored : Option JsonValue) :
    readJson ((addressUpdate address).write stored) = addressJson address ↔
      address.isSome = true ∨ readJson stored = .null := by
  have reads := Update.read_write_iff readJson (address.map JsonValue.address) stored
  rw [Option.isSome_map] at reads
  exact reads

def shownAfter (input : CompanyDetailsInput) (merchant : MerchantRow) : CompanyDetailsView where
  legalName := input.legalName
  dba := input.dba
  businessType := businessTypeCode input.businessType
  phone := input.phone
  email := input.email
  website := input.website
  mailingAddress := readJson
    ((addressUpdate input.mailingAddress).write merchant.companyMailingAddress)
  billingAddress := readJson
    ((addressUpdate input.billingAddress).write merchant.companyBillingAddress)
  taxId := input.taxId
  hasLogo := merchant.companyLogoKey.isSome

theorem companyDetails_set (input : CompanyDetailsInput) (now : Time) (store : Store) :
    (getOnboardingState (setCompanyDetails input now store)).companyDetails =
      some (shownAfter input store.merchant) := by
  simp only [getOnboardingState, companyDetailsOf, setCompanyDetails, if_neg input.named]
  rfl

theorem showsInput_shownAfter_iff (input : CompanyDetailsInput) (merchant : MerchantRow) :
    ShowsInput (shownAfter input merchant) input ↔
      (input.mailingAddress.isSome = true ∨
          readJson merchant.companyMailingAddress = .null) ∧
        (input.billingAddress.isSome = true ∨
          readJson merchant.companyBillingAddress = .null) := by
  rw [← readJson_addressUpdate_iff, ← readJson_addressUpdate_iff]
  constructor
  · intro shows
    exact ⟨shows.mailingAddress, shows.billingAddress⟩
  · intro ⟨mailing, billing⟩
    exact ⟨rfl, rfl, rfl, rfl, rfl, rfl, mailing, billing, rfl⟩

/-- The details are read back as they were written, and writing them again changes nothing. -/
structure ReadsBack (input : CompanyDetailsInput) (now later : Time) (store : Store) : Prop where
  shown : ∃ details, (getOnboardingState (setCompanyDetails input now store)).companyDetails =
    some details ∧ ShowsInput details input
  repeated : setCompanyDetails input later (setCompanyDetails input now store) =
    (setCompanyDetails input now store).touched later
  stable : getOnboardingState (setCompanyDetails input later (setCompanyDetails input now store)) =
    getOnboardingState (setCompanyDetails input now store)

/-- The details are read back exactly if no address is null that has a stored one to clear. -/
theorem companyDetails_read_back_iff (input : CompanyDetailsInput) (now later : Time)
    (store : Store) :
    ReadsBack input now later store ↔
      (input.mailingAddress.isSome = true ∨
          readJson store.merchant.companyMailingAddress = .null) ∧
        (input.billingAddress.isSome = true ∨
          readJson store.merchant.companyBillingAddress = .null) := by
  rw [← showsInput_shownAfter_iff]
  have again := setCompanyDetails_repeated input now later store
  constructor
  · intro back
    obtain ⟨details, shown, shows⟩ := back.shown
    rw [companyDetails_set, Option.some.injEq] at shown
    rwa [shown]
  · intro shows
    exact {
      shown := ⟨_, companyDetails_set input now store, shows⟩
      repeated := again
      stable := by rw [again, getOnboardingState_touched] }

def sampleAddress : Address where
  line1 := some "1 Main St"
  line2 := none
  city := some "Albany"
  region := some "NY"
  postalCode := some "12207"
  country := some "US"

def sampleStore : Store where
  merchant := {
    companyLegalName := some "Acme"
    companyDba := some "Acme Stores"
    companyBusinessType := some .llc
    companyPhone := none
    companyEmail := none
    companyWebsite := none
    companyMailingAddress := some (.address sampleAddress)
    companyBillingAddress := none
    companyTaxId := none
    companyLogoKey := none
    brandStructure := none
    onboardingComplete := false
    updatedAt := 0 }
  brandCount := 0

def sampleInput : CompanyDetailsInput where
  legalName := "Acme"
  named := by decide
  dba := none
  businessType := .llc
  phone := none
  email := none
  website := none
  mailingAddress := none
  billingAddress := none
  taxId := none

/-- The trading name is cleared and the address stays. -/
theorem cleared_address_survives :
    (getOnboardingState (setCompanyDetails sampleInput 5 sampleStore)).companyDetails.map
          (fun details => (details.dba, details.mailingAddress)) =
        some (none, .address sampleAddress) ∧
      ¬∃ details, (getOnboardingState
          (setCompanyDetails sampleInput 5 sampleStore)).companyDetails = some details ∧
        ShowsInput details sampleInput := by
  refine ⟨by decide +kernel, ?_⟩
  intro ⟨details, shown, shows⟩
  rw [companyDetails_set, Option.some.injEq] at shown
  have mailing := shows.mailingAddress
  rw [← shown] at mailing
  exact absurd mailing (by decide +kernel)

end CompanyDetails

end MultiBrandInvoicing
