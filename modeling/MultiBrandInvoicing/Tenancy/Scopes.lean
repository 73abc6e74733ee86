import MultiBrandInvoicing.Integrations.PendingAssignments
import MultiBrandInvoicing.Tenancy.Roles

/-!
# Scopes and the rows they see

The scope of a request (`packages/shared/src/tenancy.ts`), the session settings it turns into,
the row-level security that reads these (`20260727180200_rls_and_grants/migration.sql`), and
the scope of work that has no session behind it (`apps/api/src/tenancy/system-scope.ts`).  Ids
are texts of UUIDs, and the cast to `uuid` is the identity on them.
-/

set_option autoImplicit false

namespace MultiBrandInvoicing

namespace Tenancy

open Roles

structure RequestScope where
  merchantId : String
  userId : String
  role : Role
  assignedBrandIds : List String
  sessionId : String
  sourceIp : Option String

/-- The anonymous public payment path. -/
structure PublicScope where
  merchantId : String
  brandId : String
  invoiceId : String
  sourceIp : Option String

inductive Scope where
  | request (scope : RequestScope)
  | publicPayer (scope : PublicScope)

/-- No list means every brand in the merchant. -/
def readableBrandIds : Scope → Option (List String)
  | .publicPayer scope => some [scope.brandId]
  | .request scope => if coversAllBrands scope.role then none else some scope.assignedBrandIds

def canReachBrand (scope : Scope) (brandId : String) : Bool :=
  match readableBrandIds scope with
  | none => true
  | some brands => brands.contains brandId

structure DatabaseScopeSettings where
  merchantId : String
  brandIds : String
  userId : String
  allBrands : String

def databaseScopeSettings : Scope → DatabaseScopeSettings
  | .publicPayer scope => {
      merchantId := scope.merchantId
      brandIds := scope.brandId
      userId := ""
      allBrands := "off" }
  | .request scope => {
      merchantId := scope.merchantId
      brandIds :=
        if coversAllBrands scope.role then "" else ",".intercalate scope.assignedBrandIds
      userId := scope.userId
      allBrands := if coversAllBrands scope.role then "on" else "off" }

/-! ## Row-level security -/

def nullIfEmpty (text : String) : Option String := if text = "" then none else some text

def appMerchantId (settings : DatabaseScopeSettings) : Option String :=
  nullIfEmpty settings.merchantId

def appAllBrands (settings : DatabaseScopeSettings) : Bool :=
  (nullIfEmpty settings.allBrands).getD "off" = "on"

def appBrandIds (settings : DatabaseScopeSettings) : List String :=
  match nullIfEmpty settings.brandIds with
  | none => []
  | some ids => ids.splitOn ","

def appBrandVisible (tables : BrandTables) (settings : DatabaseScopeSettings) (target : String) :
    Bool :=
  match appMerchantId settings with
  | none => false
  | some merchantId =>
      (tables.brands.any fun brand => brand.id = target && brand.merchantId = merchantId) &&
        (appAllBrands settings || (appBrandIds settings).contains target)

/-- The policy of `pending_brand_assignment`, which has no brand. -/
def pendingVisible (settings : DatabaseScopeSettings) (row : PendingBrandAssignment) : Bool :=
  appMerchantId settings = some row.merchantId

/-! ## Work without a session -/

def forBrand (tables : BrandTables) (brandId actor : String) : Option RequestScope :=
  (tables.brand? brandId).map fun brand => {
    merchantId := brand.merchantId
    userId := s!"system:{actor}"
    role := .merchantOwner
    assignedBrandIds := []
    sessionId := s!"system:{actor}"
    sourceIp := none }

theorem forBrand_visible {tables : BrandTables} {brandId actor : String} {scope : RequestScope}
    (resolved : forBrand tables brandId actor = some scope) :
    appBrandVisible tables (databaseScopeSettings (.request scope)) brandId = true := by
  obtain ⟨brand, found, rfl⟩ := Option.map_eq_some_iff.mp resolved
  obtain ⟨member, id⟩ := BrandTables.brand?_eq_some.mp found
  simp only [appBrandVisible, databaseScopeSettings, appMerchantId, nullIfEmpty,
    if_neg (tables.merchantNamed brand member), appAllBrands, Bool.and_eq_true, List.any_eq_true]
  exact ⟨⟨brand, member, by simp [id]⟩, rfl⟩

end Tenancy

end MultiBrandInvoicing
