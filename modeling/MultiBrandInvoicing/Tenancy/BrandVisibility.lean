import MultiBrandInvoicing.Tenancy.Scopes
import MultiBrandInvoicing.Texts.CommaLists

/-!
# The two readings of a scope

`canReachBrand` reads a scope in the application, `app_brand_visible` reads its session settings
in the database.  Between them the brand ids travel as one text, joined by commas.
-/

set_option autoImplicit false

namespace MultiBrandInvoicing

namespace Tenancy

open Roles Texts

/-- The text that the database prints for a `uuid`. -/
def isUuid (text : String) : Bool :=
  text.toList.length = 36 && text.toList.zipIdx.all fun place =>
    if [8, 13, 18, 23].contains place.2 then place.1 = '-'
    else "0123456789abcdef".toList.contains place.1

theorem isPlain_of_isUuid {text : String} (uuid : isUuid text = true) : IsPlain text := by
  obtain ⟨long, places⟩ := Bool.and_eq_true_iff.mp uuid
  constructor
  · rintro rfl
    revert long
    decide
  · intro comma
    obtain ⟨place, here⟩ := List.mem_iff_getElem?.mp comma
    have member : (',', place) ∈ text.toList.zipIdx := by
      rw [List.mk_mem_zipIdx_iff_getElem?]
      exact here
    have digit := List.all_eq_true.mp places _ member
    split at digit
    next => exact absurd (of_decide_eq_true digit) (by decide : ¬ ',' = '-')
    next =>
      have other : ("0123456789abcdef".toList.contains ',') = false := by decide
      exact Bool.false_ne_true (other.symm.trans digit)

def brandIdsOf : Scope → List String
  | .request scope => scope.assignedBrandIds
  | .publicPayer scope => [scope.brandId]

theorem appMerchantId_databaseScopeSettings {scope : Scope} {merchantId : String}
    (named : merchantId ≠ "") :
    appMerchantId (databaseScopeSettings scope) = some merchantId ↔
      merchantId = (databaseScopeSettings scope).merchantId := by
  unfold appMerchantId nullIfEmpty
  split
  next empty =>
    rw [empty]
    exact ⟨nofun, fun same => absurd same named⟩
  next => exact Option.some_inj.trans eq_comm

/-- What has been joined comes apart again, and no ids at all stay none. -/
theorem appBrandIds_databaseScopeSettings {scope : Scope}
    (plain : ∀ brandId ∈ brandIdsOf scope, IsPlain brandId)
    (narrow : appAllBrands (databaseScopeSettings scope) = false) :
    appBrandIds (databaseScopeSettings scope) = brandIdsOf scope := by
  have apart : ∀ brandIds : List String, (∀ brandId ∈ brandIds, IsPlain brandId) →
      ∀ settings : DatabaseScopeSettings, settings.brandIds = ",".intercalate brandIds →
        appBrandIds settings = brandIds := by
    intro brandIds plain settings joined
    unfold appBrandIds nullIfEmpty
    rw [joined]
    by_cases some_ : brandIds = []
    · subst some_
      rfl
    · rw [if_neg (intercalate_comma_ne_empty plain some_)]
      exact splitOn_intercalate_comma plain some_
  cases scope with
  | publicPayer scope => exact apart [scope.brandId] plain _ rfl
  | request scope =>
      refine apart scope.assignedBrandIds plain _ (if_neg ?_)
      intro covers
      simp [appAllBrands, databaseScopeSettings, covers, nullIfEmpty] at narrow

theorem canReachBrand_iff {scope : Scope} {brandId : String} :
    canReachBrand scope brandId = true ↔
      appAllBrands (databaseScopeSettings scope) = true ∨ brandId ∈ brandIdsOf scope := by
  cases scope with
  | publicPayer scope =>
      simp [canReachBrand, readableBrandIds, appAllBrands, databaseScopeSettings, nullIfEmpty,
        brandIdsOf]
  | request scope =>
      cases covers : coversAllBrands scope.role with
      | true =>
          simp [canReachBrand, readableBrandIds, appAllBrands, databaseScopeSettings, nullIfEmpty,
            covers]
      | false =>
          simp [canReachBrand, readableBrandIds, appAllBrands, databaseScopeSettings, nullIfEmpty,
            covers, brandIdsOf]

theorem owner_iff {tables : BrandTables} {brand : Brand} (member : brand ∈ tables.brands)
    {merchantId : String} :
    (tables.brands.any fun other =>
        other.id = brand.id && other.merchantId = merchantId) = true ↔
      brand.merchantId = merchantId := by
  simp only [List.any_eq_true, Bool.and_eq_true, decide_eq_true_eq]
  constructor
  · rintro ⟨other, listed, same, owner⟩
    rw [← List.inj_on_of_nodup_map tables.ids listed member same]
    exact owner
  · exact fun owner => ⟨brand, member, rfl, owner⟩

/-- Row-level security shows a brand under a scope's session settings just when it is one of
the scope's merchant and the scope can reach it. -/
theorem appBrandVisible_iff_plain (tables : BrandTables) (scope : Scope)
    (plain : ∀ brandId ∈ brandIdsOf scope, IsPlain brandId) {brand : Brand}
    (member : brand ∈ tables.brands) :
    appBrandVisible tables (databaseScopeSettings scope) brand.id = true ↔
      brand.merchantId = (databaseScopeSettings scope).merchantId ∧
        canReachBrand scope brand.id = true := by
  rw [canReachBrand_iff, ← appMerchantId_databaseScopeSettings
    (tables.merchantNamed brand member)]
  unfold appBrandVisible
  cases merchant : appMerchantId (databaseScopeSettings scope) with
  | none => simp
  | some merchantId =>
      rw [Bool.and_eq_true, owner_iff member, Option.some_inj, eq_comm]
      refine and_congr_right fun _ => ?_
      cases all : appAllBrands (databaseScopeSettings scope) with
      | true => simp
      | false => simp [appBrandIds_databaseScopeSettings plain all]

def merchantOf : Scope → String
  | .request scope => scope.merchantId
  | .publicPayer scope => scope.merchantId

/-- The application and the database read a scope alike. -/
theorem scopes_agree (tables : BrandTables) (scope : Scope)
    (uuids : ∀ brandId ∈ brandIdsOf scope, isUuid brandId = true) :
    ∀ brand ∈ tables.brands,
      appBrandVisible tables (databaseScopeSettings scope) brand.id = true ↔
        brand.merchantId = merchantOf scope ∧ canReachBrand scope brand.id = true := by
  intro brand member
  have same : (databaseScopeSettings scope).merchantId = merchantOf scope := by
    cases scope <;> rfl
  rw [← same]
  exact appBrandVisible_iff_plain tables scope
    (fun brandId listed => isPlain_of_isUuid (uuids brandId listed)) member

def sampleBrandScope : RequestScope where
  merchantId := "m"
  userId := "u"
  role := .brandAdmin
  assignedBrandIds :=
    ["3f2504e0-4f89-41d3-9a0c-0305e82c3301", "9b2d5b1c-2f7e-4c6b-8d7a-1c2e3f405162"]
  sessionId := "s"
  sourceIp := none

def sampleBrandTables : BrandTables where
  brands := [
    ⟨"3f2504e0-4f89-41d3-9a0c-0305e82c3301", "m"⟩,
    ⟨"9b2d5b1c-2f7e-4c6b-8d7a-1c2e3f405162", "m"⟩,
    ⟨"c56a4180-65aa-42ec-a945-5fd21dec0538", "m"⟩]
  zohoConnections := []
  ids := by decide
  merchantNamed := by decide
  connectedOnce := List.nodup_nil
  owned := by simp

theorem scopes_agree_sample :
    appBrandVisible sampleBrandTables (databaseScopeSettings (.request sampleBrandScope))
        "9b2d5b1c-2f7e-4c6b-8d7a-1c2e3f405162" = true ∧
      ¬appBrandVisible sampleBrandTables (databaseScopeSettings (.request sampleBrandScope))
        "c56a4180-65aa-42ec-a945-5fd21dec0538" = true := by
  have uuids : ∀ brandId ∈ brandIdsOf (.request sampleBrandScope), isUuid brandId = true := by
    decide
  have agree := scopes_agree sampleBrandTables (.request sampleBrandScope) uuids
  constructor
  · exact (agree ⟨"9b2d5b1c-2f7e-4c6b-8d7a-1c2e3f405162", "m"⟩ (by decide)).mpr (by decide)
  · rw [agree ⟨"c56a4180-65aa-42ec-a945-5fd21dec0538", "m"⟩ (by decide)]
    decide

end Tenancy

end MultiBrandInvoicing
