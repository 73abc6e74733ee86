import Mathlib.Data.List.Nodup
import MultiBrandInvoicing.Integrations.StripeAccounts
import MultiBrandInvoicing.Persistence.Statements

/-!
# Records that wait for a brand

`candidateBrands`, `recordForManualReview` and the checks of `assignPendingRecord` in
`apps/api/src/integrations/zoho-webhook.service.ts`.  The payload of a delivery is stored to be
shown and takes no part in any decision; it is left out.
-/

set_option autoImplicit false

namespace MultiBrandInvoicing

inductive ZohoWebhookObjectType where
  | customer | invoice
  deriving DecidableEq, Repr

inductive PendingAssignmentStatus where
  | pending | assigned
  deriving DecidableEq, Repr

inductive PendingAssignmentReason where
  | newRecordMultiBrand | orphanedUpdate
  deriving DecidableEq, Repr

structure Brand where
  id : String
  merchantId : String
  deriving DecidableEq, Repr

/-- A row of `integration_connection` with provider `ZOHO_BOOKS`; of its `config` only the
organization is read here. -/
structure ZohoConnection where
  brandId : String
  status : ConnectionStatus
  encryptedCredentials : Option String
  organizationId : Option String
  deriving DecidableEq, Repr

/-- The brands of all merchants and their connections to Zoho, under the primary key, the
unique index and the foreign keys; ids are never empty. -/
structure BrandTables where
  brands : List Brand
  zohoConnections : List ZohoConnection
  ids : (brands.map Brand.id).Nodup
  merchantNamed : ∀ brand ∈ brands, brand.merchantId ≠ ""
  connectedOnce : (zohoConnections.map ZohoConnection.brandId).Nodup
  owned : ∀ row ∈ zohoConnections, ∃ brand ∈ brands, brand.id = row.brandId

structure CandidateBrand where
  brandId : String
  merchantId : String
  deriving DecidableEq, Repr

structure PendingBrandAssignment where
  merchantId : String
  organizationId : String
  objectType : ZohoWebhookObjectType
  remoteId : String
  reason : PendingAssignmentReason
  status : PendingAssignmentStatus
  assignedBrandId : Option String
  deriving DecidableEq, Repr

namespace BrandTables

variable (tables : BrandTables)

def brand? (brandId : String) : Option Brand := tables.brands.find? fun brand => brand.id = brandId

def zohoConnection? (brandId : String) : Option ZohoConnection :=
  tables.zohoConnections.find? fun row => row.brandId = brandId

/-- A brand whose connection is to the organization, whoever the brand belongs to. -/
def candidateBrands (organizationId : String) : List CandidateBrand :=
  (tables.zohoConnections.filter fun row =>
    row.status = .connected && row.organizationId = some organizationId).filterMap fun row =>
      (tables.brand? row.brandId).map fun brand => ⟨row.brandId, brand.merchantId⟩

variable {tables}

theorem brand?_eq_some {brandId : String} {brand : Brand} :
    tables.brand? brandId = some brand ↔ brand ∈ tables.brands ∧ brand.id = brandId := by
  constructor
  · intro found
    exact ⟨List.mem_of_find?_eq_some found, by simpa using List.find?_some found⟩
  · rintro ⟨member, rfl⟩
    cases found : tables.brand? brand.id with
    | none =>
        have missing := List.find?_eq_none.mp found brand member
        simp at missing
    | some other =>
        have same : other.id = brand.id := by simpa using List.find?_some found
        have stored := List.mem_of_find?_eq_some found
        have one := List.inj_on_of_nodup_map tables.ids stored member same
        rw [one]

theorem mem_candidateBrands {organizationId : String} {candidate : CandidateBrand} :
    candidate ∈ tables.candidateBrands organizationId ↔
      ∃ row ∈ tables.zohoConnections, row.status = .connected ∧
        row.organizationId = some organizationId ∧ row.brandId = candidate.brandId ∧
          ∃ brand, tables.brand? candidate.brandId = some brand ∧
            brand.merchantId = candidate.merchantId := by
  simp only [candidateBrands, List.mem_filterMap, List.mem_filter, Bool.and_eq_true,
    decide_eq_true_eq, Option.map_eq_some_iff]
  constructor
  · rintro ⟨row, ⟨member, status, organization⟩, brand, found, rfl⟩
    exact ⟨row, member, status, organization, rfl, brand, found, rfl⟩
  · rintro ⟨row, member, status, organization, same, brand, found, merchant⟩
    refine ⟨row, ⟨member, status, organization⟩, brand, ?_, ?_⟩
    · rw [same]
      exact found
    · rw [same, merchant]

end BrandTables

namespace ZohoWebhookService

/-- `recordForManualReview` on the row that the unique index allows for the record.  Without a
candidate there is no merchant to attribute a row to. -/
def recordForManualReview (objectType : ZohoWebhookObjectType) (organizationId remoteId : String)
    (reason : PendingAssignmentReason) (candidates : List CandidateBrand)
    (existing : Option PendingBrandAssignment) : Option PendingBrandAssignment :=
  match candidates.head? with
  | none => existing
  | some known =>
      match existing with
      | none => some {
          merchantId := known.merchantId
          organizationId
          objectType
          remoteId
          reason
          status := .pending
          assignedBrandId := none }
      | some row => some { row with reason, status := .pending }

def checkAssignment (pending : Option PendingBrandAssignment)
    (candidateBrands : String → List CandidateBrand) (brandId : String) :
    Except ServiceError PendingBrandAssignment :=
  match pending with
  | none => .error (.notFound "pending assignment not found")
  | some row =>
      if row.status ≠ .pending then .error (.notFound "pending assignment not found")
      else if row.reason ≠ .newRecordMultiBrand then
        .error (.badRequest "only a new-record assignment can be resolved this way")
      else if (candidateBrands row.organizationId).any (·.brandId = brandId) then .ok row
      else .error (.badRequest "that brand is not connected to this Zoho organization")

def markAssigned (brandId : String) (row : PendingBrandAssignment) : PendingBrandAssignment :=
  { row with status := .assigned, assignedBrandId := some brandId }

theorem recordForManualReview_pending {objectType : ZohoWebhookObjectType}
    {organizationId remoteId : String} {reason : PendingAssignmentReason}
    {candidates : List CandidateBrand} {existing : Option PendingBrandAssignment}
    {row : PendingBrandAssignment}
    (recorded : recordForManualReview objectType organizationId remoteId reason candidates
      existing = some row) :
    existing = some row ∨ row.status = .pending := by
  unfold recordForManualReview at recorded
  split at recorded
  next => exact .inl recorded
  next known first =>
    split at recorded
    next => exact .inr (by rw [← Option.some.inj recorded])
    next => exact .inr (by rw [← Option.some.inj recorded])

theorem checkAssignment_ok {pending : Option PendingBrandAssignment}
    {candidateBrands : String → List CandidateBrand} {brandId : String}
    {row : PendingBrandAssignment} :
    checkAssignment pending candidateBrands brandId = .ok row ↔
      pending = some row ∧ row.status = .pending ∧ row.reason = .newRecordMultiBrand ∧
        ∃ candidate ∈ candidateBrands row.organizationId, candidate.brandId = brandId := by
  unfold checkAssignment
  constructor
  · intro passed
    split at passed
    next => cases passed
    next found =>
      split at passed
      next => cases passed
      next status =>
        split at passed
        next => cases passed
        next reason =>
          split at passed
          next connected =>
            cases passed
            exact ⟨rfl, not_not.mp status, not_not.mp reason, by simpa using connected⟩
          next => cases passed
  · rintro ⟨rfl, status, reason, connected⟩
    simp only [status, reason, ne_eq, not_true_eq_false, if_false]
    rw [if_pos (by simpa using connected)]

end ZohoWebhookService

end MultiBrandInvoicing
