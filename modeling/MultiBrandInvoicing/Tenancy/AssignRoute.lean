import MultiBrandInvoicing.Integrations.PullEffects
import MultiBrandInvoicing.Integrations.PulledRows
import MultiBrandInvoicing.Tenancy.AuthorisationGuard

/-!
# The route that assigns a pending record

`POST pending-assignments/:id/assign` in `zoho-webhook.controller.ts`: the guard, the pipes,
`assignPendingRecord`, and the pull it makes under the scope of the brand in the body.  The
candidates are the brands of every merchant that has connected the record's organization.
-/

set_option autoImplicit false

namespace MultiBrandInvoicing

namespace Tenancy

open PulledRows ZohoWebhookService

inductive RouteError where
  | forbidden (message : String)
  | invalid
  | service (error : ServiceError)
  | pull (error : PullError)

structure AssignInput where
  pendingId : String
  brandId : String
  deriving DecidableEq

structure AssignAnswers (ν : Type) where
  token : Promise PullError Unit
  fetched : Promise PullError Unit
  customer : CustomerAnswers
  invoice : InvoiceAnswers ν
  mark : Promise PullError Unit

def assignRequirement : PermissionRequirement where
  resource := .integrations
  action := .write
  brandFrom := some .body
  brandKey := none

/-- The pipes; `isUuid` is the test of `idSchema`. -/
def assignInput (isUuid : String → Bool) (request : Request) : Option AssignInput :=
  match request.params.lookup "id", request.body.lookup "brandId" with
  | some (.text pendingId), some (.text brandId) =>
      if isUuid pendingId && isUuid brandId then some ⟨pendingId, brandId⟩ else none
  | _, _ => none

/-- The connection `buildAccountingConnection` finds, before it asks for a token. -/
def usableConnection (place : Place) : Bool :=
  appBrandVisible place.tables (databaseScopeSettings (.request place.scope)) place.brandId &&
    (place.tables.zohoConnection? place.brandId).any fun row =>
      row.encryptedCredentials.any (· ≠ "") && row.status = .connected

section Numbers

variable {ν : Type} (numbers : ZohoNumbers ν)

def pullNow (tables : BrandTables) (brandId : String) (objectType : ZohoWebhookObjectType)
    (answers : AssignAnswers ν) : Pull Bool :=
  match forBrand tables brandId "zoho-webhook" with
  | none => pure false
  | some scope =>
      let place : Place := ⟨tables, scope, brandId⟩
      if usableConnection place then do
        .call answers.token
        match objectType with
        | .customer => pullOneCustomer numbers place answers.customer
        | .invoice => do
            .call answers.fetched
            pullOneInvoice numbers place answers.invoice
      else pure false

variable (isUuid : String → Bool) (tables : BrandTables)
  (pendings : String → Option PendingBrandAssignment) (scope : RequestScope)

/-- The pending row that the scope sees under an id. -/
def visiblePending (pendingId : String) : Option PendingBrandAssignment :=
  (pendings pendingId).filter (pendingVisible (databaseScopeSettings (.request scope)))

def assign (request : Request) (answers : AssignAnswers ν) : Logged BrandRow RouteError Unit := do
  .ofExcept ((canActivate scope (some assignRequirement) request).mapError .forbidden)
  let input ← .ofExcept ((assignInput isUuid request).elim (.error .invalid) .ok)
  let row ← .ofExcept ((checkAssignment (visiblePending pendings scope input.pendingId)
    tables.candidateBrands input.brandId).mapError .service)
  let _ ← (pullNow numbers tables input.brandId row.objectType answers).mapError .pull
  (Logged.call answers.mark).mapError .pull

/-! ## Inside the tenant -/

def OwnBrand (brandId : String) : Prop :=
  ∃ brand, tables.brand? brandId = some brand ∧ brand.merchantId = scope.merchantId

/-- Every row is one of a brand of the scope's merchant, and of one the scope can reach. -/
def StaysInTenant (writes : List BrandRow) : Prop :=
  ∀ row ∈ writes,
    OwnBrand tables scope row.brandId ∧ canReachBrand (.request scope) row.brandId = true

def jobOf (answers : AssignAnswers ν) : ZohoWebhookObjectType → JobAnswers
  | .customer => answers.customer.job
  | .invoice => answers.invoice.job

structure PullBegins (answers : AssignAnswers ν) (brandId : String)
    (objectType : ZohoWebhookObjectType) : Prop where
  credentials : ((tables.zohoConnection? brandId).any fun row =>
    row.encryptedCredentials.any (· ≠ "") && row.status = .connected) = true
  token : answers.token = .fulfilled ()
  fetched : objectType = .invoice → answers.fetched = .fulfilled ()
  job : (jobOf answers objectType).create = .fulfilled ()

structure Admitted (request : Request) (input : AssignInput) (row : PendingBrandAssignment) :
    Prop where
  guard : canActivate scope (some assignRequirement) request = .ok ()
  parsed : assignInput isUuid request = some input
  assignable : checkAssignment (visiblePending pendings scope input.pendingId)
    tables.candidateBrands input.brandId = .ok row

variable {isUuid tables pendings scope}

theorem mem_recordPull_job {α : Type} {brandId : String} {job : JobAnswers} {work : Pull α}
    {row : BrandRow} (written : row ∈ (recordPull brandId job work).writes) :
    job.create = .fulfilled () := by
  rcases Logged.mem_bind.mp written with first | ⟨_, created, _⟩
  · exact (Logged.mem_write.mp first).1
  · exact created

theorem recordPull_writes {α : Type} (brandId : String) {job : JobAnswers} (work : Pull α)
    (created : job.create = .fulfilled ()) :
    ⟨.syncJob, brandId⟩ ∈ (recordPull brandId job work).writes :=
  Logged.mem_bind.mpr (.inl (Logged.mem_write.mpr ⟨created, rfl⟩))

theorem usableConnection_iff {brandId : String} {system : RequestScope}
    (resolved : forBrand tables brandId "zoho-webhook" = some system) :
    usableConnection ⟨tables, system, brandId⟩ = true ↔
      ((tables.zohoConnection? brandId).any fun row =>
        row.encryptedCredentials.any (· ≠ "") && row.status = .connected) = true := by
  rw [usableConnection, Bool.and_eq_true, forBrand_visible resolved]
  exact and_iff_right rfl

theorem pullNow_only (brandId : String) (objectType : ZohoWebhookObjectType)
    (answers : AssignAnswers ν) :
    Logged.Only (OfBrand brandId) (pullNow numbers tables brandId objectType answers) := by
  unfold pullNow
  split
  next => exact Logged.only_pure false
  next system resolved =>
    dsimp only
    split
    next =>
      refine (Logged.only_call answers.token).bind fun _ => ?_
      cases objectType with
      | customer => exact pullOneCustomer_only numbers ⟨tables, system, brandId⟩ answers.customer
      | invoice =>
          refine (Logged.only_call answers.fetched).bind fun _ => ?_
          exact pullOneInvoice_only numbers ⟨tables, system, brandId⟩ answers.invoice
    next => exact Logged.only_pure false

theorem pullNow_begun {brandId : String} {objectType : ZohoWebhookObjectType}
    {answers : AssignAnswers ν} {row : BrandRow}
    (written : row ∈ (pullNow numbers tables brandId objectType answers).writes) :
    PullBegins tables answers brandId objectType := by
  unfold pullNow at written
  split at written
  next => cases written
  next system resolved =>
    dsimp only at written
    split at written
    next usable =>
      rcases Logged.mem_bind.mp written with none | ⟨_, token, later⟩
      · cases none
      · have credentials := (usableConnection_iff resolved).mp usable
        cases objectType with
        | customer => exact ⟨credentials, token, nofun, mem_recordPull_job later⟩
        | invoice =>
            rcases Logged.mem_bind.mp later with none | ⟨_, fetched, pulled⟩
            · cases none
            · exact ⟨credentials, token, fun _ => fetched, mem_recordPull_job pulled⟩
    next => cases written

theorem pullNow_writes {brandId : String} {objectType : ZohoWebhookObjectType}
    {answers : AssignAnswers ν} {brand : Brand} (found : tables.brand? brandId = some brand)
    (begins : PullBegins tables answers brandId objectType) :
    ⟨.syncJob, brandId⟩ ∈ (pullNow numbers tables brandId objectType answers).writes := by
  cases resolved : forBrand tables brandId "zoho-webhook" with
  | none =>
      rw [forBrand, found] at resolved
      cases resolved
  | some system =>
      have usable := (usableConnection_iff resolved).mpr begins.credentials
      simp only [pullNow, resolved, if_pos usable]
      refine Logged.mem_bind.mpr (.inr ⟨(), begins.token, ?_⟩)
      cases objectType with
      | customer => exact recordPull_writes brandId _ begins.job
      | invoice =>
          refine Logged.mem_bind.mpr (.inr ⟨(), begins.fetched rfl, ?_⟩)
          exact recordPull_writes brandId _ begins.job

theorem mem_ofExcept_bind {ω ε α β : Type} {result : Except ε α} {next : α → Logged ω ε β}
    {row : ω} :
    row ∈ (Logged.ofExcept result >>= next).writes ↔
      ∃ value, result = .ok value ∧ row ∈ (next value).writes := by
  cases result with
  | error error => simp [Logged.ofExcept]
  | ok value => simp [Logged.ofExcept]

theorem mapError_ok {ε φ α : Type} {wrap : ε → φ} {result : Except ε α} {value : α} :
    result.mapError wrap = .ok value ↔ result = .ok value := by
  cases result with
  | error error => simp [Except.mapError]
  | ok other => simp [Except.mapError]

theorem mem_assign {request : Request} {answers : AssignAnswers ν} {row : BrandRow} :
    row ∈ (assign numbers isUuid tables pendings scope request answers).writes ↔
      ∃ input pending, Admitted isUuid tables pendings scope request input pending ∧
        row ∈ (pullNow numbers tables input.brandId pending.objectType answers).writes := by
  unfold assign
  rw [mem_ofExcept_bind]
  constructor
  · rintro ⟨_, guard, written⟩
    obtain ⟨input, parsed, written⟩ := mem_ofExcept_bind.mp written
    obtain ⟨pending, assignable, written⟩ := mem_ofExcept_bind.mp written
    refine ⟨input, pending, ⟨mapError_ok.mp guard, ?_, mapError_ok.mp assignable⟩, ?_⟩
    · cases given : assignInput isUuid request with
      | none =>
          rw [given] at parsed
          cases parsed
      | some other =>
          rw [given] at parsed
          cases parsed
          rfl
    · rcases Logged.mem_bind.mp written with pulled | ⟨_, _, marked⟩
      · exact pulled
      · cases marked
  · rintro ⟨input, pending, admitted, written⟩
    refine ⟨(), mapError_ok.mpr admitted.guard, ?_⟩
    refine mem_ofExcept_bind.mpr ⟨input, by rw [admitted.parsed]; rfl, ?_⟩
    refine mem_ofExcept_bind.mpr ⟨pending, mapError_ok.mpr admitted.assignable, ?_⟩
    exact Logged.mem_bind.mpr (.inl written)

theorem Admitted.reaches {request : Request} {input : AssignInput}
    {pending : PendingBrandAssignment} (uuid : isUuid "" = false)
    (admitted : Admitted isUuid tables pendings scope request input pending) :
    canReachBrand (.request scope) input.brandId = true := by
  refine canActivate_reaches admitted.guard ?_
  have parsed := admitted.parsed
  unfold assignInput at parsed
  split at parsed
  next pendingId brandId _ given =>
    split at parsed
    next valid =>
      cases parsed
      have filled : brandId.isEmpty = false := by
        rw [Bool.and_eq_true] at valid
        by_contra empty
        have blank : brandId = "" := by simpa using empty
        rw [blank, uuid] at valid
        cases valid.2
      simp [resolveBrandId, assignRequirement, brandText, given, filled]
    next => cases parsed
  next => cases parsed

theorem Admitted.brand {request : Request} {input : AssignInput}
    {pending : PendingBrandAssignment}
    (admitted : Admitted isUuid tables pendings scope request input pending) :
    ∃ brand, tables.brand? input.brandId = some brand := by
  obtain ⟨_, _, _, candidate, member, same⟩ := checkAssignment_ok.mp admitted.assignable
  obtain ⟨_, _, _, _, _, brand, found, _⟩ := BrandTables.mem_candidateBrands.mp member
  rw [same] at found
  exact ⟨brand, found⟩

/-- The route stays inside the tenant exactly when no request that comes to a pull names a
brand of another merchant. -/
theorem assign_stays_in_tenant_iff (uuid : isUuid "" = false) (request : Request)
    (answers : AssignAnswers ν) :
    StaysInTenant tables scope
        (assign numbers isUuid tables pendings scope request answers).writes ↔
      ∀ input pending, Admitted isUuid tables pendings scope request input pending →
        PullBegins tables answers input.brandId pending.objectType →
          OwnBrand tables scope input.brandId := by
  constructor
  · intro stays input pending admitted begins
    obtain ⟨brand, found⟩ := admitted.brand
    have written := (mem_assign numbers).mpr
      ⟨input, pending, admitted, pullNow_writes numbers found begins⟩
    exact (stays _ written).1
  · intro own row written
    obtain ⟨input, pending, admitted, pulled⟩ := (mem_assign numbers).mp written
    have same : row.brandId = input.brandId := pullNow_only numbers _ _ answers row pulled
    rw [same]
    exact ⟨own input pending admitted (pullNow_begun numbers pulled), admitted.reaches uuid⟩

/-- Where one merchant has all the connections to an organization, a record of the
organization that the scope sees is assigned to a brand of its merchant. -/
theorem ownBrand_of_one_merchant {request : Request} {input : AssignInput}
    {pending : PendingBrandAssignment}
    (admitted : Admitted isUuid tables pendings scope request input pending)
    (one : ∀ candidate ∈ tables.candidateBrands pending.organizationId,
      candidate.merchantId = pending.merchantId) : OwnBrand tables scope input.brandId := by
  obtain ⟨visible, _, _, candidate, member, same⟩ := checkAssignment_ok.mp admitted.assignable
  obtain ⟨_, _, _, _, _, brand, found, its⟩ := BrandTables.mem_candidateBrands.mp member
  have seen : pendingVisible (databaseScopeSettings (.request scope)) pending = true :=
    (Option.filter_eq_some_iff.mp visible).2
  have own : some scope.merchantId = some pending.merchantId := by
    have merchant : nullIfEmpty scope.merchantId = some pending.merchantId :=
      of_decide_eq_true seen
    unfold nullIfEmpty at merchant
    split at merchant
    next => cases merchant
    next => exact merchant
  rw [same] at found
  exact ⟨brand, found, by rw [its, one candidate member, Option.some.inj own]⟩

end Numbers

/-! ## Two merchants with one organization -/

def sampleBrandId : String := "00000000-0000-4000-8000-000000000001"

def otherBrandId : String := "00000000-0000-4000-8000-000000000002"

def samplePendingId : String := "00000000-0000-4000-8000-000000000003"

def sampleIsUuid (text : String) : Bool := text.length = 36

def sampleConnection (brandId : String) : ZohoConnection where
  brandId := brandId
  status := .connected
  encryptedCredentials := some "sealed"
  organizationId := some "organization"

def sampleTables : BrandTables where
  brands := [⟨sampleBrandId, "first"⟩, ⟨otherBrandId, "second"⟩]
  zohoConnections := [sampleConnection sampleBrandId, sampleConnection otherBrandId]
  ids := by decide
  merchantNamed := by decide
  connectedOnce := by decide
  owned := by decide

def sampleOwner : RequestScope where
  merchantId := "first"
  userId := "user"
  role := .merchantOwner
  assignedBrandIds := []
  sessionId := "session"
  sourceIp := none

def samplePendings (id : String) : Option PendingBrandAssignment :=
  if id = samplePendingId then some {
    merchantId := "first"
    organizationId := "organization"
    objectType := .customer
    remoteId := "contact"
    reason := .newRecordMultiBrand
    status := .pending
    assignedBrandId := none }
  else none

def sampleRequest (brandId : String) : Request where
  params := [("id", .text samplePendingId)]
  query := []
  body := [("brandId", .text brandId)]

def answeringJob : JobAnswers where
  create := .fulfilled ()
  update := .fulfilled ()
  markUnhealthy := .fulfilled ()

def unreadContact : CustomerAnswers where
  job := answeringJob
  contact := .rejected (.integration .transient "timeout")
  existing := .fulfilled none
  transaction := .fulfilled ()

def sampleAnswering : AssignAnswers Int where
  token := .fulfilled ()
  fetched := .fulfilled ()
  customer := unreadContact
  invoice := {
    job := answeringJob
    item := ZohoPullService.sampleItem "sent" "1"
    existing := .fulfilled none
    localCustomer := .fulfilled none
    cascade := unreadContact
    cascadedCustomer := .fulfilled none
    detail := .rejected (.integration .transient "timeout")
    applyDetail := .fulfilled ()
    upsert := .fulfilled () }
  mark := .fulfilled ()

def sampleAssign (brandId : String) : Logged BrandRow RouteError Unit :=
  assign ZohoPullService.sampleDecimals sampleIsUuid sampleTables samplePendings sampleOwner
    (sampleRequest brandId) sampleAnswering

theorem assign_stays_in_tenant_sample :
    StaysInTenant sampleTables sampleOwner (sampleAssign sampleBrandId).writes := by
  refine (assign_stays_in_tenant_iff _ (by decide) _ _).mpr ?_
  intro input pending admitted _
  have given : assignInput sampleIsUuid (sampleRequest sampleBrandId) =
      some ⟨samplePendingId, sampleBrandId⟩ := by decide +kernel
  rw [Option.some.inj (admitted.parsed.symm.trans given)]
  exact ⟨⟨sampleBrandId, "first"⟩, by decide +kernel, rfl⟩

/-- An owner of the first merchant assigns the record to the brand of the second one. -/
theorem assign_leaves_tenant :
    ¬StaysInTenant sampleTables sampleOwner (sampleAssign otherBrandId).writes := by
  intro stays
  have written : ⟨.syncJob, otherBrandId⟩ ∈ (sampleAssign otherBrandId).writes := by
    decide +kernel
  obtain ⟨⟨brand, found, merchant⟩, _⟩ := stays _ written
  have other : sampleTables.brand? otherBrandId = some ⟨otherBrandId, "second"⟩ := by
    decide +kernel
  rw [found] at other
  cases other
  exact absurd merchant (by decide)

end Tenancy

end MultiBrandInvoicing
