import MultiBrandInvoicing.Integrations.StripeAccounts
import MultiBrandInvoicing.Lifecycle.DeliveryOrder
import MultiBrandInvoicing.Lifecycle.Ordering

/-!
# Whose event it is

The signature of a shared endpoint says nothing about the brand.  `handleWebhook` asks
the gateway for the brand of the account an event names, and refuses a payment of another
brand; but an event that names no account falls back on the brand of the path.
-/

set_option autoImplicit false

namespace MultiBrandInvoicing

open ReadCommitted PaymentsService

section Soundness

variable {π : Type} {gateway : PaymentGatewayPort π} {rawBody : π}
  {headers : List (String × String)} {brandId : Option String} {event : GatewayWebhookEvent}
  {store : Store}

/-- The event names an account, that account resolves to a brand, and the payment is that
brand's. -/
def AttributedTo (resolve : GatewayWebhookEvent → Option String) (event : GatewayWebhookEvent)
    (payment : Payment) : Prop :=
  ∃ account brand, event.accountRef = some account ∧ account ≠ "" ∧
    resolve event = some brand ∧ payment.brandId = brand

/-- A payment or the invoice changes only where the event is attributed to the payment. -/
structure ChangesAttributed (resolve : GatewayWebhookEvent → Option String)
    (event : GatewayWebhookEvent) (store next : Store) : Prop where
  payments : ∀ payment ∈ store.payments.rows, payment ∉ next.payments.rows →
    AttributedTo resolve event payment
  added : next.payments.rows.length = store.payments.rows.length
  invoice : next.invoice ≠ store.invoice → ∃ payment ∈ store.payments.rows,
    payment.gatewayReference = some event.gatewayReference ∧ AttributedTo resolve event payment

/-- The event, taken as one of this brand or of none, is applied to the payment. -/
def AppliesTo (brandId : Option String) (event : GatewayWebhookEvent) (payment : Payment) :
    Prop :=
  payment.gatewayReference = some event.gatewayReference ∧ ownedBy brandId payment = true ∧
    event.type ≠ .unknown ∧ isStale payment event = false

def NamesAccount (event : GatewayWebhookEvent) : Prop :=
  ∃ account, event.accountRef = some account ∧ account ≠ ""

theorem attributedBrandId_of_unnamed (nameless : ¬NamesAccount event) :
    attributedBrandId gateway event brandId = some brandId := by
  have empty : event.accountRef.filter (· ≠ "") = none := by
    simpa [NamesAccount, Option.filter_eq_none_iff] using nameless
  cases resolver : gateway.resolveBrandId <;> simp only [attributedBrandId, resolver, empty]

theorem attributedTo_of_owned {resolve : GatewayWebhookEvent → Option String}
    (resolves : gateway.resolveBrandId = some resolve) (names : NamesAccount event)
    {attributed : Option String} {payment : Payment}
    (attribution : attributedBrandId gateway event brandId = some attributed)
    (owned : ownedBy attributed payment = true) : AttributedTo resolve event payment := by
  obtain ⟨account, named, filled⟩ := names
  simp only [attributedBrandId, resolves, named, Option.filter_some, ne_eq, filled,
    not_false_eq_true, decide_true, if_true, Option.map_eq_some_iff, Option.filter_eq_some_iff,
    decide_eq_true_eq] at attribution
  obtain ⟨brand, ⟨resolved, brandFilled⟩, rfl⟩ := attribution
  exact ⟨account, brand, named, filled, resolved, by simpa [ownedBy, brandFilled] using owned⟩

theorem ChangesAttributed.refl (resolve : GatewayWebhookEvent → Option String)
    (event : GatewayWebhookEvent) (store : Store) : ChangesAttributed resolve event store store where
  payments := fun _ member gone => absurd member gone
  added := rfl
  invoice := fun changed => absurd rfl changed

theorem changesAttributed_apply {resolve : GatewayWebhookEvent → Option String}
    {result : GatewayResult} (about : About store result)
    (named : result.payment.gatewayReference = some event.gatewayReference)
    (attributed : AttributedTo resolve event result.payment) :
    ChangesAttributed resolve event store (store.apply result) where
  payments := by
    intro payment member gone
    by_cases same : payment.id = result.payment.id
    · rwa [eq_of_id member about.member same]
    · have kept : payment ∈ (store.apply result).payments.rows := by
        rw [apply_rows]
        exact List.mem_map.mpr ⟨payment, member, if_neg same⟩
      exact absurd kept gone
  added := by rw [apply_rows, List.length_map]
  invoice := fun _ => ⟨result.payment, about.member, named, attributed⟩

theorem authenticEvent?_of_parsed
    (verified : gateway.verifySignature rawBody headers brandId = true)
    (parsed : gateway.parseWebhook rawBody brandId = .ok event) :
    authenticEvent? gateway rawBody headers brandId =
      (attributedBrandId gateway event brandId).map fun attributed => (event, attributed) := by
  cases attribution : attributedBrandId gateway event brandId <;>
    simp [authenticEvent?, verified, parsed, attribution, Except.toOption]

theorem appliesTo_of_result (verified : gateway.verifySignature rawBody headers brandId = true)
    (parsed : gateway.parseWebhook rawBody brandId = .ok event) {result : GatewayResult}
    (brings : webhookResult? gateway store rawBody headers brandId = some result) :
    ∃ attributed, attributedBrandId gateway event brandId = some attributed ∧
      AppliesTo attributed event result.payment := by
  simp only [webhookResult?, authenticEvent?_of_parsed verified parsed, Option.bind_eq_bind,
    Option.bind_eq_some_iff, Option.map_eq_some_iff] at brings
  obtain ⟨_, ⟨attributed, attribution, rfl⟩, payment, found, _, guarded, same⟩ := brings
  cases same
  simp only [Option.guard_eq_some', Bool.and_eq_true, Bool.not_eq_true', decide_eq_true_eq]
    at guarded
  have named : payment.gatewayReference = some event.gatewayReference := by
    simpa using List.find?_some found
  exact ⟨attributed, attribution, named, guarded.1.1, guarded.1.2, guarded.2⟩

theorem result_of_appliesTo (verified : gateway.verifySignature rawBody headers brandId = true)
    (parsed : gateway.parseWebhook rawBody brandId = .ok event) {payment : Payment}
    {attributed : Option String} (member : payment ∈ store.payments.rows)
    (attribution : attributedBrandId gateway event brandId = some attributed)
    (applies : AppliesTo attributed event payment) :
    webhookResult? gateway store rawBody headers brandId = some {
      payment
      status := webhookStatus event.type
      occurredAt := event.occurredAt
      declineReason := event.declineReason } := by
  obtain ⟨named, owned, modelled, fresh⟩ := applies
  have delivers :
      (GatewayReport.webhook gateway rawBody headers brandId).Delivers payment event :=
    ⟨attributed, by rw [authenticEvent?_of_parsed verified parsed, attribution]; rfl, named, owned⟩
  have brings := GatewayReport.result?_of_delivers member delivers modelled
  rwa [fresh, if_neg Bool.false_ne_true] at brings

theorem not_mem_apply {result : GatewayResult} (event : GatewayWebhookEvent)
    (same : result.occurredAt = event.occurredAt) (fresh : isStale result.payment event = false) :
    result.payment ∉ (store.apply result).payments.rows := by
  intro kept
  rw [apply_rows, List.mem_map] at kept
  obtain ⟨row, member, updated⟩ := kept
  split at updated
  next named =>
    have seen : result.payment.lastEventAt = some event.occurredAt := by
      rw [← updated, ← same]
      cases status : result.status <;>
        simp [Payment.apply, GatewayResult.update, resultUpdate, status]
    simp [isStale, seen] at fresh
  next different =>
    exact different (congrArg Payment.id updated)

/-- Under a gateway that resolves brands, an event is attributed exactly when it names an
account or when nothing of the path's brand is there to apply it to. -/
theorem changes_attributed_iff {resolve : GatewayWebhookEvent → Option String}
    (resolves : gateway.resolveBrandId = some resolve)
    (verified : gateway.verifySignature rawBody headers brandId = true)
    (parsed : gateway.parseWebhook rawBody brandId = .ok event) :
    ChangesAttributed resolve event store
        ((handleWebhook gateway rawBody headers brandId).exec store).store ↔
      NamesAccount event ∨ ∀ payment ∈ store.payments.rows, ¬AppliesTo brandId event payment := by
  have unnamed : ¬NamesAccount event → attributedBrandId gateway event brandId = some brandId :=
    attributedBrandId_of_unnamed
  rw [handleWebhook_store]
  constructor
  · intro attributed
    by_contra neither
    rw [not_or, not_forall] at neither
    obtain ⟨nameless, payment, applies⟩ := neither
    rw [Classical.not_imp, not_not] at applies
    obtain ⟨member, applies⟩ := applies
    have brings := result_of_appliesTo verified parsed member (unnamed nameless) applies
    rw [brings] at attributed
    obtain ⟨account, brand, named, filled, _⟩ :=
      attributed.payments payment member (not_mem_apply event rfl applies.2.2.2)
    exact nameless ⟨account, named, filled⟩
  · intro guarded
    cases brings : webhookResult? gateway store rawBody headers brandId with
    | none => exact ChangesAttributed.refl resolve event store
    | some result =>
        have about := webhookResult?_about brings
        obtain ⟨attributed, attribution, applies⟩ := appliesTo_of_result verified parsed brings
        have named : NamesAccount event := by
          rcases guarded with named | none_
          · exact named
          · by_contra nameless
            rw [unnamed nameless] at attribution
            cases attribution
            exact none_ result.payment about.member applies
        exact changesAttributed_apply about applies.1
          (attributedTo_of_owned resolves named attribution applies.2.1)

end Soundness

def sampleAwaiting : Store :=
  (sampleAttempt "reference" .processing 0).perform sampleEnv sampleIssued

def sampleShared (resolve : GatewayWebhookEvent → Option String) :
    PaymentGatewayPort GatewayWebhookEvent :=
  { sampleGateway "reference" .processing 0 with resolveBrandId := some resolve }

def sampleResolve (event : GatewayWebhookEvent) : Option String :=
  if event.accountRef = some "account" then some "brand" else none

def sampleFrom (accountRef : Option String) : GatewayWebhookEvent :=
  { sampleEvent "reference" .paymentSucceeded 1 with accountRef }

theorem changes_attributed_iff_sample :
    ChangesAttributed sampleResolve (sampleFrom (some "account")) sampleAwaiting
        ((handleWebhook (sampleShared sampleResolve) (sampleFrom (some "account")) [] none).exec
          sampleAwaiting).store ↔
      NamesAccount (sampleFrom (some "account")) ∨
        ∀ payment ∈ sampleAwaiting.payments.rows,
          ¬AppliesTo none (sampleFrom (some "account")) payment :=
  changes_attributed_iff rfl rfl rfl

/-- An event without an account settles the payment and the invoice. -/
theorem unattributed_settles :
    ¬ChangesAttributed sampleResolve (sampleFrom none) sampleAwaiting
      ((handleWebhook (sampleShared sampleResolve) (sampleFrom none) [] none).exec
        sampleAwaiting).store := by
  intro attributed
  have paid : ((handleWebhook (sampleShared sampleResolve) (sampleFrom none) [] none).exec
      sampleAwaiting).store.invoice ≠ sampleAwaiting.invoice := by decide +kernel
  obtain ⟨payment, _, _, account, _, named, _⟩ := attributed.invoice paid
  cases named

/-! ## One account connected by several brands -/

/-- The gateway of the shared endpoint, over the connections in the order in which the
database returns them. -/
def PaymentGatewayPort.resolvingBy {π : Type} (gateway : PaymentGatewayPort π)
    (returned : List IntegrationConnection) : PaymentGatewayPort π :=
  { gateway with resolveBrandId := some (StripeGatewayAdapter.resolveBrandId returned) }

/-- The event is attributed to the payment's brand, and one that the ordering guard lets
through is applied to the payment. -/
structure ReachesOwner {π : Type} (gateway : PaymentGatewayPort π) (rawBody : π)
    (headers : List (String × String)) (brandId : Option String) (event : GatewayWebhookEvent)
    (payment : Payment) (store : Store) : Prop where
  attributed : attributedBrandId gateway event brandId = some (some payment.brandId)
  applied : event.type ≠ .unknown → isStale payment event = false →
    ((handleWebhook gateway rawBody headers brandId).exec store).store = store.apply {
      payment
      status := webhookStatus event.type
      occurredAt := event.occurredAt
      declineReason := event.declineReason }

section Completeness

variable {π : Type} {gateway : PaymentGatewayPort π} {rawBody : π}
  {headers : List (String × String)} {brandId : Option String} {event : GatewayWebhookEvent}
  {table : ConnectionTable} {own : IntegrationConnection} {accountId : String}

theorem attributedBrandId_resolvingBy (gateway : PaymentGatewayPort π)
    (returned : List IntegrationConnection) (brandId : Option String)
    (names : event.accountRef = some accountId) (filled : accountId ≠ "") :
    attributedBrandId (gateway.resolvingBy returned) event brandId =
      ((StripeAccountService.findBrandIdByAccountId returned accountId).filter (· ≠ "")).map
        some := by
  simp [attributedBrandId, PaymentGatewayPort.resolvingBy, StripeGatewayAdapter.resolveBrandId,
    names, filled, Option.filter]

/-- Events about a payment of a connected brand reach it, however the database orders the
connections, exactly when no other brand has connected the same account. -/
theorem reaches_owner_iff {payment : Payment} {store : Store}
    (verified : gateway.verifySignature rawBody headers brandId = true)
    (parsed : gateway.parseWebhook rawBody brandId = .ok event)
    (names : event.accountRef = some accountId)
    (about : payment.gatewayReference = some event.gatewayReference)
    (member : payment ∈ store.payments.rows) (listed : own ∈ table.rows)
    (connected : StripeAccountService.connectedTo accountId own = true)
    (through : payment.brandId = own.brandId) :
    (∀ returned : List IntegrationConnection, returned.Perm table.rows →
        ReachesOwner (gateway.resolvingBy returned) rawBody headers brandId event payment
          store) ↔
      ∀ row ∈ table.rows, StripeAccountService.connectedTo accountId row = true →
        row.brandId = payment.brandId := by
  have filled : accountId ≠ "" := StripeAccountService.connectedTo_filled connected
  rw [through, ← StripeAccountService.findBrandIdByAccountId_iff listed connected]
  refine forall_congr' fun returned => imp_congr_right fun order => ?_
  have resolved := attributedBrandId_resolvingBy gateway returned brandId names filled
  constructor
  · intro reaches
    have attributed := reaches.attributed
    rw [resolved] at attributed
    simp only [Option.map_eq_some_iff, Option.filter_eq_some_iff, Option.some.injEq] at attributed
    obtain ⟨brand, ⟨found, _⟩, rfl⟩ := attributed
    rw [found, through]
  · intro found
    have attributed : attributedBrandId (gateway.resolvingBy returned) event brandId =
        some (some payment.brandId) := by
      rw [resolved, found, through]
      simp [Option.filter, own.brandNamed]
    refine ⟨attributed, ?_⟩
    intro modelled fresh
    have owned : ownedBy (some payment.brandId) payment = true := by
      simp [ownedBy, Option.filter, through, own.brandNamed]
    have verifiedBy : (gateway.resolvingBy returned).verifySignature rawBody headers brandId =
        true := verified
    have parsedBy : (gateway.resolvingBy returned).parseWebhook rawBody brandId = .ok event :=
      parsed
    rw [handleWebhook_store, result_of_appliesTo verifiedBy parsedBy member attributed
      ⟨about, owned, modelled, fresh⟩]
    rfl

end Completeness

def samplePaymentRow : Payment := sampleAwaiting.payments.rows.head (by decide)

def sampleConnected : ConnectionTable :=
  (StripeAccountService.completeConnection UniqueTable.empty "brand" (by decide)
    (some "account")).get (by decide)

theorem reaches_owner_iff_sample :
    (∀ returned : List IntegrationConnection, returned.Perm sampleConnected.rows →
        ReachesOwner ((sampleGateway "reference" .processing 0).resolvingBy returned)
          (sampleFrom (some "account")) [] none (sampleFrom (some "account")) samplePaymentRow
          sampleAwaiting) ↔
      ∀ row ∈ sampleConnected.rows, StripeAccountService.connectedTo "account" row = true →
        row.brandId = samplePaymentRow.brandId :=
  reaches_owner_iff rfl rfl rfl (by decide) (List.head_mem _)
    (show sampleConnected.rows.head (by decide) ∈ sampleConnected.rows from List.head_mem _)
    (by decide) (by decide)

def sampleConnectedTwice : ConnectionTable :=
  ((StripeAccountService.completeConnection UniqueTable.empty "other" (by decide)
    (some "account")).bind fun table =>
      StripeAccountService.completeConnection table "brand" (by decide) (some "account")).get
    (by decide)

/-- The payment was charged on the account of its own brand, and the success is dropped. -/
theorem shared_account_dropped :
    StripeAccountService.getAccountIdForBrand sampleConnectedTwice samplePaymentRow.brandId =
        some "account" ∧
      ((handleWebhook
        ((sampleGateway "reference" .processing 0).resolvingBy sampleConnectedTwice.rows)
        (sampleFrom (some "account")) [] none).exec sampleAwaiting).store.payments.rows =
          [samplePaymentRow] ∧
      ¬ReachesOwner
        ((sampleGateway "reference" .processing 0).resolvingBy sampleConnectedTwice.rows)
        (sampleFrom (some "account")) [] none (sampleFrom (some "account")) samplePaymentRow
        sampleAwaiting := by
  refine ⟨by decide, by decide +kernel, fun reaches => ?_⟩
  have other : attributedBrandId
      ((sampleGateway "reference" .processing 0).resolvingBy sampleConnectedTwice.rows)
      (sampleFrom (some "account")) none = some (some "other") := by decide
  have attributed := reaches.attributed
  rw [other] at attributed
  exact absurd attributed (by decide)

end MultiBrandInvoicing
