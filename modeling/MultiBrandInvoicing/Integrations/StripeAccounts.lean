import Mathlib.Data.List.Permutation
import MultiBrandInvoicing.Ports.PaymentGateway
import MultiBrandInvoicing.Tables.Unique

/-!
# Stripe accounts and the brands connected to them

`apps/api/src/integrations/stripe-account.service.ts`.  A brand has at most one
connection with a provider; nothing keeps two brands from connecting one account.
The OAuth exchange stands outside the repository, its answer is an argument.
-/

set_option autoImplicit false

namespace MultiBrandInvoicing

inductive IntegrationProvider where
  | zohoBooks | numbersGateway | shopify | stripe | paypal | square | authorizeNet
  deriving DecidableEq, Repr

inductive ConnectionStatus where
  | disconnected | connected | unhealthy | revoked
  deriving DecidableEq, Repr

/-- A row of `integration_connection`; `accountId` is what its `config` names.  A brand id
is a UUID and an empty account id is never stored. -/
structure IntegrationConnection where
  brandId : String
  provider : IntegrationProvider
  status : ConnectionStatus
  accountId : Option String
  brandNamed : brandId ≠ ""
  accountNamed : accountId ≠ some ""
  deriving DecidableEq

abbrev ConnectionTable :=
  UniqueTable IntegrationConnection (String × IntegrationProvider)
    [fun connection => some (connection.brandId, connection.provider)]

namespace StripeAccountService

def accountIdOf (row : IntegrationConnection) : Option String :=
  if row.status = .connected then row.accountId else none

def isStripeConnection (row : IntegrationConnection) : Bool :=
  row.provider = .stripe && row.status = .connected

/-- `rows` is the table in the order in which the database returns it; the query asks for
none. -/
def findBrandIdByAccountId (rows : List IntegrationConnection) (accountId : String) :
    Option String :=
  ((rows.filter isStripeConnection).find? fun row => accountIdOf row = some accountId).map
    IntegrationConnection.brandId

def getAccountIdForBrand (table : ConnectionTable) (brandId : String) : Option String :=
  (table.rows.find? fun row => row.brandId = brandId && row.provider = .stripe).bind accountIdOf

/-- The upsert at the end of the OAuth flow.  `token` is the account id Stripe returned. -/
def completeConnection (table : ConnectionTable) (brandId : String) (brandNamed : brandId ≠ "")
    (token : Option String) : Option ConnectionTable :=
  match token with
  | none => none
  | some accountId =>
      if named : accountId = "" then none
      else
        let isOwn := fun row : IntegrationConnection =>
          row.brandId = brandId && row.provider = .stripe
        if table.rows.any isOwn then
          some (table.modify isOwn
            (fun row =>
              { row with
                status := .connected, accountId := some accountId
                accountNamed := fun same => named (Option.some.inj same) })
            (by
              intro index listed row
              rw [List.mem_singleton.mp listed]))
        else
          table.insert? {
            brandId, provider := .stripe, status := .connected, accountId := some accountId
            brandNamed, accountNamed := fun same => named (Option.some.inj same) }

def connectedTo (accountId : String) (row : IntegrationConnection) : Bool :=
  isStripeConnection row && accountIdOf row = some accountId

theorem connectedTo_filled {accountId : String} {row : IntegrationConnection}
    (connected : connectedTo accountId row = true) : accountId ≠ "" := by
  intro empty
  simp only [connectedTo, accountIdOf, Bool.and_eq_true, decide_eq_true_eq, empty] at connected
  obtain ⟨_, named⟩ := connected
  split at named
  · exact row.accountNamed named
  · cases named

theorem findBrandIdByAccountId_eq (rows : List IntegrationConnection) (accountId : String) :
    findBrandIdByAccountId rows accountId =
      (rows.find? (connectedTo accountId)).map IntegrationConnection.brandId := by
  have same : (fun row => isStripeConnection row && decide (accountIdOf row = some accountId)) =
      connectedTo accountId := rfl
  rw [findBrandIdByAccountId, List.find?_filter]
  simp only [← same, decide_eq_true_eq, Bool.decide_and, Bool.decide_eq_true]

/-- The lookup gives one brand in whatever order the rows come exactly when no other brand
is connected to the account. -/
theorem findBrandIdByAccountId_iff {rows : List IntegrationConnection} {accountId : String}
    {own : IntegrationConnection} (member : own ∈ rows)
    (connected : connectedTo accountId own = true) :
    (∀ returned : List IntegrationConnection, returned.Perm rows →
        findBrandIdByAccountId returned accountId = some own.brandId) ↔
      ∀ row ∈ rows, connectedTo accountId row = true → row.brandId = own.brandId := by
  constructor
  · intro always row rowMember rowConnected
    -- An order in which this row comes first.
    have first := always (row :: rows.erase row) (List.perm_cons_erase rowMember).symm
    rw [findBrandIdByAccountId_eq, List.find?_cons_of_pos rowConnected] at first
    exact Option.some.inj first
  · intro only returned order
    rw [findBrandIdByAccountId_eq]
    cases found : returned.find? (connectedTo accountId) with
    | none =>
        have absent := List.find?_eq_none.mp found own (order.mem_iff.mpr member)
        exact absurd connected absent
    | some row =>
        have rowMember : row ∈ rows := order.mem_iff.mp (List.mem_of_find?_eq_some found)
        exact congrArg some (only row rowMember (List.find?_some found))

end StripeAccountService

def StripeGatewayAdapter.resolveBrandId (rows : List IntegrationConnection)
    (event : GatewayWebhookEvent) : Option String :=
  match event.accountRef.filter (· ≠ "") with
  | none => none
  | some accountRef => StripeAccountService.findBrandIdByAccountId rows accountRef

end MultiBrandInvoicing
