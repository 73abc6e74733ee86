/-!
# Roles and the permission matrix

`packages/shared/src/domain/roles.ts`: what a role may do to a resource, and the check of a
request that may name a brand.
-/

set_option autoImplicit false

namespace MultiBrandInvoicing

namespace Roles

inductive Role where
  | merchantOwner | merchantAdmin | brandAdmin | financeUser | salesUser | readOnly
  deriving DecidableEq, Repr

def roles : List Role :=
  [.merchantOwner, .merchantAdmin, .brandAdmin, .financeUser, .salesUser, .readOnly]

inductive Resource where
  | organisationProfile | planAndBilling | users | brands | brandConfiguration | templates
  | customDomain | integrations | customers | invoices | invoiceSend | payments | checkApproval
  | taxAndFeeConfig | reports | auditLog | systemAdministration
  deriving DecidableEq, Repr

inductive Action where
  | read | write | delete | approve
  deriving DecidableEq, Repr

def actionByLetter : Char → Option Action
  | 'R' => some .read
  | 'W' => some .write
  | 'D' => some .delete
  | 'A' => some .approve
  | _ => none

/-- The columns are in the order of `roles`; an empty text means no access at all. -/
def matrix : Resource → List String
  | .organisationProfile => ["RWD", "R", "R", "R", "R", "R"]
  | .planAndBilling => ["RWD", "", "", "", "", ""]
  | .users => ["RWD", "RWD", "RW", "", "", ""]
  | .brands => ["RWD", "RWD", "R", "R", "R", "R"]
  | .brandConfiguration => ["RWD", "RWD", "RWD", "R", "R", "R"]
  | .templates => ["RWD", "RWD", "RWD", "R", "R", "R"]
  | .customDomain => ["RWD", "RWD", "RWD", "", "", ""]
  | .integrations => ["RWD", "RWD", "RWD", "R", "", ""]
  | .customers => ["RWD", "RWD", "RWD", "RW", "RW", "R"]
  | .invoices => ["RWDA", "RWDA", "RWDA", "RWD", "RW", "R"]
  | .invoiceSend => ["W", "W", "W", "W", "W", ""]
  | .payments => ["RWDA", "RWDA", "RWDA", "RWA", "R", "R"]
  | .checkApproval => ["A", "A", "A", "A", "", ""]
  | .taxAndFeeConfig => ["RWD", "RWD", "RWD", "R", "", ""]
  | .reports => ["R", "R", "R", "R", "R", "R"]
  | .auditLog => ["R", "R", "R", "", "", ""]
  | .systemAdministration => ["RWD", "R", "", "", "", ""]

/-- The cell of `PERMISSIONS` that `buildPermissions` fills. -/
def permissions (role : Role) (resource : Resource) : List Action :=
  (((matrix resource)[roles.idxOf role]?).getD "").toList.filterMap actionByLetter

/-- `buildPermissions` meets no letter it would throw at, and no row is short. -/
theorem matrix_complete (resource : Resource) :
    (matrix resource).length = roles.length ∧
      ((matrix resource).all fun cell =>
        cell.toList.all fun letter => (actionByLetter letter).isSome) = true := by
  cases resource <;> decide

/-- Roles whose scope is every brand in the merchant. -/
def coversAllBrands (role : Role) : Bool := [Role.merchantOwner, .merchantAdmin].contains role

def can (role : Role) (resource : Resource) (action : Action) : Bool :=
  (permissions role resource).contains action

def rankOf : Role → Nat
  | .merchantOwner => 6
  | .merchantAdmin => 5
  | .brandAdmin => 4
  | .financeUser => 3
  | .salesUser => 2
  | .readOnly => 1

def mayAssignRole (actor target : Role) : Bool :=
  can actor .users .write && rankOf target ≤ rankOf actor

structure AccessRequest where
  role : Role
  resource : Resource
  action : Action
  assignedBrandIds : List String
  brandId : Option String

inductive Denial where
  | roleLacksAction | brandNotAssigned
  deriving DecidableEq, Repr

inductive AccessDecision where
  | allowed
  | denied (reason : Denial)
  deriving DecidableEq, Repr

def checkAccess (request : AccessRequest) : AccessDecision :=
  if !can request.role request.resource request.action then .denied .roleLacksAction
  else
    match request.brandId with
    | none => .allowed
    | some brandId =>
        if coversAllBrands request.role then .allowed
        else if request.assignedBrandIds.contains brandId then .allowed
        else .denied .brandNotAssigned

theorem checkAccess_allowed {request : AccessRequest} :
    checkAccess request = .allowed ↔
      can request.role request.resource request.action = true ∧
        ∀ brandId, request.brandId = some brandId →
          coversAllBrands request.role = true ∨ brandId ∈ request.assignedBrandIds := by
  unfold checkAccess
  cases permitted : can request.role request.resource request.action with
  | false => simp
  | true =>
      cases request.brandId with
      | none => simp
      | some brandId =>
          cases covers : coversAllBrands request.role with
          | true => simp
          | false =>
              by_cases assigned : brandId ∈ request.assignedBrandIds
              · simp [assigned]
              · simp [assigned]

end Roles

end MultiBrandInvoicing
