import MultiBrandInvoicing.Tenancy.Scopes

/-!
# The guard before every handler

`AuthorisationGuard` in `apps/api/src/tenancy/authorisation.ts`, for a session that resolves:
it finds the brand that the route says the request is about and checks the role and the
assignments against it.
-/

set_option autoImplicit false

namespace MultiBrandInvoicing

namespace Tenancy

open Roles

inductive RequestValue where
  | text (value : String)
  | other
  deriving DecidableEq, Repr

structure Request where
  params : List (String × RequestValue)
  query : List (String × RequestValue)
  body : List (String × RequestValue)

inductive BrandSource where
  | params | query | body | none
  deriving DecidableEq, Repr

structure PermissionRequirement where
  resource : Resource
  action : Action
  brandFrom : Option BrandSource
  brandKey : Option String

def brandText (source : List (String × RequestValue)) (key : String) : Option String :=
  match source.lookup key with
  | some (.text value) => if value.isEmpty then none else some value
  | _ => none

/-- Which brand the request targets.  A route that takes the default but has no such path
segment is refused. -/
def resolveBrandId (request : Request) (requirement : PermissionRequirement) :
    Except String (Option String) :=
  let key := requirement.brandKey.getD "brandId"
  match requirement.brandFrom.getD .params with
  | .none => .ok none
  | .params =>
      if (request.params.lookup key).isSome then .ok (brandText request.params key)
      else .error (s!"route declares a brand check on params.{key} but has no such path " ++
        "parameter")
  | .query => .ok (brandText request.query key)
  | .body => .ok (brandText request.body key)

def canActivate (scope : RequestScope) (requirement : Option PermissionRequirement)
    (request : Request) : Except String Unit :=
  match requirement with
  | none =>
      .error "route declares no permission requirement; add @RequirePermission or @Public"
  | some requirement => do
      let brandId ← resolveBrandId request requirement
      let decision := checkAccess {
        role := scope.role
        resource := requirement.resource
        action := requirement.action
        assignedBrandIds := scope.assignedBrandIds
        brandId }
      if decision = .allowed then pure ()
      else .error "insufficient permissions"

/-- A request that is let through names a brand that its scope can reach, or none. -/
theorem canActivate_reaches {scope : RequestScope} {requirement : PermissionRequirement}
    {request : Request} {brandId : String}
    (admitted : canActivate scope (some requirement) request = .ok ())
    (names : resolveBrandId request requirement = .ok (some brandId)) :
    canReachBrand (.request scope) brandId = true := by
  simp only [canActivate, names] at admitted
  have allowed : checkAccess {
      role := scope.role
      resource := requirement.resource
      action := requirement.action
      assignedBrandIds := scope.assignedBrandIds
      brandId := some brandId } = .allowed := by
    by_contra denied
    simp only [bind, Except.bind, if_neg denied] at admitted
    cases admitted
  have reach := (checkAccess_allowed.mp allowed).2 brandId rfl
  simp only [canReachBrand, readableBrandIds]
  rcases reach with covers | assigned
  · rw [if_pos covers]
  · split
    next => rfl
    next brands found =>
      split at found
      next => cases found
      next =>
        cases found
        simpa using assigned

end Tenancy

end MultiBrandInvoicing
