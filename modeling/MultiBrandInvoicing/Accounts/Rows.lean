import MultiBrandInvoicing.Tables.Unique
import MultiBrandInvoicing.Tenancy.Scopes

/-!
# Users, sessions and set-password links

`User`, `UserBrandAssignment`, `Session`, `PasswordResetToken` and the sign-in entries of
`AuditLog` in `apps/api/prisma/schema.prisma`.  Columns that no modelled operation reads or
writes are left out; the unique indexes are part of the types of the tables.
-/

set_option autoImplicit false

namespace MultiBrandInvoicing

namespace Accounts

open Roles Tenancy

inductive UserStatus where
  | invited | active | suspended
  deriving DecidableEq, Repr

structure User where
  id : String
  merchantId : String
  email : String
  passwordHash : String
  name : String
  role : Role
  status : UserStatus
  lastLoginAt : Option Time := none
  failedLogins : Nat := 0
  lockedUntil : Option Time := none
  createdAt : Time
  deriving DecidableEq, Repr

/-- The `data` of an update to a user; what is absent stays. -/
structure UserUpdate where
  passwordHash : Option String := none
  role : Option Role := none
  status : Option UserStatus := none
  lastLoginAt : Option Time := none
  failedLogins : Option Nat := none
  lockedUntil : Option (Option Time) := none
  deriving DecidableEq, Repr

def User.apply (user : User) (data : UserUpdate) : User :=
  { user with
    passwordHash := data.passwordHash.getD user.passwordHash
    role := data.role.getD user.role
    status := data.status.getD user.status
    lastLoginAt := data.lastLoginAt.orElse fun _ => user.lastLoginAt
    failedLogins := data.failedLogins.getD user.failedLogins
    lockedUntil := data.lockedUntil.getD user.lockedUntil }

def userIndexes : List (User → Option (List String)) :=
  [fun user => some [user.id], fun user => some [user.merchantId, user.email]]

abbrev UserTable := UniqueTable User (List String) userIndexes

structure UserBrandAssignment where
  userId : String
  brandId : String
  deriving DecidableEq, Repr

structure Session where
  id : String
  userId : String
  tokenHash : String
  expiresAt : Time
  revokedAt : Option Time := none
  sourceIp : Option String
  userAgent : Option String
  deriving DecidableEq, Repr

def sessionIndexes : List (Session → Option String) :=
  [fun session => some session.id, fun session => some session.tokenHash]

abbrev SessionTable := UniqueTable Session String sessionIndexes

structure PasswordResetToken where
  userId : String
  tokenHash : String
  expiresAt : Time
  usedAt : Option Time := none
  deriving DecidableEq, Repr

def resetTokenIndexes : List (PasswordResetToken → Option String) :=
  [fun token => some token.tokenHash]

abbrev ResetTokenTable := UniqueTable PasswordResetToken String resetTokenIndexes

inductive AuditAction where
  | login | logout | passwordSet | register | passwordResetRequest
  deriving DecidableEq, Repr

inductive AuditOutcome where
  | success | failure
  deriving DecidableEq, Repr

structure AuditEntry where
  merchantId : String
  actorId : String
  action : AuditAction
  outcome : AuditOutcome
  reason : Option String
  sourceIp : Option String
  userAgent : Option String
  occurredAt : Time
  deriving DecidableEq, Repr

structure Store where
  users : UserTable
  assignments : List UserBrandAssignment
  brandTables : BrandTables
  sessions : SessionTable
  resetTokens : ResetTokenTable
  auditLog : List AuditEntry

/-! ## Rows by their keys -/

namespace Store

variable (store : Store)

def user? (id : String) : Option User := store.users.rows.find? fun user => user.id = id

def session? (tokenHash : String) : Option Session :=
  store.sessions.rows.find? fun session => session.tokenHash = tokenHash

def resetToken? (tokenHash : String) : Option PasswordResetToken :=
  store.resetTokens.rows.find? fun token => token.tokenHash = tokenHash

variable {store}

theorem user?_eq_some {id : String} {user : User} :
    store.user? id = some user ↔ user ∈ store.users.rows ∧ user.id = id :=
  UniqueTable.find?_eq_some (fun user => some [user.id]) User.id (fun id => [id])
    (store.users.distinct _ (by simp [userIndexes])) fun _ => rfl

theorem resetToken?_eq_some {tokenHash : String} {token : PasswordResetToken} :
    store.resetToken? tokenHash = some token ↔
      token ∈ store.resetTokens.rows ∧ token.tokenHash = tokenHash :=
  UniqueTable.find?_eq_some (fun token => some token.tokenHash) PasswordResetToken.tokenHash id
    (store.resetTokens.distinct _ (by simp [resetTokenIndexes])) fun _ => rfl

end Store

def sampleAccounts : Store where
  users := (UniqueTable.put? [
    { id := "ada", merchantId := "m", email := "ada@m", passwordHash := "h1", name := "Ada",
      role := .merchantOwner, status := .active, createdAt := 1 },
    { id := "bob", merchantId := "m", email := "bob@m", passwordHash := "h2", name := "Bob",
      role := .merchantOwner, status := .active, createdAt := 2 }]).getD .empty
  assignments := []
  brandTables := {
    brands := []
    zohoConnections := []
    ids := by simp
    merchantNamed := by simp
    connectedOnce := List.nodup_nil
    owned := by simp }
  sessions := .empty
  resetTokens := .empty
  auditLog := []

end Accounts

end MultiBrandInvoicing
