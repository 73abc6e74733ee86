import MultiBrandInvoicing.Accounts.Rows
import MultiBrandInvoicing.ReadCommitted.Journal

/-!
# The statements on accounts

Each write of the account services is an `AccountEffect` with its data: the rows it locks, the
condition in its WHERE clause and what it does to the tables are read off it.  A statement
that rewrites many rows (`updateMany`, `deleteMany`) finds them first and then writes those
that still match.
-/

set_option autoImplicit false

namespace MultiBrandInvoicing

namespace Accounts

open ReadCommitted Program Roles Tenancy

/-- Work under `withScope` sees what row-level security lets it see; `withoutScope` runs as
the owner of the tables. -/
inductive Access where
  | unscoped
  | scoped (settings : DatabaseScopeSettings)

def Access.seesUser : Access → User → Bool
  | .unscoped, _ => true
  | .scoped settings, user => appMerchantId settings = some user.merchantId

def Access.seesBrand (tables : BrandTables) : Access → String → Bool
  | .unscoped, _ => true
  | .scoped settings, brandId => appBrandVisible tables settings brandId

inductive RowKey where
  | user (id : String)
  | userEmail (merchantId email : String)
  | assignment (userId brandId : String)
  | session (tokenHash : String)
  | resetToken (tokenHash : String)
  deriving DecidableEq, Repr

inductive AccountEffect where
  | createUser (row : User)
  | updateUser (access : Access) (id : String) (data : UserUpdate)
  | deleteAssignments (userId : String) (brandIds : List String)
  | createAssignments (userId : String) (brandIds : List String) (skipDuplicates : Bool)
  | createResetToken (row : PasswordResetToken)
  | spendResetTokens (userId : String) (tokenHashes : List String) (now : Time)
  | claimResetToken (tokenHash : String) (now : Time)
  | createSession (row : Session)
  | revokeSessions (userId : String) (tokenHashes : List String) (now : Time)
  | createAuditEntry (row : AuditEntry)
  | sendSetPasswordLink (recipient token : String)

inductive AccountError where
  | badRequest (message : String)
  | unauthorized (message : String)
  | forbidden (message : String)
  | notFound (message : String)
  | conflict (message : String)
  | recordNotFound
  | constraintViolation
  | rowLevelSecurity
  | mail
  deriving DecidableEq, Repr

abbrev Tx := Program Store RowKey AccountEffect AccountError

def UserTable.update (users : UserTable) (here : User → Bool) (data : UserUpdate) : UserTable :=
  users.modify here (fun user => user.apply data) (by
    intro index listed user
    simp only [userIndexes, List.mem_cons, List.not_mem_nil, or_false] at listed
    rcases listed with rfl | rfl <;> rfl)

def ResetTokenTable.spend (tokens : ResetTokenTable) (here : PasswordResetToken → Bool)
    (now : Time) : ResetTokenTable :=
  tokens.modify here (fun token => { token with usedAt := some now }) (by
    intro index listed token
    simp only [resetTokenIndexes, List.mem_cons, List.not_mem_nil, or_false] at listed
    rcases listed with rfl
    rfl)

def SessionTable.revoke (sessions : SessionTable) (here : Session → Bool) (now : Time) :
    SessionTable :=
  sessions.modify here (fun session => { session with revokedAt := some now }) (by
    intro index listed session
    simp only [sessionIndexes, List.mem_cons, List.not_mem_nil, or_false] at listed
    rcases listed with rfl | rfl <;> rfl)

namespace AccountEffect

def rows : AccountEffect → List RowKey
  | createUser row => [.user row.id, .userEmail row.merchantId row.email]
  | updateUser _ id _ => [.user id]
  | deleteAssignments userId brandIds => brandIds.map (.assignment userId)
  | createAssignments userId brandIds _ => brandIds.map (.assignment userId)
  | createResetToken row => [.resetToken row.tokenHash]
  | spendResetTokens _ tokenHashes _ => tokenHashes.map .resetToken
  | claimResetToken tokenHash _ => [.resetToken tokenHash]
  | createSession row => [.session row.tokenHash]
  | revokeSessions _ tokenHashes _ => tokenHashes.map .session
  | createAuditEntry _ => []
  | sendSetPasswordLink _ _ => []

/-- The WHERE clause, and for an insert the constraints it must meet. -/
def applies : AccountEffect → Store → Bool
  | createUser row, store => (store.users.insert? row).isSome
  | updateUser access id _, store =>
      store.users.rows.any fun user => user.id = id && access.seesUser user
  | deleteAssignments _ _, _ => true
  | createAssignments userId brandIds skipDuplicates, store =>
      skipDuplicates || brandIds.all fun brandId => !store.assignments.contains ⟨userId, brandId⟩
  | createResetToken row, store =>
      (store.user? row.userId).isSome && (store.resetTokens.insert? row).isSome
  | spendResetTokens _ _ _, _ => true
  | claimResetToken tokenHash now, store => store.resetTokens.rows.any fun token =>
      token.tokenHash = tokenHash && token.usedAt.isNone && now < token.expiresAt
  | createSession row, store =>
      (store.user? row.userId).isSome && (store.sessions.insert? row).isSome
  | revokeSessions _ _ _, _ => true
  | createAuditEntry _, _ => true
  | sendSetPasswordLink _ _, _ => true

def apply : AccountEffect → Store → Store
  | createUser row, store => { store with users := (store.users.insert? row).getD store.users }
  | updateUser access id data, store =>
      { store with
        users := UserTable.update store.users (fun user => user.id = id && access.seesUser user)
          data }
  | deleteAssignments userId brandIds, store =>
      { store with
        assignments := store.assignments.filter fun row =>
          !(row.userId = userId && brandIds.contains row.brandId) }
  | createAssignments userId brandIds _, store =>
      { store with
        assignments := store.assignments ++
          (brandIds.filter fun brandId => !store.assignments.contains ⟨userId, brandId⟩).map
            fun brandId => ⟨userId, brandId⟩ }
  | createResetToken row, store =>
      { store with resetTokens := (store.resetTokens.insert? row).getD store.resetTokens }
  | spendResetTokens userId tokenHashes now, store =>
      { store with
        resetTokens := ResetTokenTable.spend store.resetTokens (fun token =>
          tokenHashes.contains token.tokenHash && token.userId = userId && token.usedAt.isNone)
          now }
  | claimResetToken tokenHash now, store =>
      { store with
        resetTokens := ResetTokenTable.spend store.resetTokens (fun token =>
          token.tokenHash = tokenHash && token.usedAt.isNone && now < token.expiresAt) now }
  | createSession row, store =>
      { store with sessions := (store.sessions.insert? row).getD store.sessions }
  | revokeSessions userId tokenHashes now, store =>
      { store with
        sessions := SessionTable.revoke store.sessions (fun session =>
          tokenHashes.contains session.tokenHash && session.userId = userId &&
            session.revokedAt.isNone) now }
  | createAuditEntry row, store => { store with auditLog := store.auditLog ++ [row] }
  | sendSetPasswordLink _ _, store => store

end AccountEffect

def perform (effect : AccountEffect) : Tx Bool :=
  writeRows effect effect.rows effect.applies effect.apply

def performNow (effect : AccountEffect) : Tx Bool := do
  let matched ← perform effect
  commitNow
  pure matched

def require (condition : Bool) (error : AccountError) : Tx Unit :=
  if condition then pure () else .throw error

def orThrow {α : Type} (error : AccountError) (found : Option α) : Tx α :=
  match found with
  | none => .throw error
  | some value => pure value

def updateUser (access : Access) (id : String) (data : UserUpdate) : Tx User := do
  let updated ← perform (.updateUser access id data)
  require updated .recordNotFound
  let store ← read
  orThrow .recordNotFound (store.user? id)

/-! ## What a statement does to a row -/

namespace AccountEffect

variable {store : Store}

theorem user?_updateUser (access : Access) (id other : String) (data : UserUpdate) :
    ((updateUser access id data).apply store).user? other =
      (store.user? other).map fun user =>
        if user.id = id && access.seesUser user then user.apply data else user :=
  UniqueTable.find?_modified fun _ => rfl

theorem resetToken?_spendResetTokens (userId : String) (tokenHashes : List String) (now : Time)
    (tokenHash : String) :
    ((spendResetTokens userId tokenHashes now).apply store).resetToken? tokenHash =
      (store.resetToken? tokenHash).map fun token =>
        if tokenHashes.contains token.tokenHash && token.userId = userId && token.usedAt.isNone
        then { token with usedAt := some now } else token :=
  UniqueTable.find?_modified fun _ => rfl

theorem resetToken?_claimResetToken (claimed : String) (now : Time) (tokenHash : String) :
    ((claimResetToken claimed now).apply store).resetToken? tokenHash =
      (store.resetToken? tokenHash).map fun token =>
        if token.tokenHash = claimed && token.usedAt.isNone && now < token.expiresAt
        then { token with usedAt := some now } else token :=
  UniqueTable.find?_modified fun _ => rfl

end AccountEffect

/-- How one commit of these statements may change the rows: none is lost, and a spent token
stays spent. -/
structure Store.Leads (before after : Store) : Prop where
  users : ∀ id user, before.user? id = some user →
    ∃ next, after.user? id = some next ∧ next.merchantId = user.merchantId
  resetTokens : ∀ tokenHash token, before.resetToken? tokenHash = some token →
    ∃ next, after.resetToken? tokenHash = some next ∧ next.userId = token.userId ∧
      next.expiresAt = token.expiresAt ∧ (token.usedAt.isSome = true → next.usedAt.isSome = true)

theorem Store.Leads.refl (store : Store) : store.Leads store where
  users := fun _ user found => ⟨user, found, rfl⟩
  resetTokens := fun _ token found => ⟨token, found, rfl, rfl, id⟩

theorem Store.Leads.trans {first second third : Store} (one : first.Leads second)
    (two : second.Leads third) : first.Leads third where
  users := by
    intro id user found
    obtain ⟨middle, there, merchant⟩ := one.users id user found
    obtain ⟨last, here, same⟩ := two.users id middle there
    exact ⟨last, here, same.trans merchant⟩
  resetTokens := by
    intro tokenHash token found
    obtain ⟨middle, there, user, expiry, spent⟩ := one.resetTokens tokenHash token found
    obtain ⟨last, here, user', expiry', spent'⟩ := two.resetTokens tokenHash middle there
    exact ⟨last, here, user'.trans user, expiry'.trans expiry, fun used => spent' (spent used)⟩

theorem AccountEffect.leads (effect : AccountEffect) (store : Store) :
    store.Leads (effect.apply store) := by
  have same := Store.Leads.refl store
  cases effect with
  | createUser row =>
      exact ⟨fun _ user found => ⟨user, UniqueTable.find?_insert?_getD found, rfl⟩,
        same.resetTokens⟩
  | updateUser access id data =>
      refine ⟨fun other user found => ?_, same.resetTokens⟩
      rw [user?_updateUser, found, Option.map_some]
      refine ⟨_, rfl, ?_⟩
      split <;> rfl
  | createResetToken row =>
      exact ⟨same.users, fun _ token found =>
        ⟨token, UniqueTable.find?_insert?_getD found, rfl, rfl, id⟩⟩
  | spendResetTokens userId tokenHashes now =>
      refine ⟨same.users, fun tokenHash token found => ?_⟩
      rw [resetToken?_spendResetTokens, found, Option.map_some]
      refine ⟨_, rfl, ?_⟩
      split <;> simp
  | claimResetToken claimed now =>
      refine ⟨same.users, fun tokenHash token found => ?_⟩
      rw [resetToken?_claimResetToken, found, Option.map_some]
      refine ⟨_, rfl, ?_⟩
      split <;> simp
  | deleteAssignments userId brandIds => exact ⟨same.users, same.resetTokens⟩
  | createAssignments userId brandIds skip => exact ⟨same.users, same.resetTokens⟩
  | createSession row => exact ⟨same.users, same.resetTokens⟩
  | revokeSessions userId tokenHashes now => exact ⟨same.users, same.resetTokens⟩
  | createAuditEntry row => exact ⟨same.users, same.resetTokens⟩
  | sendSetPasswordLink recipient token => exact ⟨same.users, same.resetTokens⟩

/-- The part of the tables that the lock on a set-password link protects. -/
def tokenCell : RowKey → Store → Option PasswordResetToken
  | .resetToken tokenHash, store => store.resetToken? tokenHash
  | _, _ => none

theorem AccountEffect.within (effect : AccountEffect) (store : Store) {row : RowKey}
    (unlocked : row ∉ effect.rows) :
    tokenCell row (effect.apply store) = tokenCell row store := by
  cases row with
  | resetToken tokenHash =>
      cases effect with
      | createResetToken row =>
          have other : ¬ row.tokenHash = tokenHash := by
            simpa [rows, eq_comm] using unlocked
          change ((store.resetTokens.insert? row).getD store.resetTokens).rows.find? _ = _
          rcases store.resetTokens.rows_of_insert?_getD row with same | added
          · rw [same]
            rfl
          · rw [added, List.find?_append]
            simp [other, tokenCell, Store.resetToken?]
      | spendResetTokens userId tokenHashes now =>
          have other : tokenHash ∉ tokenHashes := by simpa [rows] using unlocked
          change Store.resetToken? _ _ = store.resetToken? tokenHash
          rw [resetToken?_spendResetTokens]
          cases found : store.resetToken? tokenHash with
          | none => rfl
          | some token =>
              have named := (Store.resetToken?_eq_some.mp found).2
              simp [named, other]
      | claimResetToken claimed now =>
          have other : ¬ tokenHash = claimed := by simpa [rows] using unlocked
          change Store.resetToken? _ _ = store.resetToken? tokenHash
          rw [resetToken?_claimResetToken]
          cases found : store.resetToken? tokenHash with
          | none => rfl
          | some token =>
              have named := (Store.resetToken?_eq_some.mp found).2
              simp [named, other]
      | _ => rfl
  | _ => rfl

/-! ## Calls beside one another -/

def accountRely : Rely Store RowKey (Option PasswordResetToken) where
  holds := fun _ => True
  leads := Store.Leads
  cell := tokenCell

theorem stable_leads (store : Store) (rows : List RowKey) :
    accountRely.Stable rows store.Leads :=
  fun _ _ _ leads _ known => known.trans leads

/-- The WHERE clause of the claim, as a fact about the link. -/
theorem applies_claim {tokenHash : String} {now : Time} {store : Store} :
    (AccountEffect.claimResetToken tokenHash now).applies store = true ↔
      ∃ token, store.resetToken? tokenHash = some token ∧ token.usedAt = none ∧
        now < token.expiresAt := by
  simp only [AccountEffect.applies, List.any_eq_true, Bool.and_eq_true, decide_eq_true_eq,
    Option.isNone_iff_eq_none]
  constructor
  · rintro ⟨token, member, ⟨named, unused⟩, fresh⟩
    exact ⟨token, Store.resetToken?_eq_some.mpr ⟨member, named⟩, unused, fresh⟩
  · rintro ⟨token, found, unused, fresh⟩
    obtain ⟨member, named⟩ := Store.resetToken?_eq_some.mp found
    exact ⟨token, member, ⟨named, unused⟩, fresh⟩

theorem stable_claim (tokenHash : String) (now : Time) :
    accountRely.Stable (AccountEffect.claimResetToken tokenHash now).rows
      fun store => (AccountEffect.claimResetToken tokenHash now).applies store = true := by
  intro before after _ _ same matched
  have cell : after.resetToken? tokenHash = before.resetToken? tokenHash :=
    same (.resetToken tokenHash) (by simp [AccountEffect.rows])
  rw [applies_claim] at matched ⊢
  rwa [cell]

abbrev Performs {α : Type} (P : AccountEffect → Prop) (program : Tx α) : Prop :=
  program.Performs AccountEffect.rows AccountEffect.apply P

abbrev Recorded (journal : Journal Store AccountEffect) (pending : Store → Store)
    (rows : List RowKey) : Prop :=
  ReadCommitted.Recorded AccountEffect.rows AccountEffect.apply journal pending rows

theorem leads_writes (effects : List AccountEffect) (store : Store) :
    store.Leads (Journal.applied AccountEffect.apply effects store) := by
  induction effects with
  | nil => exact .refl store
  | cons effect rest ih => exact ih.trans (effect.leads _)

theorem within_writes (effects : List AccountEffect) (store : Store) {row : RowKey}
    (unlocked : ∀ effect ∈ effects, row ∉ effect.rows) :
    tokenCell row (Journal.applied AccountEffect.apply effects store) = tokenCell row store := by
  induction effects with
  | nil => rfl
  | cons effect rest ih =>
      have here := effect.within (Journal.applied AccountEffect.apply rest store)
        (unlocked effect (by simp))
      exact here.trans (ih fun other member => unlocked other (by simp [member]))

/-- A commit of what the journal records keeps to what everybody relies on. -/
theorem honoured {α : Type} {conduct : Conduct Store AccountEffect AccountError α}
    {journal : Journal Store AccountEffect} {rows : List RowKey} {store : Store}
    (locked : ∀ effect ∈ journal.writing, ∀ row ∈ effect.rows, row ∈ rows)
    (leaves : conduct.leaves journal store (journal.replay AccountEffect.apply store)) :
    accountRely.Honoured conduct journal rows store
      (journal.replay AccountEffect.apply store) where
  holds := trivial
  leads := leads_writes journal.writing store
  within := by
    intro row unlocked
    exact within_writes journal.writing store
      fun effect member named => unlocked (locked effect member row named)
  leaves := leaves

section Texts

variable {α β : Type} {P : AccountEffect → Prop}

theorem performs_perform {effect : AccountEffect} {next : Bool → Tx α} (here : P effect)
    (rest : ∀ matched, Performs P (next matched)) : Performs P (perform effect >>= next) :=
  ⟨rfl, rfl, here, rest⟩

theorem performs_performNow {effect : AccountEffect} {next : Bool → Tx α} (here : P effect)
    (rest : ∀ matched, Performs P (next matched)) : Performs P (performNow effect >>= next) :=
  ⟨rfl, rfl, here, rest⟩

theorem performs_require {condition : Bool} {error : AccountError} {next : Unit → Tx α}
    (rest : condition = true → Performs P (next ())) :
    Performs P (require condition error >>= next) := by
  cases condition with
  | false => trivial
  | true => exact rest rfl

theorem require_performs {condition : Bool} {error : AccountError} :
    Performs P (require condition error) := by
  cases condition <;> trivial

theorem performs_orThrow {γ : Type} {error : AccountError} {found : Option γ} {next : γ → Tx α}
    (rest : ∀ value, found = some value → Performs P (next value)) :
    Performs P (orThrow error found >>= next) := by
  cases found with
  | none => trivial
  | some value => exact rest value rfl

theorem performs_updateUser {access : Access} {id : String} {data : UserUpdate}
    {next : User → Tx α} (here : P (.updateUser access id data))
    (rest : ∀ user, user.id = id → Performs P (next user)) :
    Performs P (updateUser access id data >>= next) := by
  refine performs_perform here fun matched => ?_
  cases matched with
  | false => trivial
  | true =>
      intro store
      exact performs_orThrow fun user found => rest user (Store.user?_eq_some.mp found).2

variable {conduct : Conduct Store AccountEffect AccountError β}
  {last : α → Journal Store AccountEffect → (Store → Store) → List RowKey → (Store → Prop) → Prop}
  {journal : Journal Store AccountEffect} {pending : Store → Store} {rows : List RowKey}
  {knows : Store → Prop}

theorem follows_require {condition : Bool} {error : AccountError} {next : Unit → Tx α}
    (refused : condition = false → conduct.ends (.dropped :: journal) (.error error))
    (rest : condition = true →
      (next ()).Follows accountRely conduct last journal pending rows knows) :
    (require condition error >>= next).Follows accountRely conduct last journal pending rows
      knows := by
  cases condition with
  | false => exact refused rfl
  | true => exact rest rfl

theorem follows_orThrow {γ : Type} {error : AccountError} {found : Option γ} {next : γ → Tx α}
    (missing : found = none → conduct.ends (.dropped :: journal) (.error error))
    (rest : ∀ value, found = some value →
      (next value).Follows accountRely conduct last journal pending rows knows) :
    (orThrow error found >>= next).Follows accountRely conduct last journal pending rows
      knows := by
  cases found with
  | none => exact missing rfl
  | some value => exact rest value rfl

theorem follows_perform {effect : AccountEffect} {next : Bool → Tx α}
    (recorded : Recorded journal pending rows) (stable : accountRely.Stable rows knows)
    (hit : ∀ pending rows, Recorded (.wrote effect :: journal) pending rows →
      accountRely.Stable rows knows →
      (next true).Follows accountRely conduct last (.wrote effect :: journal) pending rows knows)
    (miss : (next false).Follows accountRely conduct last journal pending rows knows) :
    (perform effect >>= next).Follows accountRely conduct last journal pending rows knows :=
  Follows.writeRows stable (hit _ _ (recorded.wrote effect) (stable.locked _)) miss

/-- A statement outside any transaction: what the session knows when it takes the locks, and
what it knows, of what it has left, once the statement has committed. -/
theorem follows_performNow {effect : AccountEffect} {next : Bool → Tx α}
    (knownAt : Store → Prop) (knownAfter : Store → Store → Prop) (quiet : journal.writing = [])
    (stable : accountRely.Stable [] knows) (stableAt : accountRely.Stable effect.rows knownAt)
    (stableAfter : ∀ store, accountRely.Stable [] (knownAfter store))
    (learns : ∀ store, knows store → effect.applies store = true → knownAt store)
    (leads : ∀ store, knownAt store → knownAfter (effect.apply store) (effect.apply store))
    (leaves : ∀ store, knownAt store →
      conduct.leaves (.wrote effect :: journal) store (effect.apply store))
    (still : ∀ view store, effect.applies view = false → knows store →
      conduct.leaves journal store store)
    (hit : ∀ store, (next true).Follows accountRely conduct last
      (.left store :: .wrote effect :: journal) id [] (knownAfter store))
    (miss : ∀ view store, effect.applies view = false →
      (next false).Follows accountRely conduct last (.left store :: journal) id [] knows) :
    (performNow effect >>= next).Follows accountRely conduct last journal id [] knows := by
  have recorded : Recorded journal id [] := ⟨by rw [Journal.replay, quiet]; rfl, by simp [quiet]⟩
  intro store _ known
  constructor
  · intro applied
    have locked : accountRely.Stable (effect.rows ++ []) knownAt := by
      rw [List.append_nil]
      exact stableAt
    refine ⟨knownAt, locked, learns store known applied, ?_⟩
    intro store _ known
    have wrote := recorded.wrote effect
    have done : Journal.replay AccountEffect.apply (.wrote effect :: journal) store =
        effect.apply store := by
      rw [← wrote.same]
      rfl
    have commits := honoured wrote.locked
      (by rw [done]; exact leaves store known)
    rw [done] at commits
    exact ⟨commits, _, stableAfter _, leads store known, hit _⟩
  · intro missed
    refine ⟨knows, stable, known, ?_⟩
    intro later _ known
    have done : Journal.replay AccountEffect.apply journal later = later := by
      rw [← recorded.same]
      rfl
    have commits := honoured recorded.locked
      (by rw [done]; exact still store later missed known)
    rw [done] at commits
    exact ⟨commits, knows, stable, known, miss store later missed⟩

end Texts

end Accounts

end MultiBrandInvoicing
