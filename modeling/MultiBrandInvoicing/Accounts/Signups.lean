import MultiBrandInvoicing.Accounts.SignIn
import MultiBrandInvoicing.ReadCommitted.Focus

/-!
# Self-serve signup

`AuthService.register` in `apps/api/src/auth/auth.service.ts`: a call looks the address up among
the users of all merchants and then creates a merchant with its first owner.  The two are
statements of their own, and the unique index on addresses is one for each merchant.
-/

set_option autoImplicit false

namespace MultiBrandInvoicing

namespace Signups

open ReadCommitted Program Accounts

/-- The columns of `merchant` that a signup fills in. -/
structure MerchantRow where
  id : String
  name : String
  contactEmail : String
  deriving DecidableEq, Repr

def merchantIndexes : List (MerchantRow → Option String) := [fun row => some row.id]

abbrev MerchantTable := UniqueTable MerchantRow String merchantIndexes

structure Store where
  merchants : MerchantTable
  accounts : Accounts.Store

inductive RowKey where
  | merchant (id : String)
  | account (row : Accounts.RowKey)
  deriving DecidableEq, Repr

inductive SignupEffect where
  | createMerchant (row : MerchantRow)
  | onAccounts (effect : AccountEffect)

namespace SignupEffect

def rows : SignupEffect → List RowKey
  | createMerchant row => [.merchant row.id]
  | onAccounts effect => effect.rows.map .account

def applies : SignupEffect → Store → Bool
  | createMerchant row, store => (store.merchants.insert? row).isSome
  | onAccounts effect, store => effect.applies store.accounts

def apply : SignupEffect → Store → Store
  | createMerchant row, store =>
      { store with merchants := (store.merchants.insert? row).getD store.merchants }
  | onAccounts effect, store => { store with accounts := effect.apply store.accounts }

/-- The statement creates a merchant or a user. -/
def creates : SignupEffect → Bool
  | createMerchant _ => true
  | onAccounts (.createUser _) => true
  | onAccounts _ => false

end SignupEffect

abbrev Tx := Program Store RowKey SignupEffect AccountError

def perform (effect : SignupEffect) : Tx Bool :=
  writeRows effect effect.rows effect.applies effect.apply

def require (condition : Bool) (error : AccountError) : Tx Unit :=
  if condition then pure () else .throw error

def accounts : Focus Store RowKey SignupEffect Accounts.Store Accounts.RowKey AccountEffect where
  get := Store.accounts
  put := fun accounts store => { store with accounts }
  row := .account
  label := .onAccounts

structure RegisterInput where
  fullName : String
  email : String
  deriving DecidableEq, Repr

/-- What one call draws (the ids, the hash of a random password, the token of the link), and
whether its mail is accepted. -/
structure Drawn where
  merchantId : String
  userId : String
  passwordHash : String
  token : String
  mailed : Bool
  now : Time
  deriving DecidableEq, Repr

def addressInUse : AccountError := .conflict "an account with this email address already exists"

/-- Some user, at whatever merchant, has the address. -/
def isInUse (email : String) (store : Store) : Bool :=
  store.accounts.users.rows.any fun user => user.email = email

def merchantOf (input : RegisterInput) (drawn : Drawn) : MerchantRow where
  id := drawn.merchantId
  name := input.fullName
  contactEmail := input.email

def ownerOf (input : RegisterInput) (drawn : Drawn) : User where
  id := drawn.userId
  merchantId := drawn.merchantId
  email := input.email
  passwordHash := drawn.passwordHash
  name := input.fullName
  role := .merchantOwner
  status := .invited
  createdAt := drawn.now

/-- What follows the creation: the link, its mail and the audit entry. -/
def welcome (digests : Digests) (context : AttemptContext) (drawn : Drawn) (created : User) :
    Accounts.Tx Unit := do
  let link ← PasswordResetService.issue digests created.id drawn.token drawn.now
  announce (.sendSetPasswordLink created.email link.token)
  Accounts.require drawn.mailed .mail
  AuthService.record created.merchantId created.id .success none context .register drawn.now

/-- `user.create` with its nested merchant: two inserts in one transaction. -/
def createOwner (input : RegisterInput) (drawn : Drawn) : Tx User := do
  let merchant ← perform (.createMerchant (merchantOf input drawn))
  require merchant .constraintViolation
  let owner ← perform (.onAccounts (.createUser (ownerOf input drawn)))
  require owner .constraintViolation
  commitNow
  pure (ownerOf input drawn)

def register (digests : Digests) (input : RegisterInput) (context : AttemptContext)
    (drawn : Drawn) : Tx Unit := do
  let store ← read
  require (!isInUse input.email store) addressInUse
  let created ← createOwner input drawn
  (welcome digests context drawn created).focus accounts

/-! ## What one statement does to merchants and users -/

def present : RowKey → Store → Bool
  | .merchant id, store => store.merchants.rows.any fun row => row.id = id
  | .account (.user id), store => store.accounts.users.rows.any fun user => user.id = id
  | .account (.userEmail merchantId email), store =>
      store.accounts.users.rows.any fun user =>
        user.merchantId = merchantId && user.email = email
  | _, _ => false

def SignupEffect.IsQuiet (effect : SignupEffect) : Prop :=
  effect.creates = false ∧ ∀ store, (effect.apply store).merchants = store.merchants ∧
    (effect.apply store).accounts.users = store.accounts.users

section Statements

variable {store : Store}

theorem SignupEffect.applies_createMerchant {row : MerchantRow} :
    (createMerchant row).applies store = true ↔ present (.merchant row.id) store = false := by
  change (store.merchants.insert? row).isSome = true ↔ _
  rw [UniqueTable.isSome_insert?]
  simp [merchantIndexes, present]

theorem SignupEffect.applies_createUser {row : User} :
    (onAccounts (.createUser row)).applies store = true ↔
      present (.account (.user row.id)) store = false ∧
        present (.account (.userEmail row.merchantId row.email)) store = false := by
  change (store.accounts.users.insert? row).isSome = true ↔ _
  rw [UniqueTable.isSome_insert?]
  simp [userIndexes, present]

/-- An insert takes its own keys and no other. -/
theorem SignupEffect.present_createMerchant (row : MerchantRow) {key : RowKey}
    (unlocked : key ∉ (createMerchant row).rows) :
    present key ((createMerchant row).apply store) = present key store := by
  cases key with
  | account key => cases key <;> rfl
  | merchant id =>
      have other : ¬row.id = id := by simpa [rows, eq_comm] using unlocked
      change ((store.merchants.insert? row).getD store.merchants).rows.any _ = _
      rcases store.merchants.rows_of_insert?_getD row with same | added
      · rw [same]
        rfl
      · rw [added, List.any_append]
        simp [other, present]

theorem SignupEffect.present_createUser (row : User) {key : RowKey}
    (unlocked : key ∉ (onAccounts (.createUser row)).rows) :
    present key ((onAccounts (.createUser row)).apply store) = present key store := by
  have added := store.accounts.users.rows_of_insert?_getD row
  cases key with
  | merchant id => rfl
  | account key =>
      cases key with
      | user id =>
          have other : ¬row.id = id := by
            simpa [rows, AccountEffect.rows, eq_comm] using unlocked
          change ((store.accounts.users.insert? row).getD store.accounts.users).rows.any _ = _
          rcases added with same | added
          · rw [same]
            rfl
          · rw [added, List.any_append]
            simp [other, present]
      | userEmail merchantId email =>
          have other : (decide (row.merchantId = merchantId) && decide (row.email = email)) =
              false := by
            by_contra same
            obtain ⟨rfl, rfl⟩ : row.merchantId = merchantId ∧ row.email = email := by
              simpa using same
            exact unlocked (by simp [rows, AccountEffect.rows])
          change ((store.accounts.users.insert? row).getD store.accounts.users).rows.any _ = _
          rcases added with same | added
          · rw [same]
            rfl
          · rw [added, List.any_append, List.any_cons, other, List.any_nil, Bool.or_false,
              Bool.or_false]
            rfl
      | _ => rfl

theorem SignupEffect.IsQuiet.present {effect : SignupEffect} (quiet : effect.IsQuiet)
    (key : RowKey) : present key (effect.apply store) = present key store := by
  obtain ⟨merchants, users⟩ := quiet.2 store
  cases key with
  | merchant id => rw [Signups.present, Signups.present, merchants]
  | account key => cases key <;> simp only [Signups.present, users]

end Statements

/-! ## Along the text of a call -/

/-- What the calls rely on of one another is the locks on the keys they take. -/
def signupRely : Rely Store RowKey Bool where
  holds := fun _ => True
  leads := fun _ _ => True
  cell := present

/-- While its keys are locked, an insert that was accepted stays acceptable. -/
theorem stable_createMerchant (row : MerchantRow) :
    signupRely.Stable (SignupEffect.createMerchant row).rows
      fun store => (SignupEffect.createMerchant row).applies store = true := by
  intro before after _ _ same accepted
  rw [SignupEffect.applies_createMerchant] at accepted ⊢
  exact (same (.merchant row.id) (by simp [SignupEffect.rows])).trans accepted

theorem stable_createUser (row : User) :
    signupRely.Stable (SignupEffect.onAccounts (.createUser row)).rows
      fun store => (SignupEffect.onAccounts (.createUser row)).applies store = true := by
  intro before after _ _ same accepted
  rw [SignupEffect.applies_createUser] at accepted ⊢
  have kept : ∀ key ∈ (SignupEffect.onAccounts (.createUser row)).rows,
      present key after = present key before := same
  exact ⟨(kept _ (by simp [SignupEffect.rows, AccountEffect.rows])).trans accepted.1,
    (kept _ (by simp [SignupEffect.rows, AccountEffect.rows])).trans accepted.2⟩

def HasCreated (journal : Journal Store SignupEffect) : Prop :=
  ∃ effect ∈ journal.settled, effect.creates = true

def IsRefusal (outcome : Except AccountError Unit) : Prop :=
  outcome = .error addressInUse ∨ outcome = .error .constraintViolation

/-- How a commit of a call changes merchants and users, and what the call then knew. -/
inductive SignupStep (email : String) (journal : Journal Store SignupEffect)
    (before after : Store) : Prop where
  | still (quiet : ∀ effect ∈ journal.writing, effect.creates = false)
      (merchants : after.merchants = before.merchants)
      (users : after.accounts.users = before.accounts.users)
  | create (merchant : MerchantRow) (owner : User) (address : owner.email = email)
      (writes : ∃ effect ∈ journal.writing, effect.creates = true)
      (looked : ∃ view ∈ journal.opening, isInUse email view = false)
      (merchants : after.merchants.rows = before.merchants.rows ++ [merchant])
      (users : after.accounts.users.rows = before.accounts.users.rows ++ [owner])

def signupConduct (email : String) : Conduct Store SignupEffect AccountError Unit where
  leaves := SignupStep email
  tells := fun _ _ _ => True
  ends := fun journal outcome => HasCreated journal ∨ IsRefusal outcome

section Texts

variable {email : String}

abbrev Finishes (email : String) (program : Tx Unit) (journal : Journal Store SignupEffect)
    (pending : Store → Store) (rows : List RowKey) (knows : Store → Prop) : Prop :=
  program.Follows signupRely (signupConduct email)
    ((signupConduct email).finishes signupRely) journal pending rows knows

theorem finishes_require {condition : Bool} {error : AccountError} {next : Unit → Tx Unit}
    {journal : Journal Store SignupEffect} {pending : Store → Store} {rows : List RowKey}
    {knows : Store → Prop} (refusal : IsRefusal (.error error))
    (rest : condition = true → Finishes email (next ()) journal pending rows knows) :
    Finishes email (require condition error >>= next) journal pending rows knows := by
  cases condition with
  | false => exact .inr refusal
  | true => exact rest rfl

theorem quiet_writes {effects : List SignupEffect} (quiet : ∀ effect ∈ effects, effect.IsQuiet)
    (store : Store) :
    (Journal.applied SignupEffect.apply effects store).merchants = store.merchants ∧
      (Journal.applied SignupEffect.apply effects store).accounts.users =
        store.accounts.users ∧
      ∀ key, present key (Journal.applied SignupEffect.apply effects store) =
        present key store := by
  induction effects with
  | nil => exact ⟨rfl, rfl, fun _ => rfl⟩
  | cons effect rest ih =>
      obtain ⟨merchants, users, keys⟩ := ih fun other member => quiet other (by simp [member])
      have here := quiet effect (by simp)
      obtain ⟨sameMerchants, sameUsers⟩ :=
        here.2 (Journal.applied SignupEffect.apply rest store)
      exact ⟨sameMerchants.trans merchants, sameUsers.trans users,
        fun key => (here.present key).trans (keys key)⟩

theorem HasCreated.cons {journal : Journal Store SignupEffect} (created : HasCreated journal)
    (entry : Entry Store SignupEffect) : HasCreated (entry :: journal) := by
  obtain ⟨effect, settled, creates⟩ := created
  exact ⟨effect, Journal.mem_settled_cons entry settled, creates⟩

theorem HasCreated.grown {earlier later : Journal Store SignupEffect}
    (created : HasCreated earlier) (grows : Journal.Grows SignupEffect.IsQuiet earlier later) :
    HasCreated later := by
  obtain ⟨more, rfl, quiet⟩ := grows
  clear quiet
  induction more with
  | nil => exact created
  | cons entry rest ih => exact HasCreated.cons ih entry

theorem welcome_performs (digests : Digests) (context : AttemptContext) (drawn : Drawn)
    (created : User) :
    ((welcome digests context drawn created).focus accounts).Performs SignupEffect.rows
      SignupEffect.apply SignupEffect.IsQuiet := by
  have text : Accounts.Performs (fun effect => (SignupEffect.onAccounts effect).creates = false ∧
      ∀ store, (effect.apply store).users = store.users)
      (welcome digests context drawn created) := by
    unfold welcome
    refine (PasswordResetService.issue_performs (fun _ => ⟨rfl, fun _ => rfl⟩)
      fun _ => ⟨rfl, fun _ => rfl⟩).bind fun link => ?_
    refine performs_require fun _ => ?_
    exact AuthService.record_performs ⟨rfl, fun _ => rfl⟩
  refine text.focus (fun _ => rfl) (fun _ _ => rfl) ?_
  intro effect quiet
  exact ⟨quiet.1, fun store => ⟨rfl, quiet.2 store.accounts⟩⟩

/-- From the commit of the creation on, a call only does what leaves merchants and users alone. -/
theorem welcome_finishes {digests : Digests} {context : AttemptContext} {drawn : Drawn}
    {created : User} {journal : Journal Store SignupEffect} (store : Store)
    (had : HasCreated (.left store :: journal)) :
    Finishes email ((welcome digests context drawn created).focus accounts)
      (.left store :: journal) id [] fun _ => True := by
  have quiet : ∀ later, Journal.Grows SignupEffect.IsQuiet (.left store :: journal) later →
      ∀ effect ∈ later.writing, effect.IsQuiet := by
    intro later grows
    rcases grows.writing with ⟨added, each, same⟩ | each
    · intro effect member
      rw [same] at member
      exact each effect (by simpa [Journal.writing] using member)
    · exact each
  refine (welcome_performs digests context drawn created).finishes ?_ (fun _ _ _ _ => trivial)
    (fun later error grows => .inl ((had.grown grows).cons _))
    (fun later store value grows => .inl ((had.grown grows).cons _)) (.refl _) (.left store)
    Rely.stable_true
  intro later rows store grows locked _
  obtain ⟨merchants, users, keys⟩ := quiet_writes (quiet later grows) store
  exact {
    holds := trivial
    leads := trivial
    within := fun key _ => keys key
    leaves := .still (fun effect member => (quiet later grows effect member).1) merchants users }

theorem finishes_insert {effect : SignupEffect} {next : Unit → Tx Unit}
    {journal : Journal Store SignupEffect} {pending : Store → Store} {rows : List RowKey}
    {knows : Store → Prop} (stable : signupRely.Stable rows knows)
    (known : signupRely.Stable effect.rows fun store => effect.applies store = true)
    (apart : ∀ store, effect.applies (pending store) = effect.applies store)
    (rest : Finishes email (next ()) (.wrote effect :: journal) (effect.apply ∘ pending)
      (effect.rows ++ rows) fun store => knows store ∧ effect.applies store = true) :
    Finishes email (perform effect >>= fun made => require made .constraintViolation >>= next)
      journal pending rows knows := by
  intro store _ here
  constructor
  · intro accepted
    refine ⟨_, (stable.locked _).and (known.mono (by simp +contextual)), ⟨here, ?_⟩, rest⟩
    rwa [apart] at accepted
  · intro refused
    exact ⟨knows, stable, here, .inr (.inr rfl)⟩

theorem creation_honoured {input : RegisterInput} {drawn : Drawn} {view store : Store}
    (unused : isInUse input.email view = false)
    (merchant : (SignupEffect.createMerchant (merchantOf input drawn)).applies store = true)
    (owner : (SignupEffect.onAccounts (.createUser (ownerOf input drawn))).applies store = true) :
    signupRely.Honoured (signupConduct input.email)
      [.wrote (.onAccounts (.createUser (ownerOf input drawn))),
        .wrote (.createMerchant (merchantOf input drawn)), .found view]
      ((SignupEffect.onAccounts (.createUser (ownerOf input drawn))).rows ++
        ((SignupEffect.createMerchant (merchantOf input drawn)).rows ++ [])) store
      ((SignupEffect.onAccounts (.createUser (ownerOf input drawn))).apply
        ((SignupEffect.createMerchant (merchantOf input drawn)).apply store)) where
  holds := trivial
  leads := trivial
  within := by
    intro key unlocked
    rw [List.append_nil, List.mem_append, not_or] at unlocked
    exact (SignupEffect.present_createUser _ unlocked.1).trans
      (SignupEffect.present_createMerchant _ unlocked.2)
  leaves := .create (merchantOf input drawn) (ownerOf input drawn) rfl
    ⟨.createMerchant (merchantOf input drawn), by simp [Journal.writing], rfl⟩
    ⟨view, by simp [Journal.opening, Journal.found?], unused⟩
    (UniqueTable.rows_of_insert?_isSome merchant) (UniqueTable.rows_of_insert?_isSome owner)

/-- A call looks first, and creates only where it found the address free. -/
theorem register_finishes (digests : Digests) (input : RegisterInput) (context : AttemptContext)
    (drawn : Drawn) :
    Finishes input.email (register digests input context drawn) [] id [] fun _ => True := by
  unfold register
  intro view _ _
  refine ⟨_, Rely.stable_true, trivial, ?_⟩
  refine finishes_require (.inl rfl) fun free => ?_
  have unused : isInUse input.email view = false := by simpa using free
  simp only [createOwner, bind_bind]
  refine finishes_insert Rely.stable_true (stable_createMerchant _) (fun _ => rfl) ?_
  refine finishes_insert (Rely.stable_true.and ((stable_createMerchant _).mono (by simp)))
    (stable_createUser _) (fun _ => rfl) ?_
  intro store _ accepted
  have created : HasCreated (.left (SignupEffect.apply (.onAccounts (.createUser
      (ownerOf input drawn))) (SignupEffect.apply (.createMerchant (merchantOf input drawn))
        store)) :: [.wrote (.onAccounts (.createUser (ownerOf input drawn))),
          .wrote (.createMerchant (merchantOf input drawn)), .found view]) :=
    ⟨.createMerchant (merchantOf input drawn), by simp [Journal.settled, Journal.writing], rfl⟩
  refine ⟨?_, _, Rely.stable_true, trivial, welcome_finishes _ created⟩
  exact creation_honoured unused accepted.1.2 accepted.2

end Texts

/-! ## Any number of calls for one address -/

section Runs

variable {ι : Type} [DecidableEq ι]

structure RegisterCall where
  fullName : String
  context : AttemptContext
  drawn : Drawn

abbrev SignupState (ι : Type) := Journaled ι Store RowKey SignupEffect AccountError Unit

def signupStart (digests : Digests) (email : String) (calls : ι → RegisterCall) (store : Store) :
    SignupState ι :=
  Journaled.start store fun session =>
    register digests ⟨(calls session).fullName, email⟩ (calls session).context
      (calls session).drawn

/-- The calls have come to one merchant and one user at most, and every call that has ended is
the one that created them or was refused. -/
structure OneTenant (opened : Store) (state : SignupState ι) : Prop where
  merchants : state.config.committed.merchants.rows.length ≤ opened.merchants.rows.length + 1
  users : state.config.committed.accounts.users.rows.length ≤
    opened.accounts.users.rows.length + 1
  single : ∀ first second, HasCreated (state.journal first) → HasCreated (state.journal second) →
    first = second
  refused : ∀ session outcome, state.config.sessions session = .returned outcome →
    ¬HasCreated (state.journal session) → IsRefusal outcome

/-- A call that has found the address free commits its creation while it still is. -/
def CreatesWhileFree (email : String) (state : SignupState ι)
    (action : ReadCommitted.Action ι) : Prop :=
  (state.commits? action).isSome = true →
    (∃ effect ∈ (state.journal action.session).writing, effect.creates = true) →
      ∀ view ∈ (state.journal action.session).opening, isInUse email view = false →
        isInUse email state.config.committed = false

instance (email : String) (state : SignupState ι) (action : ReadCommitted.Action ι) :
    Decidable (CreatesWhileFree email state action) :=
  inferInstanceAs (Decidable (_ → (∃ effect ∈ (state.journal action.session).writing, _) →
    ∀ view ∈ (state.journal action.session).opening, _ → _))

/-- What the calls have come to so far. -/
inductive Tenants (email : String) (opened store : Store)
    (journals : ι → Journal Store SignupEffect) : Prop where
  | none (merchants : store.merchants.rows = opened.merchants.rows)
      (users : store.accounts.users.rows = opened.accounts.users.rows)
      (nobody : ∀ session, ¬HasCreated (journals session))
  | one (creator : ι) (merchant : MerchantRow) (owner : User) (address : owner.email = email)
      (merchants : store.merchants.rows = opened.merchants.rows ++ [merchant])
      (users : store.accounts.users.rows = opened.accounts.users.rows ++ [owner])
      (alone : ∀ session, HasCreated (journals session) → session = creator)

variable {email : String} {opened store after : Store} {journals : ι → Journal Store SignupEffect}
  {session : ι}

theorem HasCreated.of_update {entry : Entry Store SignupEffect} {other : ι}
    (quiet : (∃ left, entry = .left left) →
      ∀ effect ∈ (journals session).writing, effect.creates = false)
    (created : HasCreated (Function.update journals session (entry :: journals session) other)) :
    HasCreated (journals other) := by
  obtain ⟨effect, settled, creates⟩ := created
  rcases Journal.settled_update settled with before | ⟨_, left, written⟩
  · exact ⟨effect, before, creates⟩
  · rw [quiet left effect written] at creates
    cases creates

theorem Tenants.quiet (tenants : Tenants email opened store journals)
    {entry : Entry Store SignupEffect}
    (quiet : (∃ left, entry = .left left) →
      ∀ effect ∈ (journals session).writing, effect.creates = false)
    (merchants : after.merchants = store.merchants)
    (users : after.accounts.users = store.accounts.users) :
    Tenants email opened after
      (Function.update journals session (entry :: journals session)) := by
  cases tenants with
  | none sameMerchants sameUsers nobody =>
      refine .none (merchants ▸ sameMerchants) (users ▸ sameUsers) fun other created => ?_
      exact nobody other (created.of_update quiet)
  | one creator merchant owner address moreMerchants moreUsers alone =>
      refine .one creator merchant owner address (merchants ▸ moreMerchants) (users ▸ moreUsers)
        fun other created => ?_
      exact alone other (created.of_update quiet)

/-- A creation that is committed while the address is free is the first. -/
theorem Tenants.create (tenants : Tenants email opened store journals) {merchant : MerchantRow}
    {owner : User} (address : owner.email = email) (free : isInUse email store = false)
    (merchants : after.merchants.rows = store.merchants.rows ++ [merchant])
    (users : after.accounts.users.rows = store.accounts.users.rows ++ [owner]) :
    Tenants email opened after
      (Function.update journals session (.left after :: journals session)) := by
  cases tenants with
  | none sameMerchants sameUsers nobody =>
      refine .one session merchant owner address (by rw [merchants, sameMerchants])
        (by rw [users, sameUsers]) fun other created => ?_
      by_contra different
      rw [HasCreated, Function.update_of_ne different] at created
      exact nobody other created
  | one creator first holder held moreMerchants moreUsers alone =>
      have taken : isInUse email store = true := by simp [isInUse, moreUsers, held]
      rw [taken] at free
      cases free

omit [DecidableEq ι] in
theorem signups_along (digests : Digests) (email : String) (calls : ι → RegisterCall)
    (store : Store) :
    (signupStart digests email calls store).Along signupRely fun _ => signupConduct email :=
  Journaled.start_along trivial fun session => register_finishes digests
    ⟨(calls session).fullName, email⟩ (calls session).context (calls session).drawn

/-- In every interleaving of the calls for an address whose creations are committed while it is
still free, it comes to at most one merchant and one user. -/
theorem one_tenant_per_address (digests : Digests) (email : String) (calls : ι → RegisterCall)
    (store : Store) (schedule : List (ReadCommitted.Action ι))
    (free : Runs.Throughout Journaled.step (CreatesWhileFree email) schedule
      (signupStart digests email calls store)) :
    Runs.Always Journaled.step (OneTenant store) schedule
      (signupStart digests email calls store) := by
  have nothing : Tenants email store (signupStart digests email calls store).config.committed
      (signupStart digests email calls store).journal :=
    .none rfl rfl fun session ⟨effect, settled, _⟩ => by cases settled
  refine (Journaled.always_of_shifts (Tenants email store) ?_
    (signups_along digests email calls store) nothing free).mono ?_
  · intro state action committed journal _ tenants meets shift
    cases shift with
    | still => rwa [Function.update_eq_self]
    | read => exact tenants.quiet (fun ⟨left, same⟩ => by cases same) rfl rfl
    | write label => exact tenants.quiet (fun ⟨left, same⟩ => by cases same) rfl rfl
    | tell label tells => exact tenants.quiet (fun ⟨left, same⟩ => by cases same) rfl rfl
    | drop => exact tenants.quiet (fun ⟨left, same⟩ => by cases same) rfl rfl
    | commit after commits leaves =>
        cases leaves with
        | still quiet merchants users => exact tenants.quiet (fun _ => quiet) merchants users
        | create merchant owner address writes looked merchants users =>
            obtain ⟨view, opened, unused⟩ := looked
            have still : isInUse email state.config.committed = false :=
              meets (by rw [commits]; rfl) writes view opened unused
            exact tenants.create address still merchants users
  · intro state ⟨along, tenants⟩
    cases tenants with
    | none merchants users nobody =>
        exact {
          merchants := by rw [merchants]; omega
          users := by rw [users]; omega
          single := fun first _ created => absurd created (nobody first)
          refused := fun session outcome returned idle =>
            (along.returned session outcome returned).resolve_left idle }
    | one creator merchant owner address merchants users alone =>
        exact {
          merchants := by simp [merchants]
          users := by simp [users]
          single := fun first second one other => (alone first one).trans (alone second other).symm
          refused := fun session outcome returned idle =>
            (along.returned session outcome returned).resolve_left idle }

def sampleTenants : Store where
  merchants := (UniqueTable.put? [⟨"m", "Acme", "ada@m"⟩]).getD .empty
  accounts := sampleAccounts

def sampleSignups : Bool → RegisterCall
  | true => ⟨"Eve", ⟨none, none⟩, ⟨"m1", "u1", "h1", "t1", true, 5⟩⟩
  | false => ⟨"Eve", ⟨none, none⟩, ⟨"m2", "u2", "h2", "t2", true, 6⟩⟩

def sampleBothSignUp : List (ReadCommitted.Action Bool) :=
  [.advance true, .advance false] ++ List.replicate 3 (.advance true) ++
    List.replicate 3 (.advance false)

theorem double_signup_makes_two :
    isInUse "eve@m" sampleTenants = false ∧
      ¬Runs.Always Journaled.step (OneTenant sampleTenants) sampleBothSignUp
        (signupStart sampleDigests "eve@m" sampleSignups sampleTenants) := by
  refine ⟨by decide +kernel, fun always => ?_⟩
  have two := always.last.merchants
  revert two
  decide +kernel

/-- The second call looks when the first has created. -/
theorem one_tenant_per_address_sample :
    Runs.Always Journaled.step (OneTenant sampleTenants)
      (List.replicate 12 (.advance true) ++ List.replicate 2 (.advance false))
      (signupStart sampleDigests "eve@m" sampleSignups sampleTenants) :=
  one_tenant_per_address sampleDigests "eve@m" sampleSignups sampleTenants _ (by decide +kernel)

end Runs

end Signups

end MultiBrandInvoicing
