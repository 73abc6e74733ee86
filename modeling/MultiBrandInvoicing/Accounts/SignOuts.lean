import Mathlib.Data.Fintype.Basic
import MultiBrandInvoicing.Accounts.SignIn

/-!
# A reset ends the older sign-ins

`setPasswordWithToken` stores the new digest, then looks for the sessions to revoke, then revokes
what it has found; `login` checks the digest it has read and stores its session later.
-/

set_option autoImplicit false

namespace MultiBrandInvoicing

namespace Accounts

open ReadCommitted Program Roles Tenancy

inductive SignInCall where
  | login (attempt : LoginAttempt) (sessionId sessionToken : String) (now : Time)
  | setPasswordWithToken (token passwordHash : String) (context : AttemptContext)
      (sessionId sessionToken : String) (now : Time)

def SignInCall.program (digests : Digests) : SignInCall → Tx LoginResult
  | login attempt sessionId sessionToken now =>
      AuthService.login digests attempt sessionId sessionToken now
  | setPasswordWithToken token passwordHash context sessionId sessionToken now =>
      AuthService.setPasswordWithToken digests token passwordHash context sessionId sessionToken
        now

/-- The digest a call's session rests on: the one that its attempt was checked against, or the
one that it sets. -/
def SignInCall.provenHash? (digests : Digests) (call : SignInCall)
    (journal : Journal Store AccountEffect) : Option String :=
  match call with
  | login attempt _ _ _ =>
      (journal.getLast?.bind Journal.found?).bind fun store =>
        (AuthService.chosen? digests attempt store).map fun found => found.1.passwordHash
  | setPasswordWithToken _ passwordHash _ _ _ _ => some passwordHash

theorem provenHash?_cons {digests : Digests} {call : SignInCall}
    {journal : Journal Store AccountEffect} (begun : journal ≠ [])
    (entry : Entry Store AccountEffect) :
    call.provenHash? digests (entry :: journal) = call.provenHash? digests journal := by
  cases call with
  | login attempt sessionId sessionToken now =>
      cases journal with
      | nil => exact absurd rfl begun
      | cons first rest => rfl
  | setPasswordWithToken => rfl

/-! ## Sessions and digests across a commit -/

namespace AccountEffect

def setsPasswordOf (userId : String) : AccountEffect → Bool
  | updateUser _ id data => id = userId && data.passwordHash.isSome
  | _ => false

variable {effect : AccountEffect} {effects : List AccountEffect} {store : Store}

/-- A session that is not revoked was there before, or has just been stored. -/
theorem session_apply {row : Session} (member : row ∈ (effect.apply store).sessions.rows)
    (unrevoked : row.revokedAt = none) :
    row ∈ store.sessions.rows ∨ effect = .createSession row := by
  cases effect with
  | createSession created =>
      change row ∈ ((store.sessions.insert? created).getD store.sessions).rows at member
      rcases store.sessions.rows_of_insert?_getD created with same | added
      · exact .inl (same ▸ member)
      · rw [added, List.mem_append, List.mem_singleton] at member
        exact member.imp id fun same => by rw [same]
  | revokeSessions userId tokenHashes now =>
      obtain ⟨old, there, rfl⟩ := List.mem_map.mp member
      split at unrevoked
      next => cases unrevoked
      next untouched =>
        rw [if_neg untouched]
        exact .inl there
  | _ => exact .inl member

/-- Of the sessions it names, a revocation leaves none. -/
theorem revoked_apply {userId : String} {tokenHashes : List String} {now : Time} {row : Session}
    (member : row ∈ ((revokeSessions userId tokenHashes now).apply store).sessions.rows)
    (named : row.tokenHash ∈ tokenHashes) (owner : row.userId = userId) :
    row.revokedAt ≠ none := by
  intro unrevoked
  obtain ⟨old, there, rfl⟩ := List.mem_map.mp member
  split at unrevoked
  next => cases unrevoked
  next untouched =>
    rw [if_neg untouched] at named owner
    exact untouched (by simp [named, owner, unrevoked])

theorem session_writes {row : Session}
    (member : row ∈ (Journal.applied AccountEffect.apply effects store).sessions.rows)
    (unrevoked : row.revokedAt = none) :
    row ∈ store.sessions.rows ∨ .createSession row ∈ effects := by
  induction effects with
  | nil => exact .inl member
  | cons effect rest ih =>
      rcases session_apply member unrevoked with before | rfl
      · exact (ih before).imp id (List.mem_cons_of_mem _)
      · exact .inr (by simp)

theorem passwordHash_apply {userId : String} {user : User}
    (quiet : effect.setsPasswordOf userId = false) (found : store.user? userId = some user) :
    ∃ next, (effect.apply store).user? userId = some next ∧
      next.passwordHash = user.passwordHash := by
  cases effect with
  | createUser row => exact ⟨user, UniqueTable.find?_insert?_getD found, rfl⟩
  | updateUser access id data =>
      refine ⟨_, by rw [user?_updateUser, found, Option.map_some], ?_⟩
      split
      next here =>
        obtain ⟨_, rfl⟩ := Store.user?_eq_some.mp found
        have named : user.id = id := by simpa using (Bool.and_eq_true_iff.mp here).1
        have kept : data.passwordHash = none := by
          simpa [setsPasswordOf, named] using quiet
        simp [User.apply, kept]
      next => rfl
  | _ => exact ⟨user, found, rfl⟩

theorem passwordHash_writes {userId : String} {user : User}
    (quiet : ∀ effect ∈ effects, effect.setsPasswordOf userId = false)
    (found : store.user? userId = some user) :
    ∃ next, (Journal.applied AccountEffect.apply effects store).user? userId = some next ∧
      next.passwordHash = user.passwordHash := by
  induction effects with
  | nil => exact ⟨user, found, rfl⟩
  | cons effect rest ih =>
      obtain ⟨middle, there, same⟩ := ih fun other member => quiet other (by simp [member])
      obtain ⟨next, here, kept⟩ := passwordHash_apply (quiet effect (by simp)) there
      exact ⟨next, here, kept.trans same⟩

end AccountEffect

/-! ## The sweep after a reset -/

/-- How far the call is with revoking the sessions of a user whose password it has set. -/
inductive Sweep where
  | idle
  | due
  | looked (view : Store)

def Sweep.look (view : Store) : Sweep → Sweep
  | .due => .looked view
  | sweep => sweep

def sweepOf (userId : String) : Journal Store AccountEffect → Sweep
  | [] => .idle
  | .left _ :: earlier =>
      if (Journal.writing earlier).any (AccountEffect.setsPasswordOf userId) then .due else .idle
  | .found view :: earlier => (sweepOf userId earlier).look view
  | .wrote _ :: earlier => sweepOf userId earlier
  | .told _ :: earlier => sweepOf userId earlier
  | .dropped :: earlier => sweepOf userId earlier

def Sweep.isDue : Sweep → Bool
  | .due => true
  | _ => false

theorem Sweep.isDue_iff {sweep : Sweep} : sweep.isDue = true ↔ sweep = .due := by
  cases sweep <;> simp [isDue]

def sessionsToRevoke (userId : String) (view : Store) : List String :=
  (SessionService.unrevoked userId view).map Session.tokenHash

/-- What a call commits while it sweeps: nothing before it has looked, and then the revocation
of what it has found. -/
structure Sweeps (journal : Journal Store AccountEffect) (before after : Store) : Prop where
  same : after = journal.replay AccountEffect.apply before
  undue : ∀ userId, sweepOf userId journal ≠ .due
  revokes : ∀ userId view, sweepOf userId journal = .looked view →
    ∃ now, journal.writing = [.revokeSessions userId (sessionsToRevoke userId view) now]

def signOutConduct : Conduct Store AccountEffect AccountError LoginResult where
  leaves := Sweeps
  tells := fun _ _ _ => True
  ends := fun journal _ => ∀ userId, sweepOf userId journal = .idle

def NeverSetsPassword (effect : AccountEffect) : Prop :=
  ∀ userId, effect.setsPasswordOf userId = false

theorem sweepOf_grows {userId : String} {earlier later : Journal Store AccountEffect}
    (grows : Journal.Grows NeverSetsPassword earlier later)
    (quiet : ∀ effect ∈ earlier.writing, NeverSetsPassword effect)
    (idle : sweepOf userId earlier = .idle) : sweepOf userId later = .idle := by
  obtain ⟨more, rfl, never⟩ := grows
  induction more with
  | nil => exact idle
  | cons entry rest ih =>
      have rests := ih fun label member => never label (List.mem_cons_of_mem _ member)
      cases entry with
      | found view =>
          change (sweepOf userId (rest ++ earlier)).look view = .idle
          rw [rests]
          rfl
      | left store =>
          rw [List.cons_append, sweepOf, if_neg]
          rw [List.any_eq_true]
          rintro ⟨effect, member, sets⟩
          have grows : Journal.Grows NeverSetsPassword earlier (rest ++ earlier) :=
            ⟨rest, rfl, fun label here => never label (List.mem_cons_of_mem _ here)⟩
          have none : effect.setsPasswordOf userId = false := by
            rcases grows.writing with ⟨added, each, writes⟩ | each
            · rw [writes] at member
              exact (List.mem_append.mp member).elim (fun here => each effect here userId)
                fun here => quiet effect here userId
            · exact each effect member userId
          rw [none] at sets
          cases sets
      | _ => exact rests

section Texts

variable {digests : Digests} {journal : Journal Store AccountEffect} {pending : Store → Store}
  {rows : List RowKey}

theorem sweeps_idle {before : Store} (idle : ∀ userId, sweepOf userId journal = .idle) :
    Sweeps journal before (journal.replay AccountEffect.apply before) :=
  ⟨rfl, fun userId => by simp [idle userId], fun userId view => by simp [idle userId]⟩

theorem follows_idle {program : Tx LoginResult} (performs : Performs NeverSetsPassword program)
    (recorded : Recorded journal pending rows)
    (quiet : ∀ effect ∈ journal.writing, NeverSetsPassword effect)
    (idle : ∀ userId, sweepOf userId journal = .idle) :
    program.Follows accountRely signOutConduct (signOutConduct.finishes accountRely) journal
      pending rows fun _ => True := by
  have ends : ∀ {later}, Journal.Grows NeverSetsPassword journal later →
      ∀ userId, sweepOf userId later = .idle :=
    fun grows userId => sweepOf_grows grows quiet (idle userId)
  refine performs.finishes (fun later rows store grows locked _ => ?_) (fun _ _ _ _ => trivial)
    (fun later error grows => ?_) (fun later store value grows => ?_) (.refl _) recorded
    Rely.stable_true
  · exact honoured locked (sweeps_idle (ends grows))
  · exact ends (grows.add fun _ same => by cases same)
  · exact ends (grows.add fun _ same => by cases same)

theorem login_sweeps (attempt : LoginAttempt) (sessionId sessionToken : String) (now : Time) :
    ((SignInCall.login attempt sessionId sessionToken now).program digests).Follows accountRely
      signOutConduct (signOutConduct.finishes accountRely) [] id [] fun _ => True := by
  refine follows_idle (AuthService.login_performs (fun _ _ => rfl) (fun _ _ => rfl) ?_) .start
    (by simp [Journal.writing]) fun _ => rfl
  intro id data kept _ userId
  simp [AccountEffect.setsPasswordOf, kept]

theorem setPasswordWithToken_sweeps (token passwordHash : String) (context : AttemptContext)
    (sessionId sessionToken : String) (now : Time) :
    ((SignInCall.setPasswordWithToken token passwordHash context sessionId sessionToken
      now).program digests).Follows accountRely signOutConduct
      (signOutConduct.finishes accountRely) [] id [] fun _ => True := by
  unfold SignInCall.program AuthService.setPasswordWithToken PasswordResetService.consume
    AuthService.completeReset SessionService.revokeAllForUser
  simp only [bind_bind]
  refine follows_performNow (fun _ => True) (fun _ _ => True) rfl Rely.stable_true
    Rely.stable_true (fun _ => Rely.stable_true) (fun _ _ _ => trivial) (fun _ _ => trivial)
    (fun _ _ => sweeps_idle fun _ => rfl) (fun _ _ _ _ => sweeps_idle fun _ => rfl)
    (fun left => ?_) fun _ _ _ _ => rfl
  intro view _ _
  refine ⟨_, Rely.stable_true, trivial, ?_⟩
  refine follows_orThrow (fun _ _ => rfl) fun userId claimed => ?_
  refine follows_perform ⟨rfl, by simp [Journal.writing]⟩ Rely.stable_true ?_ fun _ => rfl
  intro pending rows recorded _ store _ _
  refine ⟨_, Rely.stable_true, trivial, ?_⟩
  refine follows_orThrow (fun _ _ => rfl) fun user found => ?_
  refine Follows.commitNow (fun store _ _ => ?_) fun store _ _ => ?_
  · rw [recorded.same]
    exact honoured recorded.locked (sweeps_idle fun _ => rfl)
  · intro seen _ _
    refine ⟨_, Rely.stable_true, trivial, ?_⟩
    have named : user.id = userId := (Store.user?_eq_some.mp found).2
    refine follows_performNow (fun _ => True) (fun _ _ => True) rfl Rely.stable_true
      Rely.stable_true (fun _ => Rely.stable_true) (fun _ _ _ => trivial) (fun _ _ => trivial)
      (fun _ _ => ⟨rfl, fun other => ?_, fun other looked sweep => ?_⟩) (fun _ _ never => ?_)
      (fun _ => ?_) fun _ _ never => ?_
    · simp only [sweepOf]
      split <;> simp [Sweep.look]
    · simp only [sweepOf] at sweep
      split at sweep
      next sets =>
        cases sweep
        have same : userId = other := by
          simpa [Journal.writing, AccountEffect.setsPasswordOf] using sets
        exact ⟨now, by rw [← same, ← named]; rfl⟩
      next => cases sweep
    · cases never
    · refine follows_idle ?_ (.left _) (by simp [Journal.writing]) fun _ => rfl
      refine (SessionService.issue_performs fun _ _ => rfl).bind fun issued => ?_
      exact (AuthService.record_performs fun _ => rfl).bind fun _ => trivial
    · cases never

end Texts

/-! ## Any number of calls beside one another -/

section Runs

variable {ι : Type} [DecidableEq ι]

abbrev SignInState (ι : Type) := Journaled ι Store RowKey AccountEffect AccountError LoginResult

def signInStart (digests : Digests) (calls : ι → SignInCall) (store : Store) : SignInState ι :=
  Journaled.start store fun session => (calls session).program digests

def PasswordStands (digests : Digests) (call : SignInCall) (journal : Journal Store AccountEffect)
    (store : Store) (userId : String) : Prop :=
  ∃ user, store.user? userId = some user ∧
    call.provenHash? digests journal = some user.passwordHash

instance (digests : Digests) (call : SignInCall) (journal : Journal Store AccountEffect)
    (store : Store) (userId : String) :
    Decidable (PasswordStands digests call journal store userId) :=
  decidable_of_iff ((store.user? userId).any fun user =>
      call.provenHash? digests journal = some user.passwordHash) (by
    simp [PasswordStands, Option.any_eq_true])

def Obtained (digests : Digests) (calls : ι → SignInCall) (store : Store)
    (journals : ι → Journal Store AccountEffect) (row : Session) : Prop :=
  ∃ session, .createSession row ∈ (journals session).settled ∧
    PasswordStands digests (calls session) (journals session) store row.userId

def HasReset (journals : ι → Journal Store AccountEffect) (userId : String) : Prop :=
  ∃ session, ∃ effect ∈ (journals session).settled, effect.setsPasswordOf userId = true

/-- Once all have finished, a user that one of them has reset is signed in with the present
password only. -/
def SignInsEnded (digests : Digests) (calls : ι → SignInCall) (state : SignInState ι) : Prop :=
  (∀ session, ∃ outcome, state.config.sessions session = .returned outcome) →
    ∀ userId, HasReset state.journal userId →
      ∀ row ∈ state.config.committed.sessions.rows, row.userId = userId → row.revokedAt = none →
        Obtained digests calls state.config.committed state.journal row

def AccountEffect.createdSession? : AccountEffect → Option Session
  | .createSession row => some row
  | _ => none

/-- A session is stored while the password that it rests on stands, or while a reset has yet
to look for the sessions to revoke. -/
def StoresProven (digests : Digests) (calls : ι → SignInCall) (state : SignInState ι)
    (action : ReadCommitted.Action ι) : Prop :=
  (state.commits? action).isSome = true →
    ∀ effect ∈ (state.journal action.session).writing, ∀ row ∈ effect.createdSession?,
      PasswordStands digests (calls action.session) (state.journal action.session)
          state.config.committed row.userId ∨
        ∃ session, (sweepOf row.userId (state.journal session)).isDue = true

instance [Fintype ι] (digests : Digests) (calls : ι → SignInCall) (state : SignInState ι)
    (action : ReadCommitted.Action ι) : Decidable (StoresProven digests calls state action) :=
  inferInstanceAs (Decidable (_ → ∀ effect ∈ (state.journal action.session).writing,
    ∀ row ∈ effect.createdSession?, PasswordStands digests _ _ _ row.userId ∨
      ∃ session : ι, (sweepOf row.userId (state.journal session)).isDue = true))

def Doomed (journals : ι → Journal Store AccountEffect) (row : Session) : Prop :=
  ∃ session, sweepOf row.userId (journals session) = .due ∨
    ∃ view, sweepOf row.userId (journals session) = .looked view ∧
      row.tokenHash ∈ sessionsToRevoke row.userId view

/-- Every session of a user that was reset rests on the present password or is about to be
revoked. -/
def SignInsSwept (digests : Digests) (calls : ι → SignInCall) (store : Store)
    (journals : ι → Journal Store AccountEffect) : Prop :=
  ∀ userId, HasReset journals userId → ∀ row ∈ store.sessions.rows, row.userId = userId →
    row.revokedAt = none → Obtained digests calls store journals row ∨ Doomed journals row

variable {digests : Digests} {calls : ι → SignInCall} {store after : Store}
  {journals : ι → Journal Store AccountEffect} {session : ι} {row : Session}

theorem PasswordStands.kept {call : SignInCall} {journal : Journal Store AccountEffect}
    {userId : String} (stands : PasswordStands digests call journal store userId)
    (begun : journal ≠ []) (entry : Entry Store AccountEffect)
    (same : ∀ user, store.user? userId = some user →
      ∃ next, after.user? userId = some next ∧ next.passwordHash = user.passwordHash) :
    PasswordStands digests call (entry :: journal) after userId := by
  obtain ⟨user, found, proven⟩ := stands
  obtain ⟨next, here, kept⟩ := same user found
  exact ⟨next, here, by rw [provenHash?_cons begun, proven, kept]⟩

theorem Obtained.kept (obtained : Obtained digests calls store journals row)
    (entry : Entry Store AccountEffect)
    (same : ∀ user, store.user? row.userId = some user →
      ∃ next, after.user? row.userId = some next ∧ next.passwordHash = user.passwordHash) :
    Obtained digests calls after
      (Function.update journals session (entry :: journals session)) row := by
  obtain ⟨call, stored, stands⟩ := obtained
  have begun : journals call ≠ [] := by
    intro empty
    rw [empty] at stored
    cases stored
  by_cases mine : call = session
  · subst mine
    refine ⟨call, ?_, ?_⟩
    · rw [Function.update_self]
      exact Journal.mem_settled_cons entry stored
    · rw [Function.update_self]
      exact stands.kept begun entry same
  · refine ⟨call, by rwa [Function.update_of_ne mine], ?_⟩
    rw [Function.update_of_ne mine]
    obtain ⟨user, found, proven⟩ := stands
    obtain ⟨next, here, kept⟩ := same user found
    exact ⟨next, here, by rw [proven, kept]⟩

theorem SignInsSwept.entry (swept : SignInsSwept digests calls store journals)
    {entry : Entry Store AccountEffect} (open_ : ∀ left, entry ≠ .left left)
    (sees : ∀ view, entry = .found view → view = store) :
    SignInsSwept digests calls store
      (Function.update journals session (entry :: journals session)) := by
  intro userId reset row member owner unrevoked
  have before : HasReset journals userId := by
    obtain ⟨call, effect, settled, sets⟩ := reset
    rcases Journal.settled_update settled with before | ⟨_, ⟨left, same⟩, _⟩
    · exact ⟨call, effect, before, sets⟩
    · exact absurd same (open_ left)
  rcases swept userId before row member owner unrevoked with obtained | ⟨call, doomed⟩
  · exact .inl (obtained.kept entry fun user found => ⟨user, found, rfl⟩)
  · refine .inr ⟨call, ?_⟩
    by_cases mine : call = session
    · subst mine
      rw [Function.update_self]
      cases entry with
      | found view =>
          obtain rfl := sees view rfl
          rcases doomed with due | ⟨earlier, looked, listed⟩
          · refine .inr ⟨view, by rw [sweepOf, due]; rfl, ?_⟩
            exact List.mem_map.mpr ⟨row, by simp [SessionService.unrevoked, member, unrevoked],
              rfl⟩
          · exact .inr ⟨earlier, by rw [sweepOf, looked]; rfl, listed⟩
      | left left => exact absurd rfl (open_ left)
      | _ => exact doomed
    · rwa [Function.update_of_ne mine]

theorem SignInsSwept.commit (swept : SignInsSwept digests calls store journals)
    (sweeps : Sweeps (journals session) store after)
    (proven : ∀ effect ∈ (journals session).writing, ∀ row ∈ effect.createdSession?,
      PasswordStands digests (calls session) (journals session) store row.userId ∨
        ∃ other, (sweepOf row.userId (journals other)).isDue = true) :
    SignInsSwept digests calls after
      (Function.update journals session (.left after :: journals session)) := by
  obtain ⟨rfl, undue, revokes⟩ := sweeps
  rintro _ reset row member rfl unrevoked
  by_cases sets : (journals session).writing.any (AccountEffect.setsPasswordOf row.userId) = true
  · refine .inr ⟨session, .inl ?_⟩
    rw [Function.update_self, sweepOf, if_pos sets]
  have quiet : ∀ effect ∈ (journals session).writing,
      effect.setsPasswordOf row.userId = false := by simpa using sets
  have same : ∀ user, store.user? row.userId = some user → ∃ next,
      ((journals session).replay AccountEffect.apply store).user? row.userId = some next ∧
        next.passwordHash = user.passwordHash :=
    fun _ => AccountEffect.passwordHash_writes quiet
  have others : ∀ call, call ≠ session → sweepOf row.userId (journals call) = .due ∨
      (∃ view, sweepOf row.userId (journals call) = .looked view ∧
        row.tokenHash ∈ sessionsToRevoke row.userId view) →
      Doomed (Function.update journals session
        (.left ((journals session).replay AccountEffect.apply store) :: journals session)) row :=
    fun call different doomed => ⟨call, by rwa [Function.update_of_ne different]⟩
  rcases AccountEffect.session_writes member unrevoked with there | created
  · have before : HasReset journals row.userId := by
      obtain ⟨call, effect, settled, resets⟩ := reset
      rcases Journal.settled_update settled with earlier | ⟨_, _, now⟩
      · exact ⟨call, effect, earlier, resets⟩
      · rw [quiet effect now] at resets
        cases resets
    rcases swept _ before row there rfl unrevoked with obtained | ⟨call, doomed⟩
    · exact .inl (obtained.kept _ same)
    · by_cases mine : call = session
      · subst mine
        rcases doomed with due | ⟨view, looked, listed⟩
        · exact absurd due (undue row.userId)
        · obtain ⟨now, wrote⟩ := revokes row.userId view looked
          rw [Journal.replay, wrote] at member
          exact absurd unrevoked (AccountEffect.revoked_apply member listed rfl)
      · exact .inr (others call mine doomed)
  · rcases proven _ created row rfl with stands | ⟨call, due⟩
    · refine .inl ⟨session, ?_, ?_⟩
      · rw [Function.update_self]
        exact List.mem_append_left _ created
      · rw [Function.update_self]
        refine stands.kept ?_ _ same
        intro empty
        rw [empty] at created
        cases created
    · have due := Sweep.isDue_iff.mp due
      refine .inr (others call ?_ (.inl due))
      rintro rfl
      exact undue row.userId due

/-- In every interleaving whose sessions are stored proven, a reset ends every sign-in that does
not rest on the present password, once all have finished. -/
theorem reset_ends_sign_ins (digests : Digests) (calls : ι → SignInCall) (store : Store)
    (schedule : List (ReadCommitted.Action ι))
    (proven : Runs.Throughout Journaled.step (StoresProven digests calls) schedule
      (signInStart digests calls store)) :
    Runs.Always Journaled.step (SignInsEnded digests calls) schedule
      (signInStart digests calls store) := by
  have along : (signInStart digests calls store).Along accountRely fun _ => signOutConduct := by
    refine Journaled.start_along trivial fun session => ?_
    cases calls session with
    | login attempt sessionId sessionToken now =>
        exact login_sweeps attempt sessionId sessionToken now
    | setPasswordWithToken token passwordHash context sessionId sessionToken now =>
        exact setPasswordWithToken_sweeps token passwordHash context sessionId sessionToken now
  have nothing : SignInsSwept digests calls (signInStart digests calls store).config.committed
      (signInStart digests calls store).journal := by
    rintro userId ⟨session, effect, settled, _⟩
    cases settled
  refine (Journaled.always_of_shifts (SignInsSwept digests calls) ?_ along nothing proven).mono ?_
  · intro state action committed journal _ swept meets shift
    cases shift with
    | still => rwa [Function.update_eq_self]
    | read => exact swept.entry nofun fun view same => (Entry.found.inj same).symm
    | write label => exact swept.entry nofun nofun
    | tell label tells => exact swept.entry nofun nofun
    | drop => exact swept.entry nofun nofun
    | commit after commits leaves => exact swept.commit leaves (meets (by rw [commits]; rfl))
  · rintro state ⟨along, swept⟩ finished userId reset row member owner unrevoked
    refine (swept userId reset row member owner unrevoked).resolve_right ?_
    rintro ⟨session, doomed⟩
    obtain ⟨outcome, returned⟩ := finished session
    have idle := along.returned session outcome returned row.userId
    rw [idle] at doomed
    rcases doomed with due | ⟨view, looked, _⟩
    · cases due
    · cases looked

def sampleLinked : Store :=
  { sampleAccounts with
    resetTokens := (UniqueTable.put? [
      { userId := "ada", tokenHash := "link", expiresAt := 100 }]).getD .empty }

def sampleResetCalls : Bool → SignInCall
  | true => .login { email := "ada@m", password := "h1", context := ⟨none, none⟩ } "s" "s" 1
  | false => .setPasswordWithToken "link" "h3" ⟨none, none⟩ "t" "t" 1

/-- The old password is checked first and its session stored last. -/
def sampleStraddle : List (ReadCommitted.Action Bool) :=
  .advance true :: List.replicate 14 (.advance false) ++ List.replicate 7 (.advance true)

theorem old_sign_in_survives_reset :
    ¬Runs.Always Journaled.step (SignInsEnded sampleDigests sampleResetCalls) sampleStraddle
      (signInStart sampleDigests sampleResetCalls sampleLinked) := by
  intro always
  have reset : HasReset (sampleStraddle.foldl Journaled.step
      (signInStart sampleDigests sampleResetCalls sampleLinked)).journal "ada" :=
    ⟨false, by decide +kernel⟩
  have finished : ∀ session, ((sampleStraddle.foldl Journaled.step (signInStart sampleDigests
      sampleResetCalls sampleLinked)).config.sessions session).hasReturned = true := by
    decide +kernel
  obtain ⟨session, stored, stands⟩ := always.last
    (fun session => Session.returned_of_hasReturned (finished session)) "ada"
    reset { id := "s", userId := "ada", tokenHash := "s", expiresAt := 43200001,
            sourceIp := none, userAgent := none } (by decide +kernel) rfl rfl
  cases session with
  | true => exact absurd stands (by decide +kernel)
  | false =>
      have listed := List.mem_filterMap.mpr ⟨_, stored, (rfl : AccountEffect.createdSession? _ = _)⟩
      exact absurd listed (by decide +kernel)

/-- The sign-in with the old password is over when the reset begins. -/
theorem reset_ends_sign_ins_sample :
    Runs.Always Journaled.step (SignInsEnded sampleDigests sampleResetCalls)
      (List.replicate 8 (.advance true) ++ List.replicate 14 (.advance false))
      (signInStart sampleDigests sampleResetCalls sampleLinked) :=
  reset_ends_sign_ins sampleDigests sampleResetCalls sampleLinked _ (by decide +kernel)

end Runs

end Accounts

end MultiBrandInvoicing
