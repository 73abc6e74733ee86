import Mathlib.Data.Fintype.Option
import MultiBrandInvoicing.Accounts.Calls

/-!
# Who lifts a suspension

A link is sent to users that are not suspended, and a session of a suspended user lets nobody
in; but the update that sets the password makes its user active whatever happened since the
link was sent or the session was looked at.
-/

set_option autoImplicit false

namespace MultiBrandInvoicing

namespace Accounts

open ReadCommitted Program Roles Tenancy UsersService

/-! ## Writes of a status -/

def statusOf (store : Store) (userId : String) : Option UserStatus :=
  (store.user? userId).map User.status

namespace AccountEffect

/-- Whose status the statement writes, and which. -/
def sets? : AccountEffect → Option (String × UserStatus)
  | createUser row => some (row.id, row.status)
  | updateUser _ id data => data.status.map fun status => (id, status)
  | _ => none

theorem sets?_updateUser {access : Access} {id userId : String} {data : UserUpdate}
    {status : UserStatus} :
    (updateUser access id data).sets? = some (userId, status) ↔
      id = userId ∧ data.status = some status := by
  simp [sets?, and_comm]

theorem statusOf_apply {effect : AccountEffect} {store : Store} {userId : String}
    {status : UserStatus} (after : statusOf (effect.apply store) userId = some status) :
    statusOf store userId = some status ∨ effect.sets? = some (userId, status) := by
  cases effect with
  | createUser row =>
      cases found : store.user? userId with
      | some user =>
          have kept : ((createUser row).apply store).user? userId = some user :=
            UniqueTable.find?_insert?_getD found
          rw [statusOf, kept] at after
          exact .inl (by rw [statusOf, found]; exact after)
      | none =>
          obtain ⟨user, there, rfl⟩ := Option.map_eq_some_iff.mp after
          obtain ⟨member, rfl⟩ := Store.user?_eq_some.mp there
          change user ∈ ((store.users.insert? row).getD store.users).rows at member
          have absent : user ∉ store.users.rows := fun here => by
            rw [Store.user?_eq_some.mpr ⟨here, rfl⟩] at found
            cases found
          rcases store.users.rows_of_insert?_getD row with same | added
          · exact absurd (same ▸ member) absent
          · rw [added] at member
            obtain rfl : user = row := by simpa [absent] using member
            exact .inr rfl
  | updateUser access id data =>
      rw [statusOf, user?_updateUser, Option.map_map] at after
      obtain ⟨user, found, same⟩ := Option.map_eq_some_iff.mp after
      obtain ⟨_, rfl⟩ := Store.user?_eq_some.mp found
      simp only [Function.comp_apply] at same
      split at same
      next here =>
        have named : user.id = id := by simpa using (Bool.and_eq_true_iff.mp here).1
        cases written : data.status with
        | none =>
            have kept : user.status = status := by simpa [User.apply, written] using same
            exact .inl (by rw [statusOf, found, Option.map_some, kept])
        | some wrote =>
            have wrote_ : wrote = status := by simpa [User.apply, written] using same
            exact .inr (by simp [sets?, written, named, wrote_])
      next => exact .inl (by rw [statusOf, found, Option.map_some, same])
  | _ => exact .inl after

end AccountEffect

theorem statusOf_writes {effects : List AccountEffect} {store : Store} {userId : String}
    {status : UserStatus}
    (after : statusOf (Journal.applied AccountEffect.apply effects store) userId = some status) :
    statusOf store userId = some status ∨
      ∃ effect ∈ effects, effect.sets? = some (userId, status) := by
  induction effects with
  | nil => exact .inl after
  | cons effect rest ih =>
      rcases AccountEffect.statusOf_apply after with before | here
      · exact (ih before).imp id fun ⟨other, member, sets⟩ =>
          ⟨other, List.mem_cons_of_mem _ member, sets⟩
      · exact .inr ⟨effect, by simp, here⟩

/-! ## Calls that have yet to set a password -/

def AccountEffect.setsPassword : AccountEffect → Bool
  | .updateUser _ _ data => data.passwordHash.isSome
  | _ => false

/-- The user of the link that a call has claimed, from its journal with the first entry
first. -/
def claimant? : List (Entry Store AccountEffect) → Option String
  | .wrote (.claimResetToken tokenHash _) :: .left store :: _ =>
      (store.resetToken? tokenHash).map PasswordResetToken.userId
  | _ => none

/-- The user of the session that a call was let in with. -/
def signedIn? (digests : Digests) (request : SignedRequest) :
    List (Entry Store AccountEffect) → Option String
  | .found store :: _ => (admitted? digests request store).map RequestScope.userId
  | _ => none

/-- Whose password the call sets, as far as its journal shows. -/
def AccountCall.owner? (digests : Digests) (call : AccountCall)
    (journal : Journal Store AccountEffect) : Option String :=
  match call with
  | setPasswordWithToken _ _ _ _ _ _ => claimant? journal.reverse
  | setPassword request _ => signedIn? digests request journal.reverse
  | _ => none

def isDropped : Entry Store AccountEffect → Bool
  | .dropped => true
  | _ => false

def AccountCall.underWay? (digests : Digests) (call : AccountCall)
    (journal : Journal Store AccountEffect) : Option String :=
  if journal.any isDropped || journal.settled.any AccountEffect.setsPassword then none
  else call.owner? digests journal

theorem claimant?_append {entries : List (Entry Store AccountEffect)}
    {entry : Entry Store AccountEffect} {userId : String} :
    (claimant? entries = some userId → claimant? (entries ++ [entry]) = some userId) ∧
      (claimant? (entries ++ [entry]) = some userId →
        claimant? entries = some userId ∨ ∃ tokenHash now store,
          entries = [.wrote (.claimResetToken tokenHash now)] ∧ entry = .left store ∧
            (store.resetToken? tokenHash).map PasswordResetToken.userId = some userId) := by
  cases entries with
  | nil => simp [claimant?]
  | cons first rest =>
      cases first with
      | wrote effect =>
          cases effect with
          | claimResetToken tokenHash now =>
              cases rest with
              | nil =>
                  cases entry with
                  | left store => exact ⟨nofun, fun owner => .inr ⟨_, now, store, rfl, rfl, owner⟩⟩
                  | _ => exact ⟨nofun, nofun⟩
              | cons second rest =>
                  cases second with
                  | left store => exact ⟨id, .inl⟩
                  | _ => exact ⟨nofun, nofun⟩
          | _ => exact ⟨nofun, nofun⟩
      | _ => exact ⟨nofun, nofun⟩

theorem signedIn?_append {digests : Digests} {request : SignedRequest}
    {entries : List (Entry Store AccountEffect)} {entry : Entry Store AccountEffect}
    {userId : String} :
    (signedIn? digests request entries = some userId →
        signedIn? digests request (entries ++ [entry]) = some userId) ∧
      (signedIn? digests request (entries ++ [entry]) = some userId →
        signedIn? digests request entries = some userId ∨ ∃ store,
          entries = [] ∧ entry = .found store ∧
            (admitted? digests request store).map RequestScope.userId = some userId) := by
  cases entries with
  | nil =>
      cases entry with
      | found store => exact ⟨nofun, fun owner => .inr ⟨store, rfl, rfl, owner⟩⟩
      | _ => exact ⟨nofun, nofun⟩
  | cons first rest =>
      cases first with
      | found store => exact ⟨id, .inl⟩
      | _ => exact ⟨nofun, nofun⟩

inductive TakesUp (digests : Digests) (journal : Journal Store AccountEffect) (userId : String) :
    Entry Store AccountEffect → Prop where
  | claimed (tokenHash : String) (now : Time) (store : Store)
      (wrote : journal = [.wrote (.claimResetToken tokenHash now)])
      (owner : (store.resetToken? tokenHash).map PasswordResetToken.userId = some userId) :
      TakesUp digests journal userId (.left store)
  | admitted (request : SignedRequest) (store : Store)
      (owner : (admitted? digests request store).map RequestScope.userId = some userId) :
      TakesUp digests journal userId (.found store)

section Journals

variable {digests : Digests} {call : AccountCall} {journal : Journal Store AccountEffect}
  {entry : Entry Store AccountEffect} {userId : String}

theorem owner?_cons (owner : call.owner? digests (entry :: journal) = some userId) :
    call.owner? digests journal = some userId ∨ TakesUp digests journal userId entry := by
  cases call with
  | setPasswordWithToken token passwordHash context sessionId sessionToken now =>
      rw [AccountCall.owner?, List.reverse_cons] at owner
      rcases claimant?_append.2 owner with before | ⟨tokenHash, time, store, only, rfl, named⟩
      · exact .inl before
      · exact .inr (.claimed tokenHash time store (by simpa using only) named)
  | setPassword request passwordHash =>
      rw [AccountCall.owner?, List.reverse_cons] at owner
      rcases signedIn?_append.2 owner with before | ⟨store, _, rfl, named⟩
      · exact .inl before
      · exact .inr (.admitted request store named)
  | _ => cases owner

theorem underWay?_eq_some :
    call.underWay? digests journal = some userId ↔
      journal.any isDropped = false ∧ journal.settled.any AccountEffect.setsPassword = false ∧
        call.owner? digests journal = some userId := by
  unfold AccountCall.underWay?
  split
  next ended =>
    refine ⟨nofun, fun ⟨first, second, _⟩ => ?_⟩
    simp [first, second] at ended
  next going =>
    have both : journal.any isDropped = false ∧
        journal.settled.any AccountEffect.setsPassword = false := by
      simpa only [Bool.not_eq_true, Bool.or_eq_false_iff] using going
    exact ⟨fun owner => ⟨both.1, both.2, owner⟩, fun all => all.2.2⟩

theorem underWay?_cons (owner : call.underWay? digests (entry :: journal) = some userId) :
    call.underWay? digests journal = some userId ∨ TakesUp digests journal userId entry := by
  obtain ⟨kept, unset, owner⟩ := underWay?_eq_some.mp owner
  refine (owner?_cons owner).imp (fun before => underWay?_eq_some.mpr ⟨?_, ?_, before⟩) id
  · exact (Bool.or_eq_false_iff.mp (by simpa using kept)).2
  · cases entry with
    | left store =>
        rw [Journal.settled, List.any_append] at unset
        exact (Bool.or_eq_false_iff.mp unset).2
    | _ => exact unset

end Journals

/-- A session of a suspended user lets nobody in. -/
theorem admitted?_unsuspended {digests : Digests} {request : SignedRequest} {store : Store}
    {scope : RequestScope} (found : admitted? digests request store = some scope) :
    statusOf store scope.userId ≠ some .suspended := by
  simp only [admitted?, SessionService.resolved] at found
  obtain ⟨session, _, found⟩ := Option.bind_eq_some_iff.mp found
  obtain ⟨user, here, found⟩ := Option.bind_eq_some_iff.mp found
  split at found
  next => cases found
  next =>
    split at found
    next => cases found
    next =>
      split at found
      next => cases found
      next active =>
        cases found
        have named := (Store.user?_eq_some.mp here).2
        rw [statusOf, named, here]
        simpa using active

/-! ## Who may lift a suspension -/

/-- The actor of an `updateStatus` call may change this user's status, by what the guard and
the call have read. -/
structure MayUpdateStatus (digests : Digests) (request : SignedRequest) (userId : String)
    (guarded seen : Store) (scope : RequestScope) (existing : User) : Prop where
  admitted : admitted? digests request guarded = some scope
  granted : can scope.role .users .delete = true
  other : userId ≠ scope.userId
  visible : visible? scope userId seen = some existing
  rank : mayAssignRole scope.role existing.role = true

def AccountCall.Permitted (digests : Digests) (call : AccountCall)
    (journal : Journal Store AccountEffect) (userId : String) : Prop :=
  ∃ request status guarded seen earlier scope existing, call = updateStatus request userId status ∧
    journal.opening = earlier ++ [seen, guarded] ∧
      MayUpdateStatus digests request userId guarded seen scope existing

/-- A commit is what the journal records, and makes nobody active but the user whose password
the call sets or whose status it may change. -/
structure Activates (digests : Digests) (call : AccountCall)
    (journal : Journal Store AccountEffect) (before after : Store) : Prop where
  same : after = journal.replay AccountEffect.apply before
  entitled : ∀ effect ∈ journal.writing, ∀ userId, effect.sets? = some (userId, .active) →
    call.underWay? digests journal = some userId ∨ call.Permitted digests journal userId

def suspensionConduct (digests : Digests) (call : AccountCall) :
    Conduct Store AccountEffect AccountError Unit where
  leaves := Activates digests call
  tells := fun _ _ _ => True
  ends := fun _ _ => True

/-! ## What the text of a call comes to -/

/-- The statement makes nobody active. -/
def NeverActivates (effect : AccountEffect) : Prop :=
  ∀ userId, effect.sets? ≠ some (userId, .active)

theorem neverActivates_of_none {effect : AccountEffect} (other : effect.sets? = none) :
    NeverActivates effect := by
  intro userId sets
  rw [other] at sets
  cases sets

section Texts

variable {digests : Digests} {call : AccountCall} {journal : Journal Store AccountEffect}
  {pending : Store → Store} {rows : List RowKey}

/-- From where all that is pending is entitled, a text that makes nobody active stays so. -/
theorem follows_quiet {program : Tx Unit} (performs : Performs NeverActivates program)
    (recorded : Recorded journal pending rows)
    (entitled : ∀ later, Journal.Grows NeverActivates journal later →
      ∀ effect ∈ journal.writing, ∀ userId, effect.sets? = some (userId, .active) →
        call.underWay? digests later = some userId ∨ call.Permitted digests later userId) :
    program.Follows accountRely (suspensionConduct digests call)
      ((suspensionConduct digests call).finishes accountRely) journal pending rows
      fun _ => True := by
  refine performs.finishes ?_ (fun _ _ _ _ => trivial) (fun _ _ _ => trivial)
    (fun _ _ _ _ => trivial) (.refl _) recorded Rely.stable_true
  intro later rows store grows locked _
  refine honoured locked ⟨rfl, fun effect member userId sets => ?_⟩
  rcases grows.writing with ⟨added, never, writes⟩ | never
  · rw [writes] at member
    rcases List.mem_append.mp member with new | old
    · exact absurd sets (never effect new userId)
    · exact entitled later grows effect old userId sets
  · exact absurd sets (never effect member userId)

theorem follows_updateUser {access : Access} {userId : String} {data : UserUpdate}
    {tail : User → Tx Unit} (reads : journal.writing = [])
    (recorded : Recorded journal pending rows)
    (permitted : ∀ later, later.opening = journal.opening → call.Permitted digests later userId)
    (rest : ∀ user, Performs NeverActivates (tail user)) :
    (updateUser access userId data >>= tail).Follows accountRely (suspensionConduct digests call)
      ((suspensionConduct digests call).finishes accountRely) journal pending rows
      fun _ => True := by
  refine follows_perform recorded Rely.stable_true ?_ trivial
  intro pending rows recorded _
  refine follows_quiet ?_ recorded ?_
  · intro store
    exact performs_orThrow fun user _ => rest user
  · rintro later ⟨more, rfl, _⟩ effect member other sets
    have only : effect = .updateUser access userId data := by
      simpa [Journal.writing, reads] using member
    subst only
    obtain ⟨rfl, _⟩ := AccountEffect.sets?_updateUser.mp sets
    exact .inr (permitted _ (Journal.opening_wrote more _ journal))

theorem updateStatus_entitled (request : SignedRequest) (userId : String) (status : UserStatus) :
    ((AccountCall.updateStatus request userId status).program digests).Follows accountRely
      (suspensionConduct digests (.updateStatus request userId status))
      ((suspensionConduct digests (.updateStatus request userId status)).finishes accountRely)
      [] id [] fun _ => True := by
  unfold AccountCall.program discard UsersService.updateStatus
  simp only [bind_bind]
  refine follows_authorised (fun _ _ => trivial) fun guarded scope admitted granted => ?_
  refine follows_require (fun _ => trivial) fun other => ?_
  intro seen _ _
  refine ⟨_, Rely.stable_true, trivial, ?_⟩
  refine follows_orThrow (fun _ => trivial) fun existing found => ?_
  have named : existing.id = userId :=
    (Store.user?_eq_some.mp (visible?_eq_some found).1).2
  subst named
  refine follows_require (fun _ => trivial) fun rank => ?_
  have may : MayUpdateStatus digests request existing.id guarded seen scope existing :=
    ⟨admitted, granted, by simpa using other, found, rank⟩
  refine follows_guard (fun _ => trivial) (fun _ => ?_) fun view _ => ?_
  · refine follows_updateUser rfl ⟨rfl, by simp [Journal.writing]⟩ (fun later opened => ?_)
      fun _ => fun store => trivial
    exact ⟨request, status, guarded, seen, [], scope, existing, rfl, opened, may⟩
  · refine follows_updateUser rfl ⟨rfl, by simp [Journal.writing]⟩ (fun later opened => ?_)
      fun _ => fun store => trivial
    exact ⟨request, status, guarded, seen, [view], scope, existing, rfl, opened, may⟩

theorem setPassword_entitled (request : SignedRequest) (passwordHash : String) :
    ((AccountCall.setPassword request passwordHash).program digests).Follows accountRely
      (suspensionConduct digests (.setPassword request passwordHash))
      ((suspensionConduct digests (.setPassword request passwordHash)).finishes accountRely)
      [] id [] fun _ => True := by
  unfold AccountCall.program
  refine follows_authorised (fun _ _ => trivial) fun store scope admitted _ => ?_
  unfold AuthService.setPassword
  refine follows_performNow (fun _ => True) (fun _ _ => True) rfl Rely.stable_true
    Rely.stable_true (fun _ => Rely.stable_true) (fun _ _ _ => trivial) (fun _ _ => trivial)
    (fun _ _ => ⟨rfl, ?_⟩) (fun _ _ _ _ => ⟨rfl, by simp [Journal.writing]⟩) (fun _ => ?_)
    fun _ _ _ => trivial
  · intro effect member userId sets
    obtain rfl := List.mem_singleton.mp member
    obtain ⟨rfl, _⟩ := AccountEffect.sets?_updateUser.mp sets
    refine .inl (underWay?_eq_some.mpr ⟨rfl, rfl, ?_⟩)
    change (admitted? digests request store).map RequestScope.userId = _
    rw [admitted, Option.map_some]
  · exact follows_quiet (AuthService.record_performs (neverActivates_of_none rfl))
      (.left _) (by simp [Journal.writing])

theorem setPasswordWithToken_entitled (token passwordHash : String) (context : AttemptContext)
    (sessionId sessionToken : String) (now : Time) :
    ((AccountCall.setPasswordWithToken token passwordHash context sessionId sessionToken
      now).program digests).Follows accountRely
      (suspensionConduct digests
        (.setPasswordWithToken token passwordHash context sessionId sessionToken now))
      ((suspensionConduct digests
        (.setPasswordWithToken token passwordHash context sessionId sessionToken now)).finishes
          accountRely) [] id [] fun _ => True := by
  unfold AccountCall.program discard AuthService.setPasswordWithToken
    PasswordResetService.consume AuthService.completeReset
  simp only [bind_bind]
  refine follows_performNow (fun store =>
      (AccountEffect.claimResetToken (digests.hashToken token) now).applies store = true)
    (fun left store => left.Leads store ∧ (left.resetToken? (digests.hashToken token)).isSome = true)
    rfl Rely.stable_true (stable_claim _ _)
    (fun left _ _ _ leads _ known => ⟨known.1.trans leads, known.2⟩)
    (fun _ _ matched => matched) ?_
    (fun _ _ => ⟨rfl, by simp [Journal.writing, AccountEffect.sets?]⟩)
    (fun _ _ _ _ => ⟨rfl, by simp [Journal.writing]⟩) (fun left => ?_) fun _ _ _ => trivial
  · intro store matched
    obtain ⟨link, found, _⟩ := applies_claim.mp matched
    refine ⟨.refl _, ?_⟩
    rw [AccountEffect.resetToken?_claimResetToken, found]
    rfl
  · rintro view _ ⟨since, there⟩
    refine ⟨_, Rely.stable_true, trivial, ?_⟩
    refine follows_orThrow (fun _ => trivial) fun userId claimed => ?_
    have owner : (left.resetToken? (digests.hashToken token)).map PasswordResetToken.userId =
        some userId := by
      obtain ⟨link, found⟩ := Option.isSome_iff_exists.mp there
      obtain ⟨next, here, same, _⟩ := since.resetTokens _ link found
      rw [id_eq, here, Option.map_some, same] at claimed
      rw [found, Option.map_some, claimed]
    refine follows_perform ⟨rfl, by simp [Journal.writing]⟩ Rely.stable_true ?_ trivial
    intro pending rows recorded _ store _ _
    refine ⟨_, Rely.stable_true, trivial, ?_⟩
    refine follows_orThrow (fun _ => trivial) fun user found => ?_
    refine Follows.commitNow (fun store _ _ => ?_) fun store _ _ => ?_
    · have wrote := recorded.found store
      rw [recorded.same]
      refine honoured recorded.locked ⟨rfl, ?_⟩
      intro effect member other sets
      obtain rfl := List.mem_singleton.mp member
      obtain ⟨rfl, _⟩ := AccountEffect.sets?_updateUser.mp sets
      exact .inl (underWay?_eq_some.mpr ⟨rfl, rfl, owner⟩)
    · refine follows_quiet ?_ (.left _) (by simp [Journal.writing])
      have other : ∀ effect : AccountEffect, effect.sets? = none → NeverActivates effect :=
        fun _ => neverActivates_of_none
      refine (SessionService.revokeAllForUser_performs fun _ => other _ rfl).bind fun _ => ?_
      refine (SessionService.issue_performs fun _ => other _ rfl).bind fun issued => ?_
      exact (AuthService.record_performs (other _ rfl)).bind fun _ => trivial

theorem accountCall_entitled (digests : Digests) (call : AccountCall) :
    (call.program digests).Follows accountRely (suspensionConduct digests call)
      ((suspensionConduct digests call).finishes accountRely) [] id [] fun _ => True := by
  have harmless : Performs NeverActivates (call.program digests) →
      (call.program digests).Follows accountRely (suspensionConduct digests call)
        ((suspensionConduct digests call).finishes accountRely) [] id [] fun _ => True :=
    fun performs => follows_quiet performs .start (by simp [Journal.writing])
  have other : ∀ effect : AccountEffect, effect.sets? = none → NeverActivates effect :=
    fun _ => neverActivates_of_none
  have updates : ∀ (id : String) (data : UserUpdate), data.passwordHash = none →
      data.status = none → NeverActivates (.updateUser .unscoped id data) := by
    intro id data _ status userId sets
    rw [AccountEffect.sets?_updateUser, status] at sets
    cases sets.2
  cases call with
  | updateStatus request userId status => exact updateStatus_entitled request userId status
  | setPasswordWithToken token passwordHash context sessionId sessionToken now =>
      exact setPasswordWithToken_entitled token passwordHash context sessionId sessionToken now
  | setPassword request passwordHash => exact setPassword_entitled request passwordHash
  | invite request input id passwordHash token mails =>
      refine harmless (authorised_performs fun scope => ?_)
      refine (invite_performs (fun row invited userId sets => ?_) (fun _ => other _ rfl)
        (fun _ => other _ rfl) fun _ => other _ rfl).bind fun _ => trivial
      simp [AccountEffect.sets?, invited] at sets
  | requestPasswordReset allowed tokenOf mails email context now =>
      exact harmless (AuthService.requestPasswordReset_performs (fun _ _ => other _ rfl)
        (fun _ _ => other _ rfl) fun _ => other _ rfl)
  | login attempt sessionId sessionToken now =>
      refine harmless ?_
      exact (AuthService.login_performs (fun _ => other _ rfl) (fun _ => other _ rfl) updates).bind
        fun _ => trivial

end Texts

/-! ## Any number of calls beside one another -/

section Runs

variable {ι : Type} [DecidableEq ι]

abbrev AccountState (ι : Type) := Journaled ι Store RowKey AccountEffect AccountError Unit

def accountStart (digests : Digests) (calls : ι → AccountCall) (store : Store) :
    AccountState ι :=
  Journaled.start store fun session => (calls session).program digests

def LiftedLawfully (digests : Digests) (calls : ι → AccountCall) (state : AccountState ι)
    (action : ReadCommitted.Action ι) : Prop :=
  ∀ userId, statusOf state.config.committed userId = some .suspended →
    statusOf (state.step action).config.committed userId = some .active →
      (calls action.session).Permitted digests (state.journal action.session) userId

def AccountEffect.claimsFor? (store : Store) : AccountEffect → Option String
  | .claimResetToken tokenHash _ =>
      (store.resetToken? tokenHash).map PasswordResetToken.userId
  | _ => none

def AccountEffect.suspends? (effect : AccountEffect) : Option String :=
  (effect.sets?.filter fun set => set.2 = .suspended).map Prod.fst

/-- No link is claimed while its user is suspended, and nobody is suspended while a call has
yet to set their password. -/
def KeepsClear (digests : Digests) (calls : ι → AccountCall) (state : AccountState ι)
    (action : ReadCommitted.Action ι) : Prop :=
  (state.commits? action).isSome = true →
    ∀ effect ∈ (state.journal action.session).writing,
      (∀ userId ∈ effect.claimsFor? state.config.committed,
        statusOf state.config.committed userId ≠ some .suspended) ∧
      ∀ userId ∈ effect.suspends?, ∀ session,
        (calls session).underWay? digests (state.journal session) ≠ some userId

instance [Fintype ι] (digests : Digests) (calls : ι → AccountCall) (state : AccountState ι)
    (action : ReadCommitted.Action ι) : Decidable (KeepsClear digests calls state action) :=
  inferInstanceAs (Decidable (_ → ∀ effect ∈ (state.journal action.session).writing,
    (∀ userId ∈ effect.claimsFor? state.config.committed, _ ≠ _) ∧
      ∀ userId ∈ effect.suspends?, ∀ _ : ι, _ ≠ _))

def NobodySuspended (digests : Digests) (calls : ι → AccountCall) (store : Store)
    (journals : ι → Journal Store AccountEffect) : Prop :=
  ∀ session userId, (calls session).underWay? digests (journals session) = some userId →
    statusOf store userId ≠ some .suspended

variable {digests : Digests} {calls : ι → AccountCall} {state : AccountState ι}
  {action : ReadCommitted.Action ι} {committed : Store} {journal : Journal Store AccountEffect}

theorem NobodySuspended.entry {store after : Store}
    {journals : ι → Journal Store AccountEffect} {session : ι}
    {entry : Entry Store AccountEffect} (clear : NobodySuspended digests calls store journals)
    (kept : ∀ other userId, (calls other).underWay? digests (journals other) = some userId →
      statusOf store userId ≠ some .suspended → statusOf after userId ≠ some .suspended)
    (takes : ∀ userId, TakesUp digests (journals session) userId entry →
      statusOf after userId ≠ some .suspended) :
    NobodySuspended digests calls after
      (Function.update journals session (entry :: journals session)) := by
  intro other userId owner
  by_cases same : other = session
  · subst same
    rw [Function.update_self] at owner
    rcases underWay?_cons owner with before | now
    · exact kept other userId before (clear other userId before)
    · exact takes userId now
  · rw [Function.update_of_ne same] at owner
    exact kept other userId owner (clear other userId owner)

theorem NobodySuspended.shift
    (clear : NobodySuspended digests calls state.config.committed state.journal)
    (meets : KeepsClear digests calls state action)
    (shift : Journaled.Shift (fun session => suspensionConduct digests (calls session)) state
      action committed journal) :
    NobodySuspended digests calls committed
      (Function.update state.journal action.session journal) := by
  cases shift with
  | still => rwa [Function.update_eq_self]
  | read =>
      refine clear.entry (fun _ _ _ => id) fun userId takes => ?_
      cases takes with
      | admitted request store owner =>
          obtain ⟨scope, found, rfl⟩ := Option.map_eq_some_iff.mp owner
          exact admitted?_unsuspended found
  | write label => exact clear.entry (fun _ _ _ => id) nofun
  | tell label tells => exact clear.entry (fun _ _ _ => id) nofun
  | drop => exact clear.entry (fun _ _ _ => id) nofun
  | commit after commits leaves =>
      have meets := meets (by rw [commits]; rfl)
      obtain ⟨rfl, _⟩ := leaves
      refine clear.entry ?_ fun userId takes => ?_
      · intro other userId owner active suspended
        rcases statusOf_writes suspended with before | ⟨effect, member, sets⟩
        · exact active before
        · refine (meets effect member).2 userId ?_ other owner
          simp [AccountEffect.suspends?, sets]
      · cases takes with
        | claimed tokenHash now store wrote owner =>
            rw [wrote] at owner meets ⊢
            have claims : (state.config.committed.resetToken? tokenHash).map
                PasswordResetToken.userId = some userId := by
              refine Eq.trans ?_ owner
              change _ = Option.map _ (((AccountEffect.claimResetToken tokenHash now).apply
                state.config.committed).resetToken? tokenHash)
              rw [AccountEffect.resetToken?_claimResetToken, Option.map_map]
              refine congrArg (Option.map · _) (funext fun link => ?_)
              simp only [Function.comp_apply]
              split <;> rfl
            exact (meets (.claimResetToken tokenHash now) (by simp [Journal.writing])).1 userId
              claims

/-- In every interleaving that keeps clear of them, suspensions are lifted lawfully. -/
theorem suspension_lifted_lawfully (digests : Digests) (calls : ι → AccountCall) (store : Store)
    (schedule : List (ReadCommitted.Action ι))
    (clear : Runs.Throughout Journaled.step (KeepsClear digests calls) schedule
      (accountStart digests calls store)) :
    Runs.Throughout Journaled.step (LiftedLawfully digests calls) schedule
      (accountStart digests calls store) := by
  have along : (accountStart digests calls store).Along accountRely
      fun session => suspensionConduct digests (calls session) :=
    Journaled.start_along trivial fun session => accountCall_entitled digests (calls session)
  have nobody : NobodySuspended digests calls (accountStart digests calls store).config.committed
      (accountStart digests calls store).journal := by
    intro session userId owner
    have started := (underWay?_eq_some.mp owner).2.2
    cases called : calls session <;> simp [called, AccountCall.owner?, accountStart,
      Journaled.start, claimant?, signedIn?] at started
  have always := Journaled.always_of_shifts (NobodySuspended digests calls)
    (fun state action committed journal _ clear meets shift => clear.shift meets shift) along
    nobody clear
  refine (always.throughout.and clear).mono ?_
  rintro state action ⟨⟨along, nobody⟩, meets⟩ userId suspended active
  obtain ⟨_, committed, journal, shift, rows, _⟩ := along.step action
  rw [rows] at active
  cases shift with
  | commit after commits leaves =>
      obtain ⟨rfl, entitled⟩ := leaves
      rcases statusOf_writes active with before | ⟨effect, member, sets⟩
      · rw [suspended] at before
        cases before
      · rcases entitled effect member userId sets with owner | permitted
        · exact absurd suspended (nobody action.session userId owner)
        · exact permitted
  | _ =>
      rw [suspended] at active
      cases active

def sampleSignedIn : Store :=
  { sampleAccounts with
    sessions := (UniqueTable.put? [
      { id := "s", userId := "ada", tokenHash := "s", expiresAt := 100, sourceIp := none,
        userAgent := none }]).getD .empty }

def sampleContext : AttemptContext := { sourceIp := none, userAgent := none }

/-- Bob asks for a link, Ada suspends him, and Bob follows the link. -/
def sampleLinkCalls : Option Bool → AccountCall
  | none => .requestPasswordReset true (fun _ => "link") (fun _ => true) "bob@m" sampleContext 1
  | some false => .updateStatus { token := "s", sourceIp := none, now := 2 } "bob" .suspended
  | some true => .setPasswordWithToken "link" "h3" sampleContext "t" "t" 3

theorem link_lifts_suspension :
    ¬Runs.Throughout Journaled.step (LiftedLawfully sampleDigests sampleLinkCalls)
      (List.replicate 10 (.advance none) ++ List.replicate 7 (.advance (some false)) ++
        List.replicate 5 (.advance (some true)) ++ [.advance (some true)])
      (accountStart sampleDigests sampleLinkCalls sampleSignedIn) := by
  intro lawful
  obtain ⟨request, status, _, _, _, _, _, called, _⟩ :=
    lawful.at_end "bob" (by decide) (by decide)
  cases called

def sampleLinkInTime : List (ReadCommitted.Action (Option Bool)) :=
  List.replicate 10 (.advance none) ++ List.replicate 14 (.advance (some true)) ++
    List.replicate 7 (.advance (some false))

theorem suspension_lifted_lawfully_sample :
    Runs.Throughout Journaled.step (LiftedLawfully sampleDigests sampleLinkCalls)
      sampleLinkInTime (accountStart sampleDigests sampleLinkCalls sampleSignedIn) :=
  suspension_lifted_lawfully sampleDigests sampleLinkCalls sampleSignedIn sampleLinkInTime
    (by decide)

end Runs

end Accounts

end MultiBrandInvoicing
