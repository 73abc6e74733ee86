import MultiBrandInvoicing.Accounts.Credentials

/-!
# Links are spent once and superseded

`issue` spends the links it finds and then stores a new one, in two transactions; `consume`
spends a link by one conditional update.
-/

set_option autoImplicit false

namespace MultiBrandInvoicing

namespace Accounts

open ReadCommitted Program

inductive LinkCall where
  | issue (token : String) (now : Time)
  | consume (token : String) (now : Time)

inductive LinkReply where
  | issued (link : IssuedToken)
  | consumed (userId : Option String)

def LinkCall.program (digests : Digests) (userId : String) : LinkCall → Tx LinkReply
  | issue token now => do
      let link ← PasswordResetService.issue digests userId token now
      pure (.issued link)
  | consume token now => do
      let claim ← PasswordResetService.consume digests token now
      pure (.consumed claim)

/-- An unused link of the user that has not expired by the given time. -/
def PasswordResetToken.isLive (userId : String) (time : Time) (token : PasswordResetToken) : Bool :=
  token.userId = userId && token.usedAt.isNone && time < token.expiresAt

def liveLinks (userId : String) (time : Time) (store : Store) : Nat :=
  store.resetTokens.rows.countP (PasswordResetToken.isLive userId time)

/-- How a commit of these calls changes the links, and what the call then knew. -/
inductive LinkStep (userId : String) (journal : Journal Store AccountEffect) (before : Store) :
    Store → Prop where
  | still (quiet : journal.writing = []) : LinkStep userId journal before before
  | spend (tokenHashes : List String) (now : Time)
      (wrote : journal.writing = [.spendResetTokens userId tokenHashes now]) :
      LinkStep userId journal before
        ((AccountEffect.spendResetTokens userId tokenHashes now).apply before)
  | store (row : PasswordResetToken) (wrote : journal.writing = [.createResetToken row])
      (owner : row.userId = userId)
      (superseded : ∀ view ∈ journal.opening, ∀ tokenHash token,
        before.resetToken? tokenHash = some token → token.userId = userId →
          token.usedAt = none → view.resetToken? tokenHash = none) :
      LinkStep userId journal before ((AccountEffect.createResetToken row).apply before)
  | claim (tokenHash : String) (now : Time) (token : PasswordResetToken)
      (wrote : journal.writing = [.claimResetToken tokenHash now])
      (found : before.resetToken? tokenHash = some token) (unused : token.usedAt = none)
      (unexpired : now < token.expiresAt) :
      LinkStep userId journal before
        ((AccountEffect.claimResetToken tokenHash now).apply before)

def linkConduct (digests : Digests) (userId : String) (call : LinkCall) :
    Conduct Store AccountEffect AccountError LinkReply where
  leaves := LinkStep userId
  tells := fun _ _ _ => True
  ends := fun journal outcome => ∀ token now claimed, call = .consume token now →
    outcome = .ok (.consumed (some claimed)) →
      .claimResetToken (digests.hashToken token) now ∈ journal.settled

/-! ## What the text of a call comes to -/

def SpentSince (userId : String) (view store : Store) : Prop :=
  view.Leads store ∧ ∀ tokenHash token, view.resetToken? tokenHash = some token →
    token.userId = userId → ∃ now, store.resetToken? tokenHash = some now ∧
      now.usedAt.isSome = true

theorem stable_spentSince (userId : String) (view : Store) (rows : List RowKey) :
    accountRely.Stable rows (SpentSince userId view) := by
  rintro before after _ leads _ ⟨since, spent⟩
  refine ⟨since.trans leads, fun tokenHash token found owner => ?_⟩
  obtain ⟨now, there, used⟩ := spent tokenHash token found owner
  obtain ⟨next, here, _, _, kept⟩ := leads.resetTokens tokenHash now there
  exact ⟨next, here, kept used⟩

/-- Spending what was found unused leaves every link of the user that was found spent. -/
theorem spentSince_spend (userId : String) (now : Time) {view store : Store}
    (since : view.Leads store) :
    SpentSince userId view ((AccountEffect.spendResetTokens userId
      ((PasswordResetService.unused userId view).map PasswordResetToken.tokenHash) now).apply
        store) := by
  refine ⟨since.trans (AccountEffect.leads _ _), fun tokenHash token found owner => ?_⟩
  obtain ⟨next, there, nextOwner, _, kept⟩ := since.resetTokens tokenHash token found
  rw [AccountEffect.resetToken?_spendResetTokens, there, Option.map_some]
  refine ⟨_, rfl, ?_⟩
  obtain ⟨member, named⟩ := Store.resetToken?_eq_some.mp found
  split
  next => rfl
  next untouched =>
    by_contra unspent
    have open_ : next.usedAt = none := by simpa using unspent
    have unused : token.usedAt = none := by
      by_contra used
      exact unspent (kept (by simpa [Option.isSome_iff_ne_none] using used))
    refine untouched ?_
    have listed : token ∈ PasswordResetService.unused userId view := by
      simp [PasswordResetService.unused, member, owner, unused]
    have sameHash := (Store.resetToken?_eq_some.mp there).2
    simp only [Bool.and_eq_true, List.contains_eq_mem, decide_eq_true_eq]
    refine ⟨⟨List.mem_map.mpr ⟨token, listed, ?_⟩, nextOwner.trans owner⟩, by simp [open_]⟩
    rw [named, sameHash]

theorem issue_follows (digests : Digests) (userId token : String) (now : Time) :
    ((LinkCall.issue token now).program digests userId).Follows accountRely
      (linkConduct digests userId (.issue token now))
      ((linkConduct digests userId (.issue token now)).finishes accountRely) [] id []
      fun _ => True := by
  unfold LinkCall.program PasswordResetService.issue
  simp only [bind_bind]
  intro view _ _
  refine ⟨view.Leads, stable_leads view [], .refl view, ?_⟩
  refine follows_performNow view.Leads (fun _ => SpentSince userId view) rfl (stable_leads _ _)
    (stable_leads _ _) (fun _ => stable_spentSince _ _ _) (fun _ known _ => known)
    (fun _ known => spentSince_spend userId now known) (fun _ _ => .spend _ now rfl)
    (fun _ _ _ _ => .still rfl) (fun spent => ?_) (by rintro _ _ ⟨⟩)
  refine follows_performNow (SpentSince userId view) (fun _ _ => True) rfl
    (stable_spentSince _ _ _) (stable_spentSince _ _ _) (fun _ => Rely.stable_true)
    (fun _ known _ => known) (fun _ _ => trivial) ?_ (fun _ _ _ _ => .still rfl) (fun _ => ?_)
    (by rintro _ _ _ _ _ _ ⟨⟩)
  · rintro store ⟨since, spentAll⟩
    refine .store _ rfl rfl ?_
    rintro seen (_ : seen ∈ [view]) tokenHash link found owner unused
    obtain rfl : seen = view := by simpa using ‹seen ∈ [view]›
    cases earlier : seen.resetToken? tokenHash with
    | none => rfl
    | some old =>
        obtain ⟨same, here, oldOwner, _, _⟩ := since.resetTokens tokenHash old earlier
        rw [found] at here
        cases here
        obtain ⟨spentLink, here, used⟩ := spentAll tokenHash old earlier (oldOwner.symm.trans owner)
        rw [found] at here
        cases here
        simp [unused] at used
  · intro store _ _
    refine ⟨honoured (by simp [Journal.writing]) (.still rfl), ?_⟩
    rintro token now claimed ⟨⟩

theorem consume_follows (digests : Digests) (userId token : String) (now : Time) :
    ((LinkCall.consume token now).program digests userId).Follows accountRely
      (linkConduct digests userId (.consume token now))
      ((linkConduct digests userId (.consume token now)).finishes accountRely) [] id []
      fun _ => True := by
  unfold LinkCall.program PasswordResetService.consume
  simp only [bind_bind]
  refine follows_performNow (fun store =>
      (AccountEffect.claimResetToken (digests.hashToken token) now).applies store = true)
    (fun _ _ => True) rfl Rely.stable_true (stable_claim _ _) (fun _ => Rely.stable_true)
    (fun _ _ matched => matched) (fun _ _ => trivial) ?_ (fun _ _ _ _ => .still rfl) (fun _ => ?_)
    fun _ _ _ => ?_
  · intro store matched
    obtain ⟨link, found, unused, unexpired⟩ := applies_claim.mp matched
    exact .claim _ now link rfl found unused unexpired
  · intro store _ _
    refine ⟨_, Rely.stable_true, trivial, ?_⟩
    intro store _ _
    refine ⟨honoured (by simp [Journal.writing]) (.still rfl), ?_⟩
    rintro token now claimed ⟨⟩ _
    simp [Journal.settled, Journal.writing]
  · intro store _ _
    refine ⟨honoured (by simp [Journal.writing]) (.still rfl), ?_⟩
    rintro token now claimed _ ⟨⟩

/-! ## Any number of calls beside one another -/

/-- What has been claimed is spent, was fresh when it was claimed, and was claimed by one
call. -/
structure ClaimedOnce {ι : Type} (store : Store) (journals : ι → Journal Store AccountEffect) :
    Prop where
  spent : ∀ session tokenHash now,
    .claimResetToken tokenHash now ∈ (journals session).settled →
      ∃ token, store.resetToken? tokenHash = some token ∧ token.usedAt.isSome = true ∧
        now < token.expiresAt
  once : ∀ first second tokenHash now later,
    .claimResetToken tokenHash now ∈ (journals first).settled →
      .claimResetToken tokenHash later ∈ (journals second).settled → first = second

theorem ClaimedOnce.kept {ι : Type} {store after : Store}
    {journals next : ι → Journal Store AccountEffect} (claimed : ClaimedOnce store journals)
    (leads : store.Leads after)
    (none : ∀ session tokenHash now, .claimResetToken tokenHash now ∈ (next session).settled →
      .claimResetToken tokenHash now ∈ (journals session).settled) : ClaimedOnce after next where
  spent := by
    intro session tokenHash now member
    obtain ⟨token, found, used, fresh⟩ := claimed.spent session tokenHash now
      (none session tokenHash now member)
    obtain ⟨last, here, _, expiry, kept⟩ := leads.resetTokens tokenHash token found
    exact ⟨last, here, kept used, by rwa [expiry]⟩
  once := fun first second tokenHash now later one two =>
    claimed.once first second tokenHash now later (none _ _ _ one) (none _ _ _ two)

section Systems

variable {ι : Type} [DecidableEq ι]

theorem ClaimedOnce.commit {userId : String} {store after : Store}
    {journals : ι → Journal Store AccountEffect} {session : ι}
    (claimed : ClaimedOnce store journals)
    (leaves : LinkStep userId (journals session) store after) :
    ClaimedOnce after
      (Function.update journals session (.left after :: journals session)) := by
  have settles : ∀ effect other,
      effect ∈ (Function.update journals session (.left after :: journals session) other).settled →
        (other = session ∧ effect ∈ (journals session).writing) ∨
          effect ∈ (journals other).settled := by
    intro effect other member
    rcases Journal.settled_update member with earlier | ⟨same, _, now⟩
    · exact .inr earlier
    · exact .inl ⟨same, now⟩
  cases leaves with
  | still quiet =>
      refine claimed.kept (.refl _) fun other tokenHash now member => ?_
      exact (settles _ _ member).resolve_left (by simp [quiet])
  | spend tokenHashes now wrote =>
      refine claimed.kept (AccountEffect.leads _ _) fun other tokenHash now member => ?_
      exact (settles _ _ member).resolve_left (by simp [wrote])
  | store row wrote owner superseded =>
      refine claimed.kept (AccountEffect.leads _ _) fun other tokenHash now member => ?_
      exact (settles _ _ member).resolve_left (by simp [wrote])
  | claim tokenHash now token wrote found unused unexpired =>
      have unclaimed : ∀ other later,
          .claimResetToken tokenHash later ∉ (journals other).settled := by
        intro other later member
        obtain ⟨spent, here, used, _⟩ := claimed.spent other tokenHash later member
        rw [found] at here
        cases here
        simp [unused] at used
      have mine : ∀ other hash later,
          .claimResetToken hash later ∈ (Function.update journals session
            (.left ((AccountEffect.claimResetToken tokenHash now).apply store) ::
              journals session) other).settled →
            (other = session ∧ hash = tokenHash ∧ later = now) ∨
              .claimResetToken hash later ∈ (journals other).settled := by
        intro other hash later member
        refine (settles _ _ member).imp ?_ id
        rintro ⟨same, wrote_⟩
        rw [wrote] at wrote_
        simpa [same] using wrote_
      have leads := (AccountEffect.claimResetToken tokenHash now).leads store
      refine ⟨?_, ?_⟩
      · intro other hash later member
        rcases mine other hash later member with ⟨_, rfl, rfl⟩ | earlier
        · rw [AccountEffect.resetToken?_claimResetToken, found, Option.map_some]
          have named := (Store.resetToken?_eq_some.mp found).2
          simp [named, unused, unexpired]
        · obtain ⟨old, there, used, fresh⟩ := claimed.spent other hash later earlier
          obtain ⟨last, here, _, expiry, kept⟩ := leads.resetTokens hash old there
          exact ⟨last, here, kept used, by rwa [expiry]⟩
      · intro first second hash earlier later one two
        rcases mine first hash earlier one with ⟨rfl, rfl, _⟩ | before
        · rcases mine second hash later two with ⟨rfl, _, _⟩ | before
          · rfl
          · exact absurd before (unclaimed second later)
        · rcases mine second hash later two with ⟨_, rfl, _⟩ | before'
          · exact absurd before (unclaimed first earlier)
          · exact claimed.once first second hash earlier later before before'

abbrev LinkState (ι : Type) := Journaled ι Store RowKey AccountEffect AccountError LinkReply

def linkStart (digests : Digests) (userId : String) (calls : ι → LinkCall) (store : Store) :
    LinkState ι :=
  Journaled.start store fun session => (calls session).program digests userId

structure SingleUse (digests : Digests) (calls : ι → LinkCall) (state : LinkState ι) : Prop where
  once : ∀ first second token now later claimed claimed',
    calls first = .consume token now → calls second = .consume token later →
      state.config.sessions first = .returned (.ok (.consumed (some claimed))) →
        state.config.sessions second = .returned (.ok (.consumed (some claimed'))) →
          first = second
  unexpired : ∀ session token now claimed, calls session = .consume token now →
    state.config.sessions session = .returned (.ok (.consumed (some claimed))) →
      ∃ row, state.config.committed.resetToken? (digests.hashToken token) = some row ∧
        now < row.expiresAt

def AccountEffect.storesLink : AccountEffect → Bool
  | .createResetToken _ => true
  | _ => false

/-- No link that was stored since the call's first read is still live. -/
def NoneStoredSince (userId : String) (time : Time) (views : List Store) (store : Store) : Prop :=
  ∀ token ∈ store.resetTokens.rows, token.isLive userId time = true →
    ∃ view ∈ views, (view.resetToken? token.tokenHash).isSome = true

instance (userId : String) (time : Time) (views : List Store) (store : Store) :
    Decidable (NoneStoredSince userId time views store) :=
  inferInstanceAs (Decidable (∀ token ∈ store.resetTokens.rows, _ → _))

/-- When a call stores its link, no other call has stored one since it looked. -/
def StoresAlone (userId : String) (time : Time) (state : LinkState ι) (action : Action ι) :
    Prop :=
  (state.commits? action).isSome = true →
    (state.journal action.session).writing.any AccountEffect.storesLink = true →
      NoneStoredSince userId time (state.journal action.session).opening state.config.committed

instance (userId : String) (time : Time) (state : LinkState ι) (action : Action ι) :
    Decidable (StoresAlone userId time state action) := inferInstanceAs (Decidable (_ → _ → _))

omit [DecidableEq ι] in
theorem liveLinks_leads {userId : String} {time : Time} {change : PasswordResetToken →
      PasswordResetToken} (spends : ∀ token, (change token).isLive userId time = true →
        token.isLive userId time = true) (rows : List PasswordResetToken) :
    (rows.map change).countP (PasswordResetToken.isLive userId time) ≤
      rows.countP (PasswordResetToken.isLive userId time) := by
  rw [List.countP_map]
  exact List.countP_mono_left fun token _ live => spends token live

omit [DecidableEq ι] in
/-- A commit leaves at most one live link, if the call that stores one stores it alone. -/
theorem LinkStep.live {userId : String} {time : Time} {journal : Journal Store AccountEffect}
    {before after : Store} (step : LinkStep userId journal before after)
    (alone : journal.writing.any AccountEffect.storesLink = true →
      NoneStoredSince userId time journal.opening before)
    (one : liveLinks userId time before ≤ 1) : liveLinks userId time after ≤ 1 := by
  cases step with
  | still quiet => exact one
  | spend tokenHashes now wrote =>
      refine (liveLinks_leads (fun token live => ?_) _).trans one
      split at live
      next => simp [PasswordResetToken.isLive] at live
      next => exact live
  | claim tokenHash now token wrote found unused unexpired =>
      refine (liveLinks_leads (fun token live => ?_) _).trans one
      split at live
      next => simp [PasswordResetToken.isLive] at live
      next => exact live
  | store row wrote owner superseded =>
      have none : liveLinks userId time before = 0 := by
        refine List.countP_eq_zero.mpr fun token member live => ?_
        obtain ⟨view, seen, here⟩ := alone (by simp [wrote, AccountEffect.storesLink]) token member
          live
        simp only [PasswordResetToken.isLive, Bool.and_eq_true, decide_eq_true_eq,
          Option.isNone_iff_eq_none] at live
        have gone := superseded view seen token.tokenHash token
          (Store.resetToken?_eq_some.mpr ⟨member, rfl⟩) live.1.1 live.1.2
        rw [gone] at here
        cases here
      change ((before.resetTokens.insert? row).getD before.resetTokens).rows.countP _ ≤ 1
      rcases before.resetTokens.rows_of_insert?_getD row with same | added
      · rw [same]
        exact one
      · rw [added, List.countP_append]
        change liveLinks userId time before + _ ≤ 1
        rw [none, Nat.zero_add]
        exact List.countP_le_length

omit [DecidableEq ι] in
theorem linkStart_along (digests : Digests) (userId : String) (calls : ι → LinkCall)
    (store : Store) :
    (linkStart digests userId calls store).Along accountRely
      fun session => linkConduct digests userId (calls session) := by
  refine Journaled.start_along trivial fun session => ?_
  cases calls session with
  | issue token now => exact issue_follows digests userId token now
  | consume token now => exact consume_follows digests userId token now

theorem ClaimedOnce.shift {digests : Digests} {userId : String} {calls : ι → LinkCall}
    {state : LinkState ι} {action : Action ι} {committed : Store}
    {journal : Journal Store AccountEffect}
    (claimed : ClaimedOnce state.config.committed state.journal)
    (shift : Journaled.Shift (fun session => linkConduct digests userId (calls session)) state
      action committed journal) :
    ClaimedOnce committed (Function.update state.journal action.session journal) := by
  have quiet : ∀ next : Journal Store AccountEffect,
      next.settled = (state.journal action.session).settled →
        ClaimedOnce state.config.committed
          (Function.update state.journal action.session next) := by
    intro next same
    refine claimed.kept (.refl _) fun session tokenHash now member => ?_
    rcases Journal.settled_moved member with ⟨rfl, mine⟩ | earlier
    · rwa [same] at mine
    · exact earlier
  cases shift with
  | still => exact quiet _ rfl
  | read => exact quiet _ rfl
  | write label => exact quiet _ rfl
  | tell label tells => exact quiet _ rfl
  | commit after commits leaves => exact claimed.commit leaves
  | drop => exact quiet _ rfl

/-- In every interleaving a link is claimed at most once and never after its expiry; and where
each call that stores a link stores it alone, the user never has two live ones. -/
theorem links_single_use (digests : Digests) (userId : String) (calls : ι → LinkCall)
    (store : Store) (time : Time) (one : liveLinks userId time store ≤ 1)
    (schedule : List (Action ι)) :
    Runs.Always Journaled.step (SingleUse digests calls) schedule
        (linkStart digests userId calls store) ∧
      (Runs.Throughout Journaled.step (StoresAlone userId time) schedule
          (linkStart digests userId calls store) →
        Runs.Always Journaled.step
          (fun state : LinkState ι => liveLinks userId time state.config.committed ≤ 1) schedule
          (linkStart digests userId calls store)) := by
  have along := linkStart_along digests userId calls store
  have nothing : ClaimedOnce (linkStart digests userId calls store).config.committed
      (linkStart digests userId calls store).journal :=
    ⟨by simp [linkStart, Journaled.start, Journal.settled],
      by simp [linkStart, Journaled.start, Journal.settled]⟩
  constructor
  · refine (Journaled.always_of_every_shift ClaimedOnce
      (fun _ _ _ _ _ claimed shift => claimed.shift shift) schedule along nothing).mono ?_
    rintro state ⟨along, claimed⟩
    have settles : ∀ session token now user, calls session = .consume token now →
        state.config.sessions session = .returned (.ok (.consumed (some user))) →
          .claimResetToken (digests.hashToken token) now ∈ (state.journal session).settled :=
      fun session token now user called ended =>
        along.returned session _ ended token now user called rfl
    refine ⟨?_, ?_⟩
    · intro first second token now later user user' calledFirst calledSecond one two
      exact claimed.once first second _ now later (settles _ _ _ _ calledFirst one)
        (settles _ _ _ _ calledSecond two)
    · intro session token now user called ended
      obtain ⟨row, found, _, fresh⟩ := claimed.spent session _ now (settles _ _ _ _ called ended)
      exact ⟨row, found, fresh⟩
  · intro alone
    refine (Journaled.always_of_shifts (fun store _ => liveLinks userId time store ≤ 1) ?_ along
      one alone).mono fun _ both => both.2
    intro state action committed journal _ one meets shift
    cases shift with
    | commit after commits leaves =>
        exact leaves.live (fun stores => meets (by rw [commits]; rfl) stores) one
    | _ => exact one

end Systems

def sampleRequests : Bool → LinkCall
  | true => .issue "first" 0
  | false => .issue "second" 0

/-- The second request runs between the two statements of the first. -/
def sampleOverlap : List (Action Bool) :=
  List.replicate 3 (.advance true) ++ List.replicate 6 (.advance false) ++
    List.replicate 3 (.advance true)

theorem overlapping_requests_leave_two :
    liveLinks "ada" 0 sampleAccounts ≤ 1 ∧
      (∀ session, ∃ outcome, (sampleOverlap.foldl Journaled.step (linkStart sampleDigests "ada"
        sampleRequests sampleAccounts)).config.sessions session = .returned outcome) ∧
      liveLinks "ada" 0 (sampleOverlap.foldl Journaled.step (linkStart sampleDigests "ada"
        sampleRequests sampleAccounts)).config.committed = 2 := by
  refine ⟨by decide, ?_, by decide⟩
  intro session
  cases session <;> exact ⟨_, rfl⟩

def sampleTurns : List (Action Bool) :=
  List.replicate 6 (.advance true) ++ List.replicate 6 (.advance false)

theorem links_single_use_sample :
    Runs.Always Journaled.step (SingleUse sampleDigests sampleRequests) sampleTurns
        (linkStart sampleDigests "ada" sampleRequests sampleAccounts) ∧
      Runs.Always Journaled.step
        (fun state : LinkState Bool => liveLinks "ada" 0 state.config.committed ≤ 1) sampleTurns
        (linkStart sampleDigests "ada" sampleRequests sampleAccounts) := by
  have both := links_single_use sampleDigests "ada" sampleRequests sampleAccounts 0 (by decide)
    sampleTurns
  exact ⟨both.1, both.2 (by decide)⟩

end Accounts

end MultiBrandInvoicing
