import Mathlib.Data.Fintype.Basic
import Mathlib.Logic.Function.Basic
import MultiBrandInvoicing.Integrations.StripeAccounts
import MultiBrandInvoicing.Transitions.Runs

/-!
# Zoho access tokens

`IntegrationConnectionService` in
`apps/api/src/integrations/integration-connection.service.ts`: the connection row of one brand,
the access token that Redis caches for it, and the calls that use the two.  Every `await` of a
call is a step of its own, and the steps of different calls mix as they like.  What encryption
stores is what decryption gives back.
-/

set_option autoImplicit false

namespace MultiBrandInvoicing

namespace AccessTokens

structure ZohoCredentials where
  refreshToken : String
  apiDomain : String
  deriving DecidableEq, Repr

structure ZohoConnectionConfig where
  organizationId : String
  organizationName : String
  deriving DecidableEq, Repr

/-- The row of `integration_connection` with provider `ZOHO_BOOKS`. -/
structure ConnectionRow where
  status : ConnectionStatus
  encryptedCredentials : Option ZohoCredentials
  config : Option ZohoConnectionConfig
  lastSyncAt : Option Time
  health : String
  deriving DecidableEq, Repr

structure CachedAccessToken where
  accessToken : String
  expiresAt : Time
  deriving DecidableEq, Repr

/-- What Redis holds under `zoho:access-token:…`. -/
structure CacheEntry where
  token : CachedAccessToken
  ttlSeconds : Int
  deriving DecidableEq, Repr

structure AccountingConnection where
  organisationId : String
  accessToken : String
  refreshToken : String
  expiresAt : Time
  deriving DecidableEq, Repr

/-- Zoho's side: the answer to each request for a refresh, and with which refresh token an
access token was obtained. -/
structure ZohoOAuth where
  refreshAccessToken : (refreshToken : String) → (request : Nat) →
    Except String CachedAccessToken
  obtainedWith : String → String
  obtained : ∀ refreshToken request token,
    refreshAccessToken refreshToken request = .ok token →
      obtainedWith token.accessToken = refreshToken

def tokenCacheSafetyBufferMs : Int := 2 * 60 * 1000

def roundedSeconds (ms : Int) : Int := (2 * ms + 1000) / 2000

def ttlSecondsOf (expiresAt now : Time) : Int :=
  max 60 (roundedSeconds (expiresAt - tokenCacheSafetyBufferMs - now))

def savedRow (credentials : ZohoCredentials) (config : ZohoConnectionConfig) (now : Time)
    (row : Option ConnectionRow) : ConnectionRow where
  status := .connected
  encryptedCredentials := some credentials
  config := some config
  lastSyncAt := match row with
    | none => some now
    | some row => row.lastSyncAt
  health := "Healthy"

def disconnectedRow (row : ConnectionRow) : ConnectionRow :=
  { row with
    status := .disconnected
    encryptedCredentials := none
    config := none
    health := "Disconnected" }

def usable? (row : Option ConnectionRow) : Option (ZohoCredentials × Option ZohoConnectionConfig) :=
  row.bind fun row =>
    if row.status = .connected then
      row.encryptedCredentials.map fun credentials => (credentials, row.config)
    else none

/-- The connection is put together at the end; without a `config` that fails. -/
def connection? (credentials : ZohoCredentials) (config : Option ZohoConnectionConfig)
    (token : CachedAccessToken) : Option AccountingConnection :=
  config.map fun config => {
    organisationId := config.organizationId
    accessToken := token.accessToken
    refreshToken := credentials.refreshToken
    expiresAt := token.expiresAt }

inductive TokenCall where
  | saveZohoConnection (credentials : ZohoCredentials) (config : ZohoConnectionConfig)
  | disconnectZoho
  | buildAccountingConnection
  deriving DecidableEq, Repr

def TokenCall.refreshToken? : TokenCall → Option String
  | saveZohoConnection credentials _ => some credentials.refreshToken
  | _ => none

/-- Where a call is; each stage names what the call still holds. -/
inductive Stage where
  | idle
  | rowWritten
  | completed
  | rowRead (credentials : ZohoCredentials) (config : Option ZohoConnectionConfig)
  | cacheMissed (credentials : ZohoCredentials) (config : Option ZohoConnectionConfig)
  | refreshed (credentials : ZohoCredentials) (config : Option ZohoConnectionConfig)
      (token : CachedAccessToken)
  | returned (connection : Option AccountingConnection)
  | failed
  deriving DecidableEq, Repr

/-- `written` lists the calls that have changed the row, the latest first. -/
structure TokenState (ι : Type) where
  row : Option ConnectionRow
  cache : Option CacheEntry
  written : List ι
  stage : ι → Stage

/-- Besides the calls' own steps, a call may fail at any await, and Redis may drop the entry
when its time is up or before. -/
inductive TokenAction (ι : Type) where
  | advance (call : ι) (now : Time) (request : Nat)
  | fail (call : ι)
  | evict
  deriving DecidableEq, Repr

def answered (credentials : ZohoCredentials) (config : Option ZohoConnectionConfig)
    (token : CachedAccessToken) : Stage :=
  match connection? credentials config token with
  | none => .failed
  | some connection => .returned (some connection)

section Steps

variable {ι : Type} [DecidableEq ι]

def TokenState.at_ (state : TokenState ι) (call : ι) (stage : Stage) : TokenState ι :=
  { state with stage := Function.update state.stage call stage }

def TokenState.writes (state : TokenState ι) (call : ι) (row : Option ConnectionRow) :
    TokenState ι :=
  { state with
    row
    written := call :: state.written
    stage := Function.update state.stage call .rowWritten }

/-- The first await of a call: its statement on the row. -/
def begin_ (calls : ι → TokenCall) (state : TokenState ι) (call : ι) (now : Time) :
    TokenState ι :=
  match calls call with
  | .saveZohoConnection credentials config =>
      state.writes call (some (savedRow credentials config now state.row))
  | .disconnectZoho => state.writes call (state.row.map disconnectedRow)
  | .buildAccountingConnection =>
      match usable? state.row with
      | none => state.at_ call (.returned none)
      | some (credentials, config) => state.at_ call (.rowRead credentials config)

def readCache (state : TokenState ι) (call : ι) (credentials : ZohoCredentials)
    (config : Option ZohoConnectionConfig) (now : Time) : TokenState ι :=
  match state.cache with
  | none => state.at_ call (.cacheMissed credentials config)
  | some cached =>
      if now < cached.token.expiresAt then
        state.at_ call (answered credentials config cached.token)
      else state.at_ call (.cacheMissed credentials config)

def refresh (zoho : ZohoOAuth) (state : TokenState ι) (call : ι) (credentials : ZohoCredentials)
    (config : Option ZohoConnectionConfig) (request : Nat) : TokenState ι :=
  match zoho.refreshAccessToken credentials.refreshToken request with
  | .error _ => state.at_ call .failed
  | .ok token => state.at_ call (.refreshed credentials config token)

def fillCache (state : TokenState ι) (call : ι) (credentials : ZohoCredentials)
    (config : Option ZohoConnectionConfig) (token : CachedAccessToken) (now : Time) :
    TokenState ι :=
  { state.at_ call (answered credentials config token) with
    cache := some ⟨token, ttlSecondsOf token.expiresAt now⟩ }

def advance (zoho : ZohoOAuth) (calls : ι → TokenCall) (state : TokenState ι) (call : ι)
    (now : Time) (request : Nat) : TokenState ι :=
  match state.stage call with
  | .idle => begin_ calls state call now
  | .rowWritten => { state.at_ call .completed with cache := none }
  | .rowRead credentials config => readCache state call credentials config now
  | .cacheMissed credentials config => refresh zoho state call credentials config request
  | .refreshed credentials config token => fillCache state call credentials config token now
  | .completed => state
  | .returned _ => state
  | .failed => state

def step (zoho : ZohoOAuth) (calls : ι → TokenCall) (state : TokenState ι) :
    TokenAction ι → TokenState ι
  | .advance call now request => advance zoho calls state call now request
  | .fail call =>
      match state.stage call with
      | .completed => state
      | .returned _ => state
      | _ => state.at_ call .failed
  | .evict => { state with cache := none }

/-! ## What a token was obtained with -/

/-- The call's change of the row and all later ones, the latest first. -/
def changesSince (change : ι) (written : List ι) : List ι :=
  written.takeWhile (· ≠ change) ++ [change]

/-- The refresh token was stored by the change or after it. -/
def StoredSince (calls : ι → TokenCall) (change : ι) (written : List ι) (refreshToken : String) :
    Prop :=
  ∃ later ∈ changesSince change written, (calls later).refreshToken? = some refreshToken

instance (calls : ι → TokenCall) (change : ι) (written : List ι) (refreshToken : String) :
    Decidable (StoredSince calls change written refreshToken) :=
  inferInstanceAs (Decidable (∃ later ∈ _, _ = _))

theorem StoredSince.write {calls : ι → TokenCall} {change : ι} {written : List ι}
    {refreshToken : String} (stored : StoredSince calls change written refreshToken) {call : ι}
    (other : call ≠ change) : StoredSince calls change (call :: written) refreshToken := by
  obtain ⟨later, member, saved⟩ := stored
  refine ⟨later, ?_, saved⟩
  rw [changesSince, List.takeWhile_cons_of_pos (by simpa using other)]
  exact List.mem_cons_of_mem _ member

/-- What the row holds is what the last change of it has stored. -/
theorem storedSince_of_head {calls : ι → TokenCall} {change last : ι} {earlier : List ι}
    {refreshToken : String} (saved : (calls last).refreshToken? = some refreshToken) :
    StoredSince calls change (last :: earlier) refreshToken := by
  by_cases same : last = change
  · exact ⟨last, by simp [changesSince, same], saved⟩
  · refine ⟨last, ?_, saved⟩
    rw [changesSince, List.takeWhile_cons_of_pos (by simpa using same)]
    simp

/-- A save or a disconnect is over. -/
def TokenState.Completed (state : TokenState ι) (change : ι) : Prop :=
  state.stage change = .completed

instance (state : TokenState ι) (change : ι) : Decidable (state.Completed change) :=
  inferInstanceAs (Decidable (_ = _))

/-- When a call fills the cache, the refresh token it has used is that of every completed change
or of a later one. -/
def FillsInTime (calls : ι → TokenCall) (state : TokenState ι) : TokenAction ι → Prop
  | .advance call _ _ =>
      match state.stage call with
      | .refreshed credentials _ _ => ∀ change, state.Completed change →
          StoredSince calls change state.written credentials.refreshToken
      | _ => True
  | _ => True

instance [Fintype ι] (calls : ι → TokenCall) (state : TokenState ι) (action : TokenAction ι) :
    Decidable (FillsInTime calls state action) := by
  unfold FillsInTime
  split
  · split <;> infer_instance
  · infer_instance

/-! ## What a step can do -/

inductive Goes (zoho : ZohoOAuth) (state : TokenState ι) (call : ι) : Stage → Prop where
  | unconnected : Goes zoho state call (.returned none)
  | failed : Goes zoho state call .failed
  | row {credentials : ZohoCredentials} {config : Option ZohoConnectionConfig}
      (found : usable? state.row = some (credentials, config)) :
      Goes zoho state call (.rowRead credentials config)
  | missed {credentials : ZohoCredentials} {config : Option ZohoConnectionConfig}
      (here : state.stage call = .rowRead credentials config) :
      Goes zoho state call (.cacheMissed credentials config)
  | cached {credentials : ZohoCredentials} {config : Option ZohoConnectionConfig}
      {entry : CacheEntry} {connection : AccountingConnection}
      (here : state.stage call = .rowRead credentials config) (found : state.cache = some entry)
      (built : connection? credentials config entry.token = some connection) :
      Goes zoho state call (.returned (some connection))
  | refreshed {credentials : ZohoCredentials} {config : Option ZohoConnectionConfig}
      {token : CachedAccessToken} (here : state.stage call = .cacheMissed credentials config)
      (obtained : zoho.obtainedWith token.accessToken = credentials.refreshToken) :
      Goes zoho state call (.refreshed credentials config token)

inductive Moves (zoho : ZohoOAuth) (calls : ι → TokenCall) (state : TokenState ι) :
    TokenAction ι → TokenState ι → Prop where
  | still {action : TokenAction ι} : Moves zoho calls state action state
  | evicts {action : TokenAction ι} : Moves zoho calls state action { state with cache := none }
  | writes {call : ι} {now : Time} {request : Nat} {row : Option ConnectionRow}
      (idle : state.stage call = .idle)
      (stored : ∀ credentials config, usable? row = some (credentials, config) →
        (calls call).refreshToken? = some credentials.refreshToken) :
      Moves zoho calls state (.advance call now request) (state.writes call row)
  | completes {call : ι} {now : Time} {request : Nat} (written : state.stage call = .rowWritten) :
      Moves zoho calls state (.advance call now request)
        { state.at_ call .completed with cache := none }
  | fills {call : ι} {now : Time} {request : Nat} {credentials : ZohoCredentials}
      {config : Option ZohoConnectionConfig} {token : CachedAccessToken}
      (here : state.stage call = .refreshed credentials config token) :
      Moves zoho calls state (.advance call now request)
        (fillCache state call credentials config token now)
  | goes {action : TokenAction ι} {call : ι} {next : Stage} (open_ : ¬state.Completed call)
      (goes : Goes zoho state call next) :
      Moves zoho calls state action (state.at_ call next)

theorem usable?_savedRow (credentials : ZohoCredentials) (config : ZohoConnectionConfig)
    (now : Time) (row : Option ConnectionRow) :
    usable? (some (savedRow credentials config now row)) = some (credentials, some config) := rfl

theorem usable?_disconnectedRow (row : Option ConnectionRow) :
    usable? (row.map disconnectedRow) = none := by
  cases row <;> rfl

theorem advance_moves (zoho : ZohoOAuth) (calls : ι → TokenCall) (state : TokenState ι) (call : ι)
    (now : Time) (request : Nat) :
    Moves zoho calls state (.advance call now request)
      (advance zoho calls state call now request) := by
  unfold advance
  cases here : state.stage call with
  | idle =>
      have open_ : ¬state.Completed call := by simp [TokenState.Completed, here]
      simp only [begin_]
      cases kind : calls call with
      | saveZohoConnection credentials config =>
          refine .writes here fun stored _ found => ?_
          rw [usable?_savedRow] at found
          cases found
          simp [kind, TokenCall.refreshToken?]
      | disconnectZoho =>
          refine .writes here fun _ _ found => ?_
          rw [usable?_disconnectedRow] at found
          cases found
      | buildAccountingConnection =>
          cases found : usable? state.row with
          | none => exact .goes open_ .unconnected
          | some view => exact .goes open_ (.row found)
  | rowWritten => exact .completes here
  | rowRead credentials config =>
      have open_ : ¬state.Completed call := by simp [TokenState.Completed, here]
      simp only [readCache]
      cases found : state.cache with
      | none => exact .goes open_ (.missed here)
      | some cached =>
          simp only
          split
          next =>
            unfold answered
            split
            next => exact .goes open_ .failed
            next connection built => exact .goes open_ (.cached here found built)
          next => exact .goes open_ (.missed here)
  | cacheMissed credentials config =>
      have open_ : ¬state.Completed call := by simp [TokenState.Completed, here]
      simp only [refresh]
      cases answer : zoho.refreshAccessToken credentials.refreshToken request with
      | error error => exact .goes open_ .failed
      | ok token => exact .goes open_ (.refreshed here (zoho.obtained _ _ _ answer))
  | refreshed credentials config token => exact .fills here
  | completed => exact .still
  | returned connection => exact .still
  | failed => exact .still

theorem step_moves (zoho : ZohoOAuth) (calls : ι → TokenCall) (state : TokenState ι)
    (action : TokenAction ι) : Moves zoho calls state action (step zoho calls state action) := by
  cases action with
  | advance call now request => exact advance_moves zoho calls state call now request
  | evict => exact .evicts
  | fail call =>
      simp only [step]
      split
      next => exact .still
      next => exact .still
      next other _ => exact .goes other .failed

/-! ## What holds all along -/

variable {zoho : ZohoOAuth} {calls : ι → TokenCall} {state : TokenState ι}

/-- The row is that of the last change, a token in hand is of its own credentials, and the
cached one is of no earlier authorisation than the completed changes. -/
structure Sound (zoho : ZohoOAuth) (calls : ι → TokenCall) (state : TokenState ι) : Prop where
  changed : ∀ call, state.stage call = .rowWritten ∨ state.Completed call →
    call ∈ state.written
  stored : ∀ last earlier, state.written = last :: earlier → ∀ credentials config,
    usable? state.row = some (credentials, config) →
      (calls last).refreshToken? = some credentials.refreshToken
  paired : ∀ call credentials config token,
    state.stage call = .refreshed credentials config token →
      zoho.obtainedWith token.accessToken = credentials.refreshToken
  current : ∀ entry, state.cache = some entry → ∀ change, state.Completed change →
    StoredSince calls change state.written (zoho.obtainedWith entry.token.accessToken)

def Stage.Passes (stage : Stage) : Prop := stage ≠ .rowWritten ∧ stage ≠ .completed

omit [DecidableEq ι] in
theorem Goes.passes {call : ι} {next : Stage} (goes : Goes zoho state call next) :
    next.Passes := by
  cases goes <;> simp [Stage.Passes]

theorem answered_cases (credentials : ZohoCredentials) (config : Option ZohoConnectionConfig)
    (token : CachedAccessToken) :
    answered credentials config token = .failed ∨ ∃ connection,
      connection? credentials config token = some connection ∧
        answered credentials config token = .returned (some connection) := by
  unfold answered
  split
  next => exact .inl rfl
  next connection built => exact .inr ⟨connection, built, rfl⟩

theorem answered_passes (credentials : ZohoCredentials) (config : Option ZohoConnectionConfig)
    (token : CachedAccessToken) : (answered credentials config token).Passes := by
  rcases answered_cases credentials config token with ended | ⟨connection, _, ended⟩ <;>
    simp [ended, Stage.Passes]

theorem stage_at (state : TokenState ι) (call other : ι) (next : Stage) :
    (state.at_ call next).stage other = if other = call then next else state.stage other := by
  simp [TokenState.at_, Function.update_apply]

theorem completed_at {call change : ι} {next : Stage} (passes : next.Passes)
    (completed : (state.at_ call next).Completed change) : state.Completed change := by
  rw [TokenState.Completed, stage_at] at completed
  split at completed
  next => exact absurd completed passes.2
  next => exact completed

/-- A call that takes no part in a change keeps what is sound about the changes. -/
theorem Sound.passes (sound : Sound zoho calls state) {call : ι} {next : Stage}
    (passes : next.Passes)
    (paired : ∀ credentials config token, next = .refreshed credentials config token →
      zoho.obtainedWith token.accessToken = credentials.refreshToken) :
    Sound zoho calls (state.at_ call next) := by
  refine ⟨fun other stages => ?_, sound.stored,
    fun other credentials config token here => ?_, fun entry cached change completed => ?_⟩
  · refine sound.changed other ?_
    rcases stages with written | completed
    · rw [stage_at] at written
      split at written
      next => exact absurd written passes.1
      next => exact .inl written
    · exact .inr (completed_at passes completed)
  · rw [stage_at] at here
    split at here
    next => exact paired credentials config token here
    next => exact sound.paired other credentials config token here
  · exact sound.current entry cached change (completed_at passes completed)

theorem Sound.evicts (sound : Sound zoho calls state) :
    Sound zoho calls { state with cache := none } :=
  ⟨sound.changed, sound.stored, sound.paired, nofun⟩

theorem Sound.writes (sound : Sound zoho calls state) {call : ι} {row : Option ConnectionRow}
    (stored : ∀ credentials config, usable? row = some (credentials, config) →
      (calls call).refreshToken? = some credentials.refreshToken) :
    Sound zoho calls (state.writes call row) := by
  have stage : ∀ other, (state.writes call row).stage other =
      if other = call then .rowWritten else state.stage other := fun other => by
    simp [TokenState.writes, Function.update_apply]
  refine ⟨fun other stages => ?_, ?_, fun other credentials config token here => ?_,
    fun entry cached change completed => ?_⟩
  · rw [TokenState.Completed, stage] at stages
    split at stages
    next same => exact same ▸ List.mem_cons_self
    next => exact List.mem_cons_of_mem _ (sound.changed other stages)
  · rintro last earlier same
    cases same
    exact stored
  · rw [stage] at here
    split at here
    next => cases here
    next => exact sound.paired other credentials config token here
  · rw [TokenState.Completed, stage] at completed
    split at completed
    next => cases completed
    next different => exact (sound.current entry cached change completed).write (Ne.symm different)

theorem Sound.completes (sound : Sound zoho calls state) {call : ι}
    (written : state.stage call = .rowWritten) :
    Sound zoho calls { state.at_ call .completed with cache := none } := by
  refine ⟨fun other stages => ?_, sound.stored,
    fun other credentials config token here => ?_, nofun⟩
  · change (state.at_ call .completed).stage other = _ ∨
      (state.at_ call .completed).stage other = _ at stages
    rw [stage_at] at stages
    split at stages
    next same => exact sound.changed other (.inl (same ▸ written))
    next => exact sound.changed other stages
  · change (state.at_ call .completed).stage other = _ at here
    rw [stage_at] at here
    split at here
    next => cases here
    next => exact sound.paired other credentials config token here

theorem Sound.fills (sound : Sound zoho calls state) {call : ι} {credentials : ZohoCredentials}
    {config : Option ZohoConnectionConfig} {token : CachedAccessToken} (now : Time)
    (here : state.stage call = .refreshed credentials config token)
    (inTime : ∀ change, state.Completed change →
      StoredSince calls change state.written credentials.refreshToken) :
    Sound zoho calls (fillCache state call credentials config token now) := by
  have passes := answered_passes credentials config token
  have unpaired : ∀ credentials' config' token', answered credentials config token =
      .refreshed credentials' config' token' →
        zoho.obtainedWith token'.accessToken = credentials'.refreshToken := by
    intro _ _ _ same
    rcases answered_cases credentials config token with ended | ⟨connection, _, ended⟩ <;>
      · rw [ended] at same
        cases same
  have kept : Sound zoho calls (state.at_ call (answered credentials config token)) :=
    sound.passes passes unpaired
  refine ⟨kept.changed, kept.stored, kept.paired, fun entry cached change completed => ?_⟩
  cases cached
  rw [sound.paired call credentials config token here]
  exact inTime change (completed_at passes completed)

theorem Sound.step (sound : Sound zoho calls state) {action : TokenAction ι}
    (inTime : FillsInTime calls state action) :
    Sound zoho calls (AccessTokens.step zoho calls state action) := by
  have moves := step_moves zoho calls state action
  generalize AccessTokens.step zoho calls state action = next at moves
  cases moves with
  | still => exact sound
  | evicts => exact sound.evicts
  | writes _ stored => exact sound.writes stored
  | completes written => exact sound.completes written
  | fills here =>
      simp only [FillsInTime, here] at inTime
      exact sound.fills _ here inTime
  | goes open_ goes =>
      refine sound.passes goes.passes fun credentials config token same => ?_
      subst same
      cases goes with
      | refreshed _ obtained => exact obtained

def Stage.Fresh (stored : String → Prop) (zoho : ZohoOAuth) : Stage → Prop
  | .rowRead credentials _ => stored credentials.refreshToken
  | .cacheMissed credentials _ => stored credentials.refreshToken
  | .refreshed credentials _ _ => stored credentials.refreshToken
  | .returned (some connection) => stored (zoho.obtainedWith connection.accessToken)
  | _ => True

theorem Stage.Fresh.mono {stored stored' : String → Prop}
    (more : ∀ refreshToken, stored refreshToken → stored' refreshToken) {stage : Stage}
    (fresh : stage.Fresh stored zoho) : stage.Fresh stored' zoho := by
  cases stage with
  | returned connection =>
      cases connection with
      | none => trivial
      | some connection => exact more _ fresh
  | idle => trivial
  | rowWritten => trivial
  | completed => trivial
  | failed => trivial
  | _ => exact more _ fresh

structure Begins (zoho : ZohoOAuth) (calls : ι → TokenCall) (change call : ι)
    (state : TokenState ι) : Prop where
  sound : Sound zoho calls state
  completed : state.Completed change
  fresh : (state.stage call).Fresh (StoredSince calls change state.written) zoho

theorem Begins.row {change call : ι} (begins : Begins zoho calls change call state)
    {credentials : ZohoCredentials} {config : Option ZohoConnectionConfig}
    (found : usable? state.row = some (credentials, config)) :
    StoredSince calls change state.written credentials.refreshToken := by
  have member := begins.sound.changed change (.inr begins.completed)
  cases written : state.written with
  | nil =>
      rw [written] at member
      cases member
  | cons last earlier =>
      exact storedSince_of_head (begins.sound.stored last earlier written credentials config found)

theorem Begins.goes {change call other : ι} (begins : Begins zoho calls change call state)
    {next : Stage} (open_ : ¬state.Completed other) (goes : Goes zoho state other next) :
    (state.at_ other next).Completed change ∧
      ((state.at_ other next).stage call).Fresh (StoredSince calls change state.written) zoho := by
  constructor
  · rw [TokenState.Completed, stage_at, if_neg]
    · exact begins.completed
    · rintro rfl
      exact open_ begins.completed
  · rw [stage_at]
    split
    next same =>
      subst same
      have here := begins.fresh
      cases goes with
      | unconnected => trivial
      | failed => trivial
      | row found => exact begins.row found
      | missed read => rw [read] at here; exact here
      | refreshed missed _ => rw [missed] at here; exact here
      | cached read found built =>
          obtain ⟨config, _, rfl⟩ := Option.map_eq_some_iff.mp built
          exact begins.sound.current _ found change begins.completed
    next => exact begins.fresh

theorem Begins.fills {change call other : ι} (begins : Begins zoho calls change call state)
    {credentials : ZohoCredentials} {config : Option ZohoConnectionConfig}
    {token : CachedAccessToken} (here : state.stage other = .refreshed credentials config token) :
    (state.at_ other (answered credentials config token)).Completed change ∧
      ((state.at_ other (answered credentials config token)).stage call).Fresh
        (StoredSince calls change state.written) zoho := by
  constructor
  · rw [TokenState.Completed, stage_at, if_neg]
    · exact begins.completed
    · rintro rfl
      have completed := begins.completed
      rw [TokenState.Completed, here] at completed
      cases completed
  · rw [stage_at]
    split
    next same =>
      subst same
      rcases answered_cases credentials config token with ended | ⟨connection, built, ended⟩
      · rw [ended]
        trivial
      · rw [ended]
        obtain ⟨config, _, rfl⟩ := Option.map_eq_some_iff.mp built
        have fresh := begins.fresh
        rw [here] at fresh
        change StoredSince calls change state.written (zoho.obtainedWith token.accessToken)
        rw [begins.sound.paired _ credentials _ token here]
        exact fresh
    next => exact begins.fresh

theorem Begins.writes {change call other : ι} (begins : Begins zoho calls change call state)
    {row : Option ConnectionRow} (idle : state.stage other = .idle) :
    (state.writes other row).Completed change ∧
      ((state.writes other row).stage call).Fresh
        (StoredSince calls change (state.writes other row).written) zoho := by
  have different : other ≠ change := by
    rintro rfl
    have completed := begins.completed
    rw [TokenState.Completed, idle] at completed
    cases completed
  constructor
  · exact (Function.update_of_ne (Ne.symm different) ..).trans begins.completed
  · by_cases same : call = other
    · subst same
      simp [TokenState.writes, Stage.Fresh]
    · have unmoved : (state.writes other row).stage call = state.stage call :=
        Function.update_of_ne same ..
      rw [unmoved]
      exact begins.fresh.mono fun _ stored => stored.write different

theorem Begins.completes {change call other : ι} (begins : Begins zoho calls change call state) :
    (state.at_ other .completed).Completed change ∧
      ((state.at_ other .completed).stage call).Fresh (StoredSince calls change state.written)
        zoho := by
  constructor
  · rw [TokenState.Completed, stage_at]
    split
    next => rfl
    next => exact begins.completed
  · rw [stage_at]
    split
    next => trivial
    next => exact begins.fresh

theorem Begins.step {change call : ι} (begins : Begins zoho calls change call state)
    {action : TokenAction ι} (inTime : FillsInTime calls state action) :
    Begins zoho calls change call (AccessTokens.step zoho calls state action) := by
  have sound := begins.sound.step inTime
  have moves := step_moves zoho calls state action
  generalize AccessTokens.step zoho calls state action = next at moves sound
  have both : next.Completed change ∧
      (next.stage call).Fresh (StoredSince calls change next.written) zoho := by
    cases moves with
    | still => exact ⟨begins.completed, begins.fresh⟩
    | evicts => exact ⟨begins.completed, begins.fresh⟩
    | writes idle stored => exact begins.writes idle
    | completes written => exact begins.completes
    | fills here => exact begins.fills here
    | goes open_ goes => exact begins.goes open_ goes
  exact ⟨sound, both.1, both.2⟩

def tokenStart (row : Option ConnectionRow) (cache : Option CacheEntry) : TokenState ι where
  row := row
  cache := cache
  written := []
  stage := fun _ => .idle

/-- Once a save or a disconnect is completed, a call that begins then returns no token obtained
before it: the refresh token is that of the change or of a later one. -/
def TokensEndWithAuthorisation (zoho : ZohoOAuth) (calls : ι → TokenCall) (start : TokenState ι)
    (actions : List (TokenAction ι)) : Prop :=
  ∀ earlier later change call connection, actions = earlier ++ later →
    (earlier.foldl (AccessTokens.step zoho calls) start).Completed change →
      (earlier.foldl (AccessTokens.step zoho calls) start).stage call = .idle →
        (actions.foldl (AccessTokens.step zoho calls) start).stage call =
            .returned (some connection) →
          StoredSince calls change (actions.foldl (AccessTokens.step zoho calls) start).written
            (zoho.obtainedWith connection.accessToken)

theorem sound_start (row : Option ConnectionRow) (cache : Option CacheEntry) :
    Sound zoho calls (tokenStart row cache) where
  changed := by simp [tokenStart, TokenState.Completed]
  stored := nofun
  paired := nofun
  current := by simp [tokenStart, TokenState.Completed]

/-- In every run whose calls fill the cache in time, no access token outlives its
authorisation. -/
theorem tokens_end_with_authorisation (zoho : ZohoOAuth) (calls : ι → TokenCall)
    (row : Option ConnectionRow) (cache : Option CacheEntry) (actions : List (TokenAction ι))
    (inTime : Runs.Throughout (AccessTokens.step zoho calls) (FillsInTime calls) actions
      (tokenStart row cache)) :
    TokensEndWithAuthorisation zoho calls (tokenStart row cache) actions := by
  rintro earlier later change call connection rfl completed idle returned
  obtain ⟨first, second⟩ := Runs.throughout_append.mp inTime
  have keepsSound : ∀ (state : TokenState ι) action, Sound zoho calls state →
      FillsInTime calls state action →
        Sound zoho calls (AccessTokens.step zoho calls state action) :=
    fun _ _ holds meets => holds.step meets
  have sound := (Runs.always_of_throughout keepsSound (sound_start row cache) first).last
  have begins : Begins zoho calls change call
      (earlier.foldl (AccessTokens.step zoho calls) (tokenStart row cache)) :=
    ⟨sound, completed, by rw [idle]; trivial⟩
  rw [List.foldl_append] at returned ⊢
  have keeps : ∀ (state : TokenState ι) action, Begins zoho calls change call state →
      FillsInTime calls state action →
        Begins zoho calls change call (AccessTokens.step zoho calls state action) :=
    fun _ _ holds meets => holds.step meets
  have last := (Runs.always_of_throughout keeps begins second).last
  have fresh := last.fresh
  rw [returned] at fresh
  exact fresh

/-- Zoho's tokens spelled after the refresh tokens they come from. -/
def sampleZohoOAuth : ZohoOAuth where
  refreshAccessToken := fun refreshToken _ => .ok ⟨refreshToken, 3600000⟩
  obtainedWith := fun accessToken => accessToken
  obtained := by
    rintro refreshToken request token ⟨⟩
    rfl

def sampleConnection : ConnectionRow where
  status := .connected
  encryptedCredentials := some ⟨"first", "https://www.zohoapis.com"⟩
  config := some ⟨"7", "Acme"⟩
  lastSyncAt := none
  health := "Healthy"

def sampleTokenCalls : Fin 3 → TokenCall
  | 0 => .buildAccountingConnection
  | 1 => .saveZohoConnection ⟨"second", "https://www.zohoapis.com"⟩ ⟨"7", "Acme"⟩
  | 2 => .buildAccountingConnection

/-- The refresh is answered before the change, and cached after it. -/
def sampleLateFill : List (TokenAction (Fin 3)) :=
  [.advance 0 0 0, .advance 0 0 0, .advance 0 0 0, .advance 1 0 0, .advance 1 0 0,
    .advance 0 0 0, .advance 2 0 0, .advance 2 0 0]

theorem late_fill_outlives :
    ¬TokensEndWithAuthorisation sampleZohoOAuth sampleTokenCalls
      (tokenStart (some sampleConnection) none) sampleLateFill := by
  intro ends
  have stored := ends (sampleLateFill.take 6) (sampleLateFill.drop 6) 1 2
    ⟨"7", "first", "second", 3600000⟩ (by decide) (by decide) (by decide) (by decide)
  revert stored
  decide

def sampleTimelyFill : List (TokenAction (Fin 3)) :=
  [.advance 0 0 0, .advance 0 0 0, .advance 0 0 0, .advance 1 0 0, .advance 0 0 0,
    .advance 1 0 0, .advance 2 0 0, .advance 2 0 0, .advance 2 0 0, .advance 2 0 0]

theorem tokens_end_with_authorisation_sample :
    TokensEndWithAuthorisation sampleZohoOAuth sampleTokenCalls
      (tokenStart (some sampleConnection) none) sampleTimelyFill :=
  tokens_end_with_authorisation sampleZohoOAuth sampleTokenCalls (some sampleConnection) none
    sampleTimelyFill (by decide)

end Steps

end AccessTokens

end MultiBrandInvoicing
