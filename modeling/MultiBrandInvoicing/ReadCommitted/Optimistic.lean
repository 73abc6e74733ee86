import MultiBrandInvoicing.ReadCommitted.Interleaving

/-!
# Optimistic sessions

A session of this shape reads the store once and decides.  Its first write takes the row
`key` and matches only where the store still has the version that was read; everything
else it writes comes after that, and it commits once.  So the sessions that commit do it one
after another, each as it has decided on a store that was there before and has the version of
the one it finds.  What is known of such an earlier store is up to the caller.
-/

set_option autoImplicit false

namespace ReadCommitted

namespace Program

variable {σ κ ω ε α V : Type}

def Body : Program σ κ ω ε α → Prop
  | .done _ => False
  | .throw _ => True
  | .select next => ∀ view, (next view).Body
  | .write _ _ _ _ next => ∀ hit, (next hit).Body
  | .emit _ next => next.Body
  | .commit next => next.Trailing
  | .rollback _ => False

inductive Decided (key : κ) (version : σ → V) (view : σ) : Program σ κ ω ε α → Prop where
  | refused (error : ε) : Decided key version view (.throw error)
  | guarded (label : ω) (rows : List κ) (applies : σ → Bool) (change : σ → σ)
      (next : Bool → Program σ κ ω ε α) (error : ε) (takes : key ∈ rows)
      (same : ∀ store, applies store = true → version store = version view)
      (raced : next false = .throw error) (body : (next true).Body) :
      Decided key version view (.write label rows applies change next)

def Optimistic (key : κ) (version : σ → V) : Program σ κ ω ε α → Prop
  | .select next => ∀ view, Decided key version view (next view)
  | _ => False

def afterRead : Program σ κ ω ε α → σ → Program σ κ ω ε α
  | .select next, view => next view
  | program, _ => program

theorem Optimistic.exists_select {key : κ} {version : σ → V} {program : Program σ κ ω ε α}
    (optimistic : program.Optimistic key version) :
    ∃ next, program = .select next ∧ ∀ view, Decided key version view (next view) := by
  cases program with
  | select next => exact ⟨next, rfl, optimistic⟩
  | _ => exact optimistic.elim

theorem Optimistic.read {key : κ} {version : σ → V} {next : σ → Program σ κ ω ε α}
    (decides : ∀ view, Decided key version view (next view)) :
    (Program.read >>= next).Optimistic key version := decides

theorem Decided.ofExcept {δ β : Type} {key : κ} {version : σ → V} {view : σ} {wrap : δ → ε}
    {result : Except δ β} {next : β → Program σ κ ω ε α}
    (rest : ∀ value, Decided key version view (next value)) :
    Decided key version view (Program.ofExcept wrap result >>= next) := by
  cases result with
  | error error => exact .refused (wrap error)
  | ok value => exact rest value

end Program

section Overlapped

variable {ι σ κ ω ε α V : Type} (Seen : σ → σ → Prop) (version : σ → V)
  (programs : ι → Program σ κ ω ε α)

/-- What a session that has decided on `view` makes of the store it finds. -/
def Program.landing (program : Program σ κ ω ε α) (view store : σ) : Execution σ ω ε α :=
  (program.afterRead view).execFrom store store

/-- The sessions of the list commit one after another and lead from the first store to the
last.  Each has decided on a view of the store that has the version of the one it finds. -/
def Overlapped : List ι → σ → σ → Prop
  | [], store, final => final = store
  | session :: rest, store, final =>
      ∃ view value, Seen view store ∧ version view = version store ∧
        ((programs session).landing view store).outcome = .ok value ∧
          Overlapped rest ((programs session).landing view store).store final

/-- What is known of the stores that were seen is still known when a session has committed, and
of the store that it leaves as well. -/
structure Outlasts : Prop where
  latest : ∀ session view store value, Seen view store → version view = version store →
    ((programs session).landing view store).outcome = .ok value →
      Seen ((programs session).landing view store).store
        ((programs session).landing view store).store
  earlier : ∀ session view store value, Seen view store → version view = version store →
    ((programs session).landing view store).outcome = .ok value →
      ∀ first, Seen first store → Seen first ((programs session).landing view store).store

variable {Seen version programs}

theorem Overlapped.snoc {order : List ι} {store middle view : σ} {session : ι} {value : α}
    (overlapped : Overlapped Seen version programs order store middle) (seen : Seen view middle)
    (same : version view = version middle)
    (returns : ((programs session).landing view middle).outcome = .ok value) :
    Overlapped Seen version programs (order ++ [session]) store
      ((programs session).landing view middle).store := by
  induction order generalizing store with
  | nil =>
      cases overlapped
      exact ⟨view, value, seen, same, returns, rfl⟩
  | cons first rest ih =>
      obtain ⟨read, result, earlier, version_, done, later⟩ := overlapped
      exact ⟨read, result, earlier, version_, done, ih later⟩

theorem Overlapped.invariant {P : σ → Prop}
    (keeps : ∀ session view store value, Seen view store → version view = version store →
      ((programs session).landing view store).outcome = .ok value → P store →
        P ((programs session).landing view store).store)
    {order : List ι} {store final : σ}
    (overlapped : Overlapped Seen version programs order store final) (holds : P store) :
    P final := by
  induction order generalizing store with
  | nil =>
      cases overlapped
      exact holds
  | cons session rest ih =>
      obtain ⟨view, value, seen, same, returns, later⟩ := overlapped
      exact ih later (keeps session view store value seen same returns holds)

end Overlapped

namespace Config

variable {ι σ κ ω ε α V : Type} {key : κ} {Seen : σ → σ → Prop} {version : σ → V}
  {programs : ι → Program σ κ ω ε α} {store : σ}

/-- The session has decided on a view, and what is left of it leaves what that decision makes of
the store. -/
def Lands (Seen : σ → σ → Prop) (version : σ → V) (whole : Program σ κ ω ε α) (committed : σ)
    (program : Program σ κ ω ε α) (pending : σ → σ) : Prop :=
  ∃ view announced, Seen view committed ∧ version view = version committed ∧
    whole.landing view committed =
      (program.execFrom committed (pending committed)).after announced

/-- Where a session stands, when the sessions of `order` have committed.  One that holds
`key` will leave what its decision makes of the present store. -/
inductive Stage (key : κ) (Seen : σ → σ → Prop) (version : σ → V) (programs : ι → Program σ κ ω ε α)
    (config : Config ι σ κ ω ε α) (order : List ι) (session : ι) : Prop where
  | waiting (state : config.sessions session = .running (programs session) id)
      (out : session ∉ order)
  | decided (view : σ)
      (state : config.sessions session = .running ((programs session).afterRead view) id)
      (seen : Seen view config.committed) (out : session ∉ order)
  | raced (error : ε) (state : config.sessions session = .running (.throw error) id)
      (out : session ∉ order)
  | holding (program : Program σ κ ω ε α) (pending : σ → σ)
      (state : config.sessions session = .running program pending) (body : program.Body)
      (holds : config.holder key = some session)
      (lands : Lands Seen version (programs session) config.committed program pending)
      (out : session ∉ order)
  | leaving (program : Program σ κ ω ε α)
      (state : config.sessions session = .running program id) (trailing : program.Trailing)
      (member : session ∈ order)
  | returned (value : α) (state : config.sessions session = .returned (.ok value))
      (member : session ∈ order)
  | failed (error : ε) (state : config.sessions session = .returned (.error error))
      (out : session ∉ order)
  | aborted (state : config.sessions session = .aborted)

/-- The sessions of `order` have committed, and the store is what they leave one after
another. -/
structure Serialized (key : κ) (Seen : σ → σ → Prop) (version : σ → V)
    (programs : ι → Program σ κ ω ε α) (store : σ) (config : Config ι σ κ ω ε α)
    (order : List ι) : Prop where
  distinct : order.Nodup
  overlapped : Overlapped Seen version programs order store config.committed
  latest : Seen config.committed config.committed
  committed : ∀ session, session ∈ order ↔ Event.committed session ∈ config.history
  stage : ∀ session, Stage key Seen version programs config order session

theorem Stage.kept {config next : Config ι σ κ ω ε α} {order : List ι} {session : ι}
    (stage : Stage key Seen version programs config order session)
    (same : next.committed = config.committed)
    (state : next.sessions session = config.sessions session)
    (holds : config.holder key = some session → next.holder key = some session) :
    Stage key Seen version programs next order session := by
  cases stage with
  | waiting at_ out => exact .waiting (state.trans at_) out
  | decided view at_ seen out => exact .decided view (state.trans at_) (same ▸ seen) out
  | raced error at_ out => exact .raced error (state.trans at_) out
  | holding program pending at_ body held lands out =>
      exact .holding program pending (state.trans at_) body (holds held) (same ▸ lands) out
  | leaving program at_ trailing member =>
      exact .leaving program (state.trans at_) trailing member
  | returned value at_ member => exact .returned value (state.trans at_) member
  | failed error at_ out => exact .failed error (state.trans at_) out
  | aborted at_ => exact .aborted (state.trans at_)

theorem Stage.overtaken {config next : Config ι σ κ ω ε α} {order : List ι} {session other : ι}
    (stage : Stage key Seen version programs config order session)
    (keeps : ∀ view, Seen view config.committed → Seen view next.committed)
    (state : next.sessions session = config.sessions session)
    (held : config.holder key = some other) (different : session ≠ other) :
    Stage key Seen version programs next (order ++ [other]) session := by
  have out_ : session ∉ order → session ∉ order ++ [other] := by
    intro out
    simp [out, different]
  have in_ : session ∈ order → session ∈ order ++ [other] := List.mem_append_left _
  cases stage with
  | waiting at_ out => exact .waiting (state.trans at_) (out_ out)
  | decided view at_ seen out => exact .decided view (state.trans at_) (keeps view seen) (out_ out)
  | raced error at_ out => exact .raced error (state.trans at_) (out_ out)
  | holding program pending at_ body holds lands out =>
      rw [held] at holds
      exact absurd (Option.some.inj holds).symm different
  | leaving program at_ trailing member =>
      exact .leaving program (state.trans at_) trailing (in_ member)
  | returned value at_ member => exact .returned value (state.trans at_) (in_ member)
  | failed error at_ out => exact .failed error (state.trans at_) (out_ out)
  | aborted at_ => exact .aborted (state.trans at_)

section Steps

variable [DecidableEq ι] [DecidableEq κ] {config : Config ι σ κ ω ε α} {order : List ι}
  {session : ι}

omit [DecidableEq ι] [DecidableEq κ] in
theorem Serialized.uncommitted (serialized : Serialized key Seen version programs store config order)
    {next : Config ι σ κ ω ε α} {event : Event ι σ ω ε α}
    (plain : ∀ other, event ≠ .committed other) (rows : next.committed = config.committed)
    (history : next.history = config.history ++ [event])
    (others : ∀ other, other ≠ session → next.sessions other = config.sessions other ∧
      (config.holder key = some other → next.holder key = some other))
    (stage : Stage key Seen version programs next order session) :
    Serialized key Seen version programs store next order where
  distinct := serialized.distinct
  overlapped := by
    rw [rows]
    exact serialized.overlapped
  latest := by
    rw [rows]
    exact serialized.latest
  committed := by
    intro other
    have new : Event.committed other ≠ event := fun same => plain other same.symm
    simp [history, serialized.committed, new]
  stage := by
    intro other
    by_cases same : other = session
    · rw [same]
      exact stage
    · exact (serialized.stage other).kept rows (others other same).1 (others other same).2

omit [DecidableEq κ] in
theorem Serialized.proceed (serialized : Serialized key Seen version programs store config order)
    (holder : κ → Option ι) (next : Session σ κ ω ε α) (event : Event ι σ ω ε α)
    (plain : ∀ other, event ≠ .committed other)
    (locks : ∀ other, other ≠ session → config.holder key = some other →
      holder key = some other)
    (stage : Stage key Seen version programs
      ({ config with holder := holder }.proceed session next event) order session) :
    Serialized key Seen version programs store
      ({ config with holder := holder }.proceed session next event) order :=
  serialized.uncommitted plain rfl rfl
    (fun other apart => ⟨proceed_other _ _ _ _ apart, locks other apart⟩) stage

omit [DecidableEq κ] in
theorem Serialized.conclude (serialized : Serialized key Seen version programs store config order)
    (next : Session σ κ ω ε α) (event : Event ι σ ω ε α)
    (plain : ∀ other, event ≠ .committed other)
    (stage : Stage key Seen version programs
      (config.conclude session config.committed next event) order session) :
    Serialized key Seen version programs store
      (config.conclude session config.committed next event) order :=
  serialized.uncommitted plain rfl rfl
    (fun _ apart => ⟨conclude_other _ _ _ _ _ apart,
      fun held => release_of_other config session held apart⟩) stage

omit [DecidableEq κ] in
theorem Serialized.commit
    (known : Outlasts Seen version programs)
    (serialized : Serialized key Seen version programs store config order)
    {rest : Program σ κ ω ε α} {pending : σ → σ} (trailing : rest.Trailing)
    (held : config.holder key = some session) (out : session ∉ order)
    (lands : Lands Seen version (programs session) config.committed (.commit rest) pending) :
    Serialized key Seen version programs store
      (config.conclude session (pending config.committed) (.running rest id)
        (.committed session)) (order ++ [session]) := by
  obtain ⟨view, announced, seen, same, lands⟩ := lands
  obtain ⟨value, messages, left⟩ :=
    trailing.execFrom (pending config.committed) (pending config.committed)
  rw [Program.execFrom_commit, left] at lands
  have returns : ((programs session).landing view config.committed).outcome = .ok value := by
    rw [lands]
    rfl
  have leaves : ((programs session).landing view config.committed).store =
      pending config.committed := by
    rw [lands]
    rfl
  have latest := known.latest session view config.committed value seen same returns
  have keeps := known.earlier session view config.committed value seen same returns
  rw [leaves] at latest keeps
  refine ⟨?_, ?_, latest, ?_, ?_⟩
  · exact List.nodup_append.mpr ⟨serialized.distinct, by simp, by
      rintro one member two only rfl
      exact out (List.mem_singleton.mp only ▸ member)⟩
  · have overlapped := serialized.overlapped.snoc seen same returns
    rw [leaves] at overlapped
    exact overlapped
  · intro other
    simp [serialized.committed]
  · intro other
    by_cases self : other = session
    · rw [self]
      exact .leaving rest (conclude_self ..) trailing (by simp)
    · exact (serialized.stage other).overtaken keeps (conclude_other _ _ _ _ _ self) held self

omit [DecidableEq κ] in
theorem Serialized.fail (serialized : Serialized key Seen version programs store config order)
    (error : ε) (out : session ∉ order) :
    Serialized key Seen version programs store (config.conclude session config.committed
      (.returned (.error error)) (.failed session error)) order :=
  serialized.conclude _ _ (by simp) (.failed error (conclude_self ..) out)

omit [DecidableEq κ] in
theorem Serialized.abort (serialized : Serialized key Seen version programs store config order) :
    Serialized key Seen version programs store
      (config.conclude session config.committed .aborted (.aborted session)) order :=
  serialized.conclude _ _ (by simp) (.aborted (conclude_self ..))

/-- A session that has read `view` and decided makes its guarded write or refuses. -/
theorem Serialized.decided_step
    (serialized : Serialized key Seen version programs store config order) {view : σ}
    (decides : Program.Decided key version view ((programs session).afterRead view))
    (seen : Seen view config.committed) (out : session ∉ order) {next : Config ι σ κ ω ε α}
    (move : config.Move session id ((programs session).afterRead view) next) :
    Serialized key Seen version programs store next order := by
  generalize chosen : (programs session).afterRead view = program at move decides
  cases decides with
  | refused error =>
      cases move with
      | throw => exact serialized.fail error out
      | abort => exact serialized.abort
  | guarded label rows applies change next error takes same raced body =>
      cases move with
      | wrote _ _ _ _ _ hit free =>
          have hit : applies config.committed = true := hit
          refine serialized.proceed _ _ _ (by simp) ?_ (.holding (next true) (change ∘ id)
            (proceed_self ..) body ?_ ⟨view, [], seen, (same _ hit).symm, ?_⟩ out)
          · exact fun other different held => config.acquire_of_free free held different
          · exact if_pos takes
          · simp [Program.landing, chosen, hit]
      | missed =>
          refine serialized.proceed config.holder _ _ (by simp) (fun _ _ held => held) ?_
          exact .raced error (by rw [proceed_self, raced]) out
      | abort => exact serialized.abort

theorem Serialized.holding_step
    (known : Outlasts Seen version programs)
    (serialized : Serialized key Seen version programs store config order)
    {program : Program σ κ ω ε α} {pending : σ → σ} (body : program.Body)
    (held : config.holder key = some session)
    (lands : Lands Seen version (programs session) config.committed program pending)
    (out : session ∉ order) {next : Config ι σ κ ω ε α}
    (move : config.Move session pending program next) :
    ∃ order, Serialized key Seen version programs store next order := by
  have still : ∀ other, other ≠ session → config.holder key = some other →
      config.holder key = some other := fun _ _ held => held
  obtain ⟨view, announced, seen, latest, same⟩ := lands
  cases move with
  | done value => exact body.elim
  | throw error => exact ⟨order, serialized.fail error out⟩
  | select rest =>
      exact ⟨order, serialized.proceed config.holder _ _ (by simp) still
        (.holding _ pending (proceed_self ..) (body _) held
          ⟨view, announced, seen, latest, same⟩ out)⟩
  | wrote label rows applies change rest hit free =>
      refine ⟨order, serialized.proceed _ _ _ (by simp) ?_
        (.holding (rest true) (change ∘ pending) (proceed_self ..) (body true) ?_
          ⟨view, announced, seen, latest, ?_⟩ out)⟩
      · exact fun other different locked => config.acquire_of_free free locked different
      · by_cases taken : key ∈ rows
        · exact if_pos taken
        · exact (if_neg taken).trans held
      · rw [Program.execFrom_write, if_pos hit] at same
        exact same
  | missed label rows applies change rest miss =>
      refine ⟨order, serialized.proceed config.holder _ _ (by simp) still
        (.holding (rest false) pending (proceed_self ..) (body false) held
          ⟨view, announced, seen, latest, ?_⟩ out)⟩
      rw [Program.execFrom_write, if_neg (by simp [miss])] at same
      exact same
  | emit label rest =>
      refine ⟨order, serialized.proceed config.holder _ _ (by simp) still
        (.holding rest pending (proceed_self ..) body held
          ⟨view, announced ++ [label], seen, latest, ?_⟩ out)⟩
      rw [Program.execFrom_emit, Execution.after_after] at same
      exact same
  | commit rest =>
      exact ⟨order ++ [session],
        serialized.commit known body held out ⟨view, announced, seen, latest, same⟩⟩
  | rollback rest => exact body.elim
  | abort => exact ⟨order, serialized.abort⟩

theorem Serialized.step (optimistic : ∀ session, (programs session).Optimistic key version)
    (known : Outlasts Seen version programs)
    (serialized : Serialized key Seen version programs store config order)
    {action : Action ι} {next : Config ι σ κ ω ε α} (step : config.step? action = some next) :
    ∃ order, Serialized key Seen version programs store next order := by
  obtain ⟨session, program, pending, running, move⟩ := move_of_step? step
  have still : ∀ other, other ≠ session → config.holder key = some other →
      config.holder key = some other := fun _ _ held => held
  cases serialized.stage session with
  | waiting state out =>
      rw [state] at running
      cases running
      obtain ⟨rest, text, decides⟩ := (optimistic session).exists_select
      rw [text] at move
      cases move with
      | select =>
          exact ⟨order, serialized.proceed config.holder _ _ (by simp) still
            (.decided config.committed (by rw [proceed_self, text]; rfl) serialized.latest out)⟩
      | abort => exact ⟨order, serialized.abort⟩
  | decided view state seen out =>
      rw [state] at running
      cases running
      obtain ⟨rest, text, decides⟩ := (optimistic session).exists_select
      have decided := decides view
      rw [show rest view = (programs session).afterRead view by rw [text]; rfl] at decided
      exact ⟨order, serialized.decided_step decided seen out move⟩
  | raced error state out =>
      rw [state] at running
      cases running
      cases move with
      | throw => exact ⟨order, serialized.fail error out⟩
      | abort => exact ⟨order, serialized.abort⟩
  | holding body_ open_ state body held lands out =>
      rw [state] at running
      cases running
      exact serialized.holding_step known body held lands out move
  | leaving program state trailing member =>
      rw [state] at running
      cases running
      cases move with
      | done value =>
          exact ⟨order, serialized.conclude _ _ (by simp)
            (.returned value (conclude_self ..) member)⟩
      | emit label rest =>
          exact ⟨order, serialized.proceed config.holder _ _ (by simp) still
            (.leaving rest (proceed_self ..) trailing member)⟩
      | abort => exact ⟨order, serialized.abort⟩
      | _ => exact trailing.elim
  | returned value state member =>
      rw [state] at running
      cases running
  | failed error state out =>
      rw [state] at running
      cases running
  | aborted state =>
      rw [state] at running
      cases running

/-- Every interleaving of optimistic sessions leaves what the sessions that have committed
leave one after another, each as it has decided, and a session that has returned is one of them
exactly if it returned a value. -/
theorem overlapped (optimistic : ∀ session, (programs session).Optimistic key version)
    (known : Outlasts Seen version programs) (first : Seen store store)
    {schedule : List (Action ι)} {final : Config ι σ κ ω ε α}
    (run : (start store programs).run? schedule = some final) :
    ∃ order : List ι, order.Nodup ∧
      Overlapped Seen version programs order store final.committed ∧
      (∀ session, session ∈ order ↔ Event.committed session ∈ final.history) ∧
      ∀ session outcome, final.sessions session = .returned outcome →
        (session ∈ order ↔ ∃ value, outcome = .ok value) := by
  have initial : ∃ order,
      Serialized key Seen version programs store (start store programs) order :=
    ⟨[], List.nodup_nil, rfl, first, by simp [start], fun _ => .waiting rfl (by simp)⟩
  have preserved : ∀ (config : Config ι σ κ ω ε α) action next,
      (∃ order, Serialized key Seen version programs store config order) →
        config.step? action = some next →
          ∃ order, Serialized key Seen version programs store next order := by
    rintro config action next ⟨order, serialized⟩ step
    exact serialized.step optimistic known step
  obtain ⟨order, serialized⟩ := run?_invariant preserved schedule run initial
  refine ⟨order, serialized.distinct, serialized.overlapped, serialized.committed, ?_⟩
  intro session outcome ended
  cases serialized.stage session with
  | returned value state member =>
      rw [state] at ended
      cases ended
      exact iff_of_true member ⟨value, rfl⟩
  | failed error state out =>
      rw [state] at ended
      cases ended
      exact iff_of_false out (by simp)
  | waiting state out => rw [state] at ended; cases ended
  | decided view state seen out => rw [state] at ended; cases ended
  | raced error state out => rw [state] at ended; cases ended
  | holding program pending state body held lands out => rw [state] at ended; cases ended
  | leaving program state trailing member => rw [state] at ended; cases ended
  | aborted state => rw [state] at ended; cases ended

end Steps

end Config

end ReadCommitted
