import Mathlib.Logic.Function.Basic
import MultiBrandInvoicing.ReadCommitted.Program

/-!
# READ COMMITTED interleavings

Any number of sessions run against one store, one statement at a time, in an order
the schedule decides.  A statement reads the last committed rows and the session's
own uncommitted writes.  A write whose WHERE clause matches takes the rows it names
and waits while another session holds one of them; locks go at the end of the
transaction.  A session may be cut off between any two statements, which rolls back
what it had not committed.

`history` lists what has happened, oldest first.  `Program.Writes` and `wrote_holds`
carry a fact about the text of the programs to every write of every interleaving;
`alone` and `serial` say that sessions which do not overlap behave as `exec`.
-/

set_option autoImplicit false

namespace ReadCommitted

inductive Event (ι σ ω ε α : Type) : Type where
  | read (session : ι)
  | wrote (session : ι) (label : ω) (before after : σ)
  | missed (session : ι) (label : ω)
  | announced (session : ι) (label : ω)
  | committed (session : ι)
  | rolledBack (session : ι)
  | returned (session : ι) (value : α)
  | failed (session : ι) (error : ε)
  | aborted (session : ι)

inductive Session (σ κ ω ε α : Type) : Type where
  | running (program : Program σ κ ω ε α) (pending : σ → σ)
  | returned (outcome : Except ε α)
  | aborted

def Session.hasReturned {σ κ ω ε α : Type} : Session σ κ ω ε α → Bool
  | .returned _ => true
  | _ => false

theorem Session.returned_of_hasReturned {σ κ ω ε α : Type} {session : Session σ κ ω ε α}
    (ended : session.hasReturned = true) : ∃ outcome, session = .returned outcome := by
  cases session with
  | returned outcome => exact ⟨outcome, rfl⟩
  | running program pending => cases ended
  | aborted => cases ended

structure Config (ι σ κ ω ε α : Type) where
  committed : σ
  sessions : ι → Session σ κ ω ε α
  holder : κ → Option ι
  history : List (Event ι σ ω ε α)

inductive Action (ι : Type) : Type where
  | advance (session : ι)
  | abort (session : ι)
  deriving DecidableEq, Repr

def Action.session {ι : Type} : Action ι → ι
  | .advance session => session
  | .abort session => session

namespace Config

variable {ι σ κ ω ε α : Type} [DecidableEq ι] [DecidableEq κ]

def start (store : σ) (programs : ι → Program σ κ ω ε α) : Config ι σ κ ω ε α :=
  ⟨store, fun session => .running (programs session) id, fun _ => none, []⟩

def free (config : Config ι σ κ ω ε α) (session : ι) (rows : List κ) : Bool :=
  rows.all fun row => config.holder row = none || config.holder row = some session

def acquire (config : Config ι σ κ ω ε α) (session : ι) (rows : List κ) : κ → Option ι :=
  fun row => if row ∈ rows then some session else config.holder row

def release (config : Config ι σ κ ω ε α) (session : ι) : κ → Option ι :=
  fun row => if config.holder row = some session then none else config.holder row

/-- The session goes on with its transaction; nothing becomes visible. -/
def proceed (config : Config ι σ κ ω ε α) (session : ι)
    (next : Session σ κ ω ε α) (event : Event ι σ ω ε α) : Config ι σ κ ω ε α :=
  { config with
    sessions := Function.update config.sessions session next
    history := config.history ++ [event] }

def conclude (config : Config ι σ κ ω ε α) (session : ι) (store : σ)
    (next : Session σ κ ω ε α) (event : Event ι σ ω ε α) : Config ι σ κ ω ε α :=
  ⟨store, Function.update config.sessions session next, config.release session,
    config.history ++ [event]⟩

def advance? (config : Config ι σ κ ω ε α) (session : ι) (pending : σ → σ) :
    Program σ κ ω ε α → Option (Config ι σ κ ω ε α)
  | .done value =>
      some (config.conclude session (pending config.committed) (.returned (.ok value))
        (.returned session value))
  | .throw error =>
      some (config.conclude session config.committed (.returned (.error error))
        (.failed session error))
  | .select next =>
      some (config.proceed session (.running (next (pending config.committed)) pending)
        (.read session))
  | .write label rows applies change next =>
      if applies (pending config.committed) then
        if config.free session rows then
          some ({ config with holder := config.acquire session rows }.proceed session
            (.running (next true) (change ∘ pending))
            (.wrote session label (pending config.committed) (change (pending config.committed))))
        else none
      else
        some (config.proceed session (.running (next false) pending) (.missed session label))
  | .emit label next =>
      some (config.proceed session (.running next pending) (.announced session label))
  | .commit next =>
      some (config.conclude session (pending config.committed) (.running next id)
        (.committed session))
  | .rollback next =>
      some (config.conclude session config.committed (.running next id)
        (.rolledBack session))

def step? (config : Config ι σ κ ω ε α) : Action ι → Option (Config ι σ κ ω ε α)
  | .advance session =>
      match config.sessions session with
      | .running program pending => config.advance? session pending program
      | _ => none
  | .abort session =>
      match config.sessions session with
      | .running _ _ =>
          some (config.conclude session config.committed .aborted (.aborted session))
      | _ => none

def run? (config : Config ι σ κ ω ε α) : List (Action ι) → Option (Config ι σ κ ω ε α)
  | [] => some config
  | action :: rest => do
      let next ← config.step? action
      next.run? rest

inductive Move (config : Config ι σ κ ω ε α) (session : ι) (pending : σ → σ) :
    Program σ κ ω ε α → Config ι σ κ ω ε α → Prop where
  | done (value : α) :
      Move config session pending (.done value)
        (config.conclude session (pending config.committed) (.returned (.ok value))
          (.returned session value))
  | throw (error : ε) :
      Move config session pending (.throw error)
        (config.conclude session config.committed (.returned (.error error))
          (.failed session error))
  | select (next : σ → Program σ κ ω ε α) :
      Move config session pending (.select next)
        (config.proceed session (.running (next (pending config.committed)) pending)
          (.read session))
  | wrote (label : ω) (rows : List κ) (applies : σ → Bool) (change : σ → σ)
      (next : Bool → Program σ κ ω ε α)
      (hit : applies (pending config.committed) = true)
      (free : config.free session rows = true) :
      Move config session pending (.write label rows applies change next)
        ({ config with holder := config.acquire session rows }.proceed session
          (.running (next true) (change ∘ pending))
          (.wrote session label (pending config.committed) (change (pending config.committed))))
  | missed (label : ω) (rows : List κ) (applies : σ → Bool) (change : σ → σ)
      (next : Bool → Program σ κ ω ε α)
      (miss : applies (pending config.committed) = false) :
      Move config session pending (.write label rows applies change next)
        (config.proceed session (.running (next false) pending) (.missed session label))
  | emit (label : ω) (next : Program σ κ ω ε α) :
      Move config session pending (.emit label next)
        (config.proceed session (.running next pending) (.announced session label))
  | commit (next : Program σ κ ω ε α) :
      Move config session pending (.commit next)
        (config.conclude session (pending config.committed) (.running next id)
          (.committed session))
  | rollback (next : Program σ κ ω ε α) :
      Move config session pending (.rollback next)
        (config.conclude session config.committed (.running next id)
          (.rolledBack session))
  | abort (program : Program σ κ ω ε α) :
      Move config session pending program
        (config.conclude session config.committed .aborted (.aborted session))

theorem move_of_action {config next : Config ι σ κ ω ε α} {action : Action ι}
    (step : config.step? action = some next) :
    ∃ program pending, config.sessions action.session = .running program pending ∧
      Move config action.session pending program next := by
  cases action with
  | advance session =>
      simp only [step?] at step
      split at step
      · rename_i program pending running
        refine ⟨program, pending, running, ?_⟩
        cases program with
        | done value => cases step; exact .done value
        | throw error => cases step; exact .throw error
        | select rest => cases step; exact .select rest
        | write label rows applies change rest =>
            simp only [advance?] at step
            split at step
            · rename_i hit
              split at step
              · rename_i free
                cases step
                exact .wrote label rows applies change rest hit free
              · cases step
            · rename_i miss
              cases step
              exact .missed label rows applies change rest (by simpa using miss)
        | emit label rest => cases step; exact .emit label rest
        | commit rest => cases step; exact .commit rest
        | rollback rest => cases step; exact .rollback rest
      · cases step
  | abort session =>
      simp only [step?] at step
      split at step
      · rename_i program pending running
        cases step
        exact ⟨program, pending, running, .abort program⟩
      · cases step

theorem move_of_step? {config next : Config ι σ κ ω ε α} {action : Action ι}
    (step : config.step? action = some next) :
    ∃ session program pending, config.sessions session = .running program pending ∧
      Move config session pending program next :=
  ⟨action.session, move_of_action step⟩

theorem run?_cons {config final : Config ι σ κ ω ε α} {action : Action ι}
    {rest : List (Action ι)} (run : config.run? (action :: rest) = some final) :
    ∃ next, config.step? action = some next ∧ next.run? rest = some final :=
  Option.bind_eq_some_iff.mp run

theorem run?_append (config : Config ι σ κ ω ε α) (first second : List (Action ι)) :
    config.run? (first ++ second) = (config.run? first).bind fun next => next.run? second := by
  induction first generalizing config with
  | nil => rfl
  | cons action rest ih =>
      simp only [List.cons_append, run?, Option.bind_eq_bind, Option.bind_assoc]
      exact congrArg _ (funext ih)

/-- What every step keeps holds at the end of every run. -/
theorem run?_invariant {Inv : Config ι σ κ ω ε α → Prop}
    (preserved : ∀ config action next, Inv config → config.step? action = some next → Inv next)
    (schedule : List (Action ι)) {config final : Config ι σ κ ω ε α}
    (run : config.run? schedule = some final) (holds : Inv config) : Inv final := by
  induction schedule generalizing config with
  | nil => cases run; exact holds
  | cons action rest ih =>
      obtain ⟨next, step, run⟩ := run?_cons run
      exact ih run (preserved config action next holds step)

section Frames

omit [DecidableEq κ]

variable (config : Config ι σ κ ω ε α) (session : ι) (store : σ)
  (next : Session σ κ ω ε α) (event : Event ι σ ω ε α)

@[simp] theorem proceed_committed :
    (config.proceed session next event).committed = config.committed := rfl

@[simp] theorem proceed_history :
    (config.proceed session next event).history = config.history ++ [event] := rfl

@[simp] theorem proceed_holder :
    (config.proceed session next event).holder = config.holder := rfl

@[simp] theorem proceed_self :
    (config.proceed session next event).sessions session = next :=
  Function.update_self ..

theorem proceed_other {other : ι} (different : other ≠ session) :
    (config.proceed session next event).sessions other = config.sessions other :=
  Function.update_of_ne different ..

@[simp] theorem conclude_committed :
    (config.conclude session store next event).committed = store := rfl

@[simp] theorem conclude_history :
    (config.conclude session store next event).history = config.history ++ [event] := rfl

@[simp] theorem conclude_holder :
    (config.conclude session store next event).holder = config.release session := rfl

@[simp] theorem conclude_self :
    (config.conclude session store next event).sessions session = next :=
  Function.update_self ..

theorem conclude_other {other : ι} (different : other ≠ session) :
    (config.conclude session store next event).sessions other = config.sessions other :=
  Function.update_of_ne different ..

end Frames

omit [DecidableEq κ] in
theorem release_of_other (config : Config ι σ κ ω ε α) (session : ι) {row : κ} {owner : ι}
    (held : config.holder row = some owner) (different : owner ≠ session) :
    config.release session row = some owner := by
  have kept : config.holder row ≠ some session := by
    rw [held]
    exact fun same => different (Option.some.inj same)
  simp [release, held, different]

theorem acquire_of_free (config : Config ι σ κ ω ε α) {session : ι} {rows : List κ}
    (free : config.free session rows = true) {row : κ} {owner : ι}
    (held : config.holder row = some owner) (different : owner ≠ session) :
    config.acquire session rows row = some owner := by
  have untouched : row ∉ rows := by
    intro member
    have := List.all_eq_true.mp free row member
    simp [held, different] at this
  simp [acquire, untouched, held]

end Config

/-! ## From the text of the programs to every write of a run -/

namespace Program

variable {σ κ ω ε α β : Type}

/-- Every write the program can come to, whatever its reads return, satisfies `P`. -/
def Writes (P : ω → (σ → Bool) → (σ → σ) → Prop) : Program σ κ ω ε α → Prop
  | .done _ => True
  | .throw _ => True
  | .select next => ∀ view, (next view).Writes P
  | .write label _ applies change next => P label applies change ∧ ∀ hit, (next hit).Writes P
  | .emit _ next => next.Writes P
  | .commit next => next.Writes P
  | .rollback next => next.Writes P

variable {P : ω → (σ → Bool) → (σ → σ) → Prop}

theorem Writes.mono {P' : ω → (σ → Bool) → (σ → σ) → Prop}
    (implied : ∀ label applies change, P label applies change → P' label applies change)
    {program : Program σ κ ω ε α} (writes : program.Writes P) : program.Writes P' := by
  induction program with
  | done value => trivial
  | throw error => trivial
  | select rest ih => exact fun view => ih view (writes view)
  | write label rows applies change rest ih =>
      exact ⟨implied label applies change writes.1, fun hit => ih hit (writes.2 hit)⟩
  | emit label rest ih => exact ih writes
  | commit rest ih => exact ih writes
  | rollback rest ih => exact ih writes

theorem Writes.bind {program : Program σ κ ω ε α} {next : α → Program σ κ ω ε β}
    (first : program.Writes P) (second : ∀ value, (next value).Writes P) :
    (program >>= next).Writes P := by
  change (program.bind next).Writes P
  induction program with
  | done value => exact second value
  | throw error => trivial
  | select rest ih => exact fun view => ih view (first view)
  | write label rows applies change rest ih =>
      exact ⟨first.1, fun hit => ih hit (first.2 hit)⟩
  | emit label rest ih => exact ih first
  | commit rest ih => exact ih first
  | rollback rest ih => exact ih first

theorem Writes.read {next : σ → Program σ κ ω ε α} (rest : ∀ view, (next view).Writes P) :
    (Program.read >>= next).Writes P := rest

theorem Writes.announce {label : ω} {next : Unit → Program σ κ ω ε α}
    (rest : (next ()).Writes P) : (Program.announce label >>= next).Writes P := rest

theorem Writes.commitNow {next : Unit → Program σ κ ω ε α} (rest : (next ()).Writes P) :
    (Program.commitNow >>= next).Writes P := rest

theorem Writes.writeRows {label : ω} {rows : List κ} {applies : σ → Bool} {change : σ → σ}
    {next : Bool → Program σ κ ω ε α} (here : P label applies change)
    (rest : ∀ hit, (next hit).Writes P) :
    (Program.writeRows label rows applies change >>= next).Writes P := ⟨here, rest⟩

theorem Writes.ofExcept {δ : Type} {wrap : δ → ε} {result : Except δ β}
    {next : β → Program σ κ ω ε α} (rest : ∀ value, result = .ok value → (next value).Writes P) :
    (Program.ofExcept wrap result >>= next).Writes P := by
  cases result with
  | error error => trivial
  | ok value => exact rest value rfl

theorem Writes.attempt {program : Program σ κ ω ε α} (writes : program.Writes P) :
    program.attempt.Writes P := by
  induction program with
  | done value => trivial
  | throw error => trivial
  | select rest ih => exact fun view => ih view (writes view)
  | write label rows applies change rest ih =>
      exact ⟨writes.1, fun hit => ih hit (writes.2 hit)⟩
  | emit label rest ih => exact ih writes
  | commit rest ih => exact ih writes
  | rollback rest ih => exact ih writes

theorem Writes.keeps {Inv : σ → Prop} {program : Program σ κ ω ε α}
    (writes : program.Writes fun _ applies change =>
      ∀ store, applies store = true → Inv store → Inv (change store))
    {committed view : σ} (below : Inv committed) (seen : Inv view) :
    Inv (program.execFrom committed view).store := by
  induction program generalizing committed view with
  | done value => exact seen
  | throw error => exact below
  | select rest ih => exact ih view (writes view) below seen
  | write label rows applies change rest ih =>
      rw [execFrom_write]
      split
      next hit => exact ih true (writes.2 true) below (writes.1 view hit seen)
      next => exact ih false (writes.2 false) below seen
  | emit label rest ih =>
      rw [execFrom_emit, Execution.after_store]
      exact ih writes below seen
  | commit rest ih => exact ih writes seen seen
  | rollback rest ih => exact ih writes below below

end Program

namespace Config

variable {ι σ κ ω ε α : Type} [DecidableEq ι] [DecidableEq κ]
variable {P : ω → (σ → Bool) → (σ → σ) → Prop} {Q : ω → σ → σ → Prop}

structure WritesHold (P : ω → (σ → Bool) → (σ → σ) → Prop) (Q : ω → σ → σ → Prop)
    (config : Config ι σ κ ω ε α) : Prop where
  ahead : ∀ session program pending,
    config.sessions session = .running program pending → program.Writes P
  made : ∀ session label before after,
    Event.wrote session label before after ∈ config.history → Q label before after

omit [DecidableEq κ] in
theorem WritesHold.proceed {config : Config ι σ κ ω ε α} (holds : WritesHold P Q config)
    (holder : κ → Option ι) (session : ι) (program : Program σ κ ω ε α) (pending : σ → σ)
    (event : Event ι σ ω ε α) (ahead : program.Writes P)
    (made : ∀ by_ label before after, event = .wrote by_ label before after → Q label before after) :
    WritesHold P Q ({ config with holder := holder }.proceed session
      (.running program pending) event) where
  ahead := by
    intro other text open_ running
    by_cases same : other = session
    · subst same
      rw [proceed_self] at running
      cases running
      exact ahead
    · rw [proceed_other _ _ _ _ same] at running
      exact holds.ahead other text open_ running
  made := by
    intro by_ label before after member
    rcases List.mem_append.mp member with earlier | last
    · exact holds.made by_ label before after earlier
    · exact made by_ label before after (List.mem_singleton.mp last).symm

omit [DecidableEq κ] in
theorem WritesHold.conclude {config : Config ι σ κ ω ε α} (holds : WritesHold P Q config)
    (session : ι) (store : σ) (next : Session σ κ ω ε α) (event : Event ι σ ω ε α)
    (ahead : ∀ program pending, next = .running program pending → program.Writes P)
    (quiet : ∀ by_ label before after, event ≠ .wrote by_ label before after) :
    WritesHold P Q (config.conclude session store next event) where
  ahead := by
    intro other text open_ running
    by_cases same : other = session
    · subst same
      rw [conclude_self] at running
      exact ahead text open_ running
    · rw [conclude_other _ _ _ _ _ same] at running
      exact holds.ahead other text open_ running
  made := by
    intro by_ label before after member
    rcases List.mem_append.mp member with earlier | last
    · exact holds.made by_ label before after earlier
    · exact absurd (List.mem_singleton.mp last).symm (quiet by_ label before after)

theorem WritesHold.step (implied : ∀ label applies change before,
      P label applies change → applies before = true → Q label before (change before))
    {config next : Config ι σ κ ω ε α} {action : Action ι}
    (holds : WritesHold P Q config) (step : config.step? action = some next) :
    WritesHold P Q next := by
  obtain ⟨session, program, pending, running, move⟩ := move_of_step? step
  have ahead := holds.ahead session program pending running
  cases move with
  | done value => exact holds.conclude _ _ _ _ (by simp) (by simp)
  | throw error => exact holds.conclude _ _ _ _ (by simp) (by simp)
  | select rest => exact holds.proceed _ _ _ _ _ (ahead _) (by simp)
  | wrote label rows applies change rest hit free =>
      refine holds.proceed _ _ _ _ _ (ahead.2 true) ?_
      intro by_ other before after same
      cases same
      exact implied label applies change _ ahead.1 hit
  | missed label rows applies change rest miss =>
      exact holds.proceed _ _ _ _ _ (ahead.2 false) (by simp)
  | emit label rest => exact holds.proceed _ _ _ _ _ ahead (by simp)
  | commit rest =>
      refine holds.conclude _ _ _ _ ?_ (by simp)
      intro text open_ same
      cases same
      exact ahead
  | rollback rest =>
      refine holds.conclude _ _ _ _ ?_ (by simp)
      intro text open_ same
      cases same
      exact ahead
  | abort => exact holds.conclude _ _ _ _ (by simp) (by simp)

/-- In every interleaving of programs all of whose writes satisfy `P`, every write
that is made satisfies `Q` on the rows it found. -/
theorem wrote_holds (implied : ∀ label applies change before,
      P label applies change → applies before = true → Q label before (change before))
    {store : σ} {programs : ι → Program σ κ ω ε α} (text : ∀ session, (programs session).Writes P)
    {schedule : List (Action ι)} {final : Config ι σ κ ω ε α}
    (run : (start store programs).run? schedule = some final)
    {session : ι} {label : ω} {before after : σ}
    (made : Event.wrote session label before after ∈ final.history) : Q label before after := by
  have initial : WritesHold P Q (start store programs) := by
    refine ⟨?_, by simp [start]⟩
    intro session program pending running
    cases running
    exact text session
  have holds := run?_invariant (fun _ _ _ holds step => WritesHold.step implied holds step)
    schedule run initial
  exact holds.made session label before after made

/-! ## Sessions that do not overlap -/

omit [DecidableEq κ] in
theorem free_of_unheld (config : Config ι σ κ ω ε α) (session : ι) (rows : List κ)
    (mine : ∀ row, config.holder row = none ∨ config.holder row = some session) :
    config.free session rows = true := by
  simpa [free] using fun row _ => mine row

omit [DecidableEq κ] in
theorem release_of_mine (config : Config ι σ κ ω ε α) (session : ι)
    (mine : ∀ row, config.holder row = none ∨ config.holder row = some session) (row : κ) :
    config.release session row = none := by
  rcases mine row with unheld | held
  · simp [release, unheld]
  · simp [release, held]

def Finishes (config : Config ι σ κ ω ε α) (session : ι) (store : σ) (outcome : Except ε α) :
    Prop :=
  ∃ schedule final, config.run? schedule = some final ∧ final.committed = store ∧
    final.sessions session = .returned outcome ∧
    (∀ other, other ≠ session → final.sessions other = config.sessions other) ∧
    ∀ row, final.holder row = none

theorem Finishes.of_step {config next : Config ι σ κ ω ε α} {session : ι} {store : σ}
    {outcome : Except ε α} (step : config.step? (.advance session) = some next)
    (others : ∀ other, other ≠ session → next.sessions other = config.sessions other)
    (finishes : next.Finishes session store outcome) : config.Finishes session store outcome := by
  obtain ⟨schedule, final, run, left, ended, still, unheld⟩ := finishes
  refine ⟨.advance session :: schedule, final, ?_, left, ended, ?_, unheld⟩
  · simpa [run?, step] using run
  · intro other different
    rw [still other different, others other different]

/-- A session that nobody interrupts ends as `execFrom` says, with no lock left. -/
theorem alone (program : Program σ κ ω ε α) (pending : σ → σ) (session : ι)
    (config : Config ι σ κ ω ε α)
    (running : config.sessions session = .running program pending)
    (mine : ∀ row, config.holder row = none ∨ config.holder row = some session) :
    config.Finishes session
      (program.execFrom config.committed (pending config.committed)).store
      (program.execFrom config.committed (pending config.committed)).outcome := by
  induction program generalizing config pending with
  | done value =>
      refine .of_step (by simp only [step?, running, advance?]; rfl)
        (fun other different => conclude_other _ _ _ _ _ different) ?_
      exact ⟨[], _, rfl, rfl, conclude_self .., fun _ _ => rfl,
        release_of_mine config session mine⟩
  | throw error =>
      refine .of_step (by simp only [step?, running, advance?]; rfl)
        (fun other different => conclude_other _ _ _ _ _ different) ?_
      exact ⟨[], _, rfl, rfl, conclude_self .., fun _ _ => rfl,
        release_of_mine config session mine⟩
  | select rest ih =>
      refine .of_step (by simp only [step?, running, advance?]; rfl)
        (fun other different => proceed_other _ _ _ _ different) ?_
      exact ih (pending config.committed) pending _ (proceed_self ..) mine
  | write label rows applies change rest ih =>
      by_cases hit : applies (pending config.committed) = true
      · have free := free_of_unheld config session rows mine
        have locked : ∀ row, config.acquire session rows row = none ∨
            config.acquire session rows row = some session := by
          intro row
          by_cases member : row ∈ rows
          · exact .inr (by simp [acquire, member])
          · simpa [acquire, member] using mine row
        rw [Program.execFrom_write, if_pos hit]
        refine .of_step (by simp only [step?, running, advance?, hit, free, if_true]; rfl)
          (fun other different => proceed_other
            { config with holder := config.acquire session rows } _ _ _ different) ?_
        exact ih true (change ∘ pending) _ (proceed_self ..) locked
      · have miss : applies (pending config.committed) = false := by simpa using hit
        rw [Program.execFrom_write, if_neg hit]
        refine .of_step (by simp only [step?, running, advance?, miss]; rfl)
          (fun other different => proceed_other _ _ _ _ different) ?_
        exact ih false pending _ (proceed_self ..) mine
  | emit label rest ih =>
      refine .of_step (by simp only [step?, running, advance?]; rfl)
        (fun other different => proceed_other _ _ _ _ different) ?_
      exact ih pending _ (proceed_self ..) mine
  | commit rest ih =>
      refine .of_step (by simp only [step?, running, advance?]; rfl)
        (fun other different => conclude_other _ _ _ _ _ different) ?_
      exact ih id _ (conclude_self ..) fun row => .inl (release_of_mine config session mine row)
  | rollback rest ih =>
      refine .of_step (by simp only [step?, running, advance?]; rfl)
        (fun other different => conclude_other _ _ _ _ _ different) ?_
      exact ih id _ (conclude_self ..) fun row => .inl (release_of_mine config session mine row)

/-- Sessions run one after another do to the store what their `exec`s do in turn. -/
theorem serial (programs : ι → Program σ κ ω ε α) (order : List ι) (distinct : order.Nodup)
    (config : Config ι σ κ ω ε α)
    (waiting : ∀ session ∈ order, config.sessions session = .running (programs session) id)
    (unheld : ∀ row, config.holder row = none) :
    ∃ schedule final, config.run? schedule = some final ∧
      final.committed =
        order.foldl (fun store session => ((programs session).exec store).store)
          config.committed := by
  induction order generalizing config with
  | nil => exact ⟨[], config, rfl, rfl⟩
  | cons session rest ih =>
      have separate := List.nodup_cons.mp distinct
      obtain ⟨first, middle, firstRun, store, _, others, left⟩ :=
        alone (programs session) id session config (waiting session (by simp))
          (fun row => .inl (unheld row))
      have stillWaiting : ∀ other ∈ rest,
          middle.sessions other = .running (programs other) id := by
        intro other member
        have different : other ≠ session := fun same => separate.1 (same ▸ member)
        rw [others other different]
        exact waiting other (by simp [member])
      obtain ⟨second, final, secondRun, done⟩ := ih separate.2 middle stillWaiting left
      refine ⟨first ++ second, final, ?_, ?_⟩
      · rw [run?_append, firstRun]
        exact secondRun
      · rw [done, store]
        rfl

end Config

end ReadCommitted
