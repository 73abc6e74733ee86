import MultiBrandInvoicing.ReadCommitted.Interference

/-!
# What a failed session leaves

A session that commits in the middle may fail afterwards, by throwing or by being cut
off.  `midway` lists what it commits on its way; what it leaves when it fails is the
store it started from or one of these.
-/

set_option autoImplicit false

namespace ReadCommitted

namespace Program

variable {σ κ ω ε α β : Type}

def midway : Program σ κ ω ε α → σ → σ → List σ
  | .done _, _, _ => []
  | .throw _, _, _ => []
  | .select next, committed, view => (next view).midway committed view
  | .write _ _ applies change next, committed, view =>
      if applies view then (next true).midway committed (change view)
      else (next false).midway committed view
  | .emit _ next, committed, view => next.midway committed view
  | .commit next, _, view => view :: next.midway view view
  | .rollback next, committed, _ => next.midway committed committed

section Equations

variable (committed view : σ)

@[simp] theorem midway_done (value : α) :
    (.done value : Program σ κ ω ε α).midway committed view = [] := rfl

@[simp] theorem midway_throw (error : ε) :
    (.throw error : Program σ κ ω ε α).midway committed view = [] := rfl

@[simp] theorem midway_select (next : σ → Program σ κ ω ε α) :
    (.select next : Program σ κ ω ε α).midway committed view =
      (next view).midway committed view := rfl

@[simp] theorem midway_commit (next : Program σ κ ω ε α) :
    (.commit next : Program σ κ ω ε α).midway committed view =
      view :: next.midway view view := rfl

end Equations

theorem midway_bind (program : Program σ κ ω ε α) (next : α → Program σ κ ω ε β)
    (committed view : σ) :
    (program >>= next).midway committed view =
      program.midway committed view ++
        match program.execFrom committed view with
        | ⟨.ok value, left, seen, _⟩ => (next value).midway left seen
        | ⟨.error _, _, _, _⟩ => [] := by
  change (program.bind next).midway committed view = _
  induction program generalizing committed view with
  | done value => rfl
  | throw error => rfl
  | select rest ih => exact ih view committed view
  | write label rows applies change rest ih =>
      simp only [bind, midway, execFrom_write]
      by_cases hit : applies view = true
      · simp only [if_pos hit]
        exact ih true committed (change view)
      · simp only [if_neg hit]
        exact ih false committed view
  | emit label rest ih =>
      simp only [bind, midway, execFrom_emit, ih]
      rcases rest.execFrom committed view with ⟨outcome, left, seen, announced⟩
      cases outcome <;> rfl
  | commit rest ih =>
      simp only [bind, midway, execFrom_commit, List.cons_append, ih]
  | rollback rest ih => exact ih committed committed

theorem midway_of_uncommitted {program : Program σ κ ω ε α} (uncommitted : program.Uncommitted)
    (committed view : σ) : program.midway committed view = [] := by
  induction program generalizing view with
  | done value => rfl
  | throw error => rfl
  | select rest ih => exact ih view (uncommitted view) view
  | write label rows applies change rest ih =>
      simp only [midway]
      split
      · exact ih true (uncommitted true) _
      · exact ih false (uncommitted false) _
  | emit label rest ih => exact ih uncommitted view
  | commit rest ih => exact uncommitted.elim
  | rollback rest ih => exact uncommitted.elim

/-- Wherever the session returns, it has just committed, for the first time. -/
def Closing : Program σ κ ω ε α → Prop
  | .done _ => False
  | .throw _ => True
  | .select next => ∀ view, (next view).Closing
  | .write _ _ _ _ next => ∀ hit, (next hit).Closing
  | .emit _ next => next.Closing
  | .commit next => next.Trailing
  | .rollback _ => False

theorem Closing.bind {program : Program σ κ ω ε α} {next : α → Program σ κ ω ε β}
    (first : program.Uncommitted) (second : ∀ value, (next value).Closing) :
    (program >>= next).Closing :=
  first.along (fun _ => trivial) (fun _ rest => rest) (fun _ _ _ _ _ rest => rest)
    (fun _ _ rest => rest) second

theorem Trailing.midway {program : Program σ κ ω ε α} (trailing : program.Trailing)
    (committed view : σ) : program.midway committed view = [] := by
  induction program with
  | done value => rfl
  | emit label rest ih => exact ih trailing
  | _ => exact trailing.elim

theorem Closing.midway {program : Program σ κ ω ε α} (closing : program.Closing)
    {committed view left seen : σ} {value : α} {announced : List ω}
    (returned : program.execFrom committed view = ⟨.ok value, left, seen, announced⟩) :
    program.midway committed view = [left] := by
  induction program generalizing view announced with
  | done value => exact closing.elim
  | throw error => cases returned
  | select rest ih => exact ih view (closing view) returned
  | write label rows applies change rest ih =>
      rw [execFrom_write] at returned
      simp only [Program.midway]
      split at returned
      next hit =>
        rw [if_pos hit]
        exact ih true (closing true) returned
      next miss =>
        rw [if_neg miss]
        exact ih false (closing false) returned
  | emit label rest ih =>
      rw [execFrom_emit] at returned
      rcases run : rest.execFrom committed view with ⟨outcome, rows, own, messages⟩
      rw [run, Execution.after_mk] at returned
      cases returned
      exact ih closing run
  | commit rest ih =>
      obtain ⟨result, messages, done⟩ := Trailing.execFrom closing view view
      rw [execFrom_commit, done] at returned
      cases returned
      rw [midway_commit, Trailing.midway closing]
  | rollback rest ih => exact closing.elim

end Program

namespace Config

variable {ι σ κ ω ε α : Type}

/-- What the session has committed so far, or has still to commit, lies in `stores`. -/
def Leaves (stores : List σ) (session : ι) (config : Config ι σ κ ω ε α) : Prop :=
  match config.sessions session with
  | .running program pending =>
      config.committed ∈ stores ∧
        ∀ store ∈ program.midway config.committed (pending config.committed), store ∈ stores
  | .returned (.ok _) => True
  | .returned (.error _) => config.committed ∈ stores
  | .aborted => config.committed ∈ stores

def Ends (outcome : Except ε α) (store : σ) (session : ι) (config : Config ι σ κ ω ε α) : Prop :=
  match config.sessions session with
  | .running program pending =>
      (program.execFrom config.committed (pending config.committed)).outcome = outcome ∧
        (program.execFrom config.committed (pending config.committed)).store = store
  | .returned ended => ended = outcome ∧ config.committed = store
  | .aborted => True

variable [DecidableEq ι] [DecidableEq κ]

theorem Ends.step {outcome : Except ε α} {store : σ} {config next : Config ι σ κ ω ε α}
    {action : Action ι} (ends : Ends outcome store action.session config)
    (step : config.step? action = some next) : Ends outcome store action.session next := by
  obtain ⟨program, pending, running, move⟩ := move_of_action step
  rw [Ends, running] at ends
  cases move with
  | done value => simpa [Ends] using ends
  | throw error => simpa [Ends] using ends
  | select rest => simpa [Ends] using ends
  | wrote label rows applies change rest hit free => simpa [Ends, hit] using ends
  | missed label rows applies change rest miss => simpa [Ends, miss] using ends
  | emit label rest => simpa [Ends] using ends
  | commit rest => simpa [Ends] using ends
  | rollback rest => simpa [Ends] using ends
  | abort => simp [Ends]

theorem Leaves.step {stores : List σ} {config next : Config ι σ κ ω ε α} {action : Action ι}
    (leaves : Leaves stores action.session config) (step : config.step? action = some next) :
    Leaves stores action.session next := by
  obtain ⟨program, pending, running, move⟩ := move_of_action step
  rw [Leaves, running] at leaves
  obtain ⟨here, ahead⟩ := leaves
  cases move with
  | done value => simp [Leaves]
  | throw error => simpa [Leaves] using here
  | select rest => simpa [Leaves] using ⟨here, ahead⟩
  | wrote label rows applies change rest hit free =>
      simp only [Program.midway, hit, if_true] at ahead
      simpa [Leaves] using ⟨here, ahead⟩
  | missed label rows applies change rest miss =>
      simp only [Program.midway, miss, Bool.false_eq_true, if_false] at ahead
      simpa [Leaves] using ⟨here, ahead⟩
  | emit label rest => simpa [Leaves] using ⟨here, ahead⟩
  | commit rest =>
      simp only [Program.midway_commit, List.mem_cons, forall_eq_or_imp] at ahead
      simpa [Leaves] using ahead
  | rollback rest => simpa [Leaves] using ⟨here, ahead⟩
  | abort => simpa [Leaves] using here

/-- A property of configurations that the steps of one session keep is kept by the runs in
which only that session moves. -/
theorem run?_own {Inv : Config ι σ κ ω ε α → Prop} {session : ι}
    (preserved : ∀ config action next, action.session = session → Inv config →
      config.step? action = some next → Inv next)
    {schedule : List (Action ι)} (alone : ∀ action ∈ schedule, action.session = session)
    {config final : Config ι σ κ ω ε α} (run : config.run? schedule = some final)
    (holds : Inv config) : Inv final := by
  induction schedule generalizing config with
  | nil =>
      cases run
      exact holds
  | cons action rest ih =>
      obtain ⟨next, step, run⟩ := run?_cons run
      exact ih (fun later member => alone later (by simp [member])) run
        (preserved config action next (alone action (by simp)) holds step)

section Alone

variable {store : σ} {programs : ι → Program σ κ ω ε α} {session : ι}
  {schedule : List (Action ι)} (alone : ∀ action ∈ schedule, action.session = session)
  {final : Config ι σ κ ω ε α} (run : (start store programs).run? schedule = some final)

include alone run

/-- A session that runs with nothing beside it and has not returned a value has left what
was there, or one of the stores it commits on its way. -/
theorem committed_of_failed (failed : ∀ value, final.sessions session ≠ .returned (.ok value)) :
    final.committed = store ∨ final.committed ∈ (programs session).midway store store := by
  have initial : Leaves (store :: (programs session).midway store store) session
      (start store programs) := by
    simp only [Leaves, start, List.mem_cons, true_or, true_and, id_eq]
    exact fun left member => .inr member
  have last := run?_own (by
    rintro config action next rfl leaves step
    exact Leaves.step leaves step) alone run initial
  have member : final.committed ∈ store :: (programs session).midway store store := by
    rw [Leaves] at last
    split at last
    · exact last.1
    · rename_i value ended
      exact absurd ended (failed value)
    · exact last
    · exact last
  exact List.mem_cons.mp member

theorem committed_of_returned {outcome : Except ε α}
    (ended : final.sessions session = .returned outcome) :
    outcome = ((programs session).exec store).outcome ∧
      final.committed = ((programs session).exec store).store := by
  have last : Ends ((programs session).exec store).outcome ((programs session).exec store).store
      session final :=
    run?_own (by
      rintro config action next rfl ends step
      exact Ends.step ends step) alone run ⟨rfl, rfl⟩
  rw [Ends, ended] at last
  exact last

end Alone

end Config

end ReadCommitted
