import Mathlib.Data.List.Basic

/-!
# Transaction programs

A session of a relational database is a tree of statements: each `select` sees
the rows, each `write` is one conditional statement naming the rows it locks, and
`commit` and `rollback` end a transaction in the middle of the session.  The tree
ends in `done`, which commits what is still open, or in `throw`, which rolls it
back.  `emit` is a message to the outside world and is never undone.

This file gives the tree its monad and its meaning when nothing runs beside it;
`Interleaving` runs many of them against one another.
-/

set_option autoImplicit false

namespace ReadCommitted

/-- A session over a store `σ` with row names `κ`; `ω` labels its writes and its
messages, `ε` is what it may throw and `α` what it returns. -/
inductive Program (σ κ ω ε α : Type) : Type where
  | done (value : α)
  | throw (error : ε)
  | select (next : σ → Program σ κ ω ε α)
  | write (label : ω) (rows : List κ) (applies : σ → Bool) (change : σ → σ)
      (next : Bool → Program σ κ ω ε α)
  | emit (label : ω) (next : Program σ κ ω ε α)
  | commit (next : Program σ κ ω ε α)
  | rollback (next : Program σ κ ω ε α)

namespace Program

variable {σ κ ω ε α β : Type}

def bind : Program σ κ ω ε α → (α → Program σ κ ω ε β) → Program σ κ ω ε β
  | .done value, next => next value
  | .throw error, _ => .throw error
  | .select rest, next => .select fun view => (rest view).bind next
  | .write label rows applies change rest, next =>
      .write label rows applies change fun hit => (rest hit).bind next
  | .emit label rest, next => .emit label (rest.bind next)
  | .commit rest, next => .commit (rest.bind next)
  | .rollback rest, next => .rollback (rest.bind next)

instance : Monad (Program σ κ ω ε) where
  pure := .done
  bind := bind

/-- One SELECT over everything the session can see. -/
def read : Program σ κ ω ε σ := .select .done

/-- One conditional write; the answer tells whether its WHERE clause matched. -/
def writeRows (label : ω) (rows : List κ) (applies : σ → Bool) (change : σ → σ) :
    Program σ κ ω ε Bool :=
  .write label rows applies change .done

def announce (label : ω) : Program σ κ ω ε Unit := .emit label (.done ())

def commitNow : Program σ κ ω ε Unit := .commit (.done ())

def ofExcept {δ : Type} (wrap : δ → ε) : Except δ α → Program σ κ ω ε α
  | .ok value => .done value
  | .error error => .throw (wrap error)

/-- A call whose failure is caught: what it had not committed is rolled back and
the session goes on. -/
def attempt : Program σ κ ω ε α → Program σ κ ω ε (Except ε α)
  | .done value => .done (.ok value)
  | .throw error => .rollback (.done (.error error))
  | .select rest => .select fun view => (rest view).attempt
  | .write label rows applies change rest =>
      .write label rows applies change fun hit => (rest hit).attempt
  | .emit label rest => .emit label rest.attempt
  | .commit rest => .commit rest.attempt
  | .rollback rest => .rollback rest.attempt

@[simp] theorem pure_eq_done (value : α) :
    (pure value : Program σ κ ω ε α) = .done value := rfl

@[simp] theorem done_bind (value : α) (next : α → Program σ κ ω ε β) :
    (.done value : Program σ κ ω ε α) >>= next = next value := rfl

@[simp] theorem throw_bind (error : ε) (next : α → Program σ κ ω ε β) :
    (.throw error : Program σ κ ω ε α) >>= next = .throw error := rfl

@[simp] theorem read_bind (next : σ → Program σ κ ω ε β) :
    (read : Program σ κ ω ε σ) >>= next = .select next := rfl

@[simp] theorem writeRows_bind (label : ω) (rows : List κ) (applies : σ → Bool)
    (change : σ → σ) (next : Bool → Program σ κ ω ε β) :
    (writeRows label rows applies change : Program σ κ ω ε Bool) >>= next =
      .write label rows applies change next := rfl

@[simp] theorem announce_bind (label : ω) (next : Unit → Program σ κ ω ε β) :
    (announce label : Program σ κ ω ε Unit) >>= next = .emit label (next ()) := rfl

@[simp] theorem commitNow_bind (next : Unit → Program σ κ ω ε β) :
    (commitNow : Program σ κ ω ε Unit) >>= next = .commit (next ()) := rfl

theorem bind_bind {γ : Type} (program : Program σ κ ω ε α) (next : α → Program σ κ ω ε β)
    (last : β → Program σ κ ω ε γ) :
    (program >>= next) >>= last = program >>= fun value => next value >>= last := by
  change (program.bind next).bind last = program.bind fun value => (next value).bind last
  induction program with
  | done value => rfl
  | throw error => rfl
  | select rest ih => exact congrArg select (funext ih)
  | write label rows applies change rest ih =>
      exact congrArg (write label rows applies change) (funext ih)
  | emit label rest ih => exact congrArg (emit label) ih
  | commit rest ih => exact congrArg commit ih
  | rollback rest ih => exact congrArg rollback ih

theorem bind_done (program : Program σ κ ω ε α) : (program >>= .done) = program := by
  change program.bind .done = program
  induction program with
  | done value => rfl
  | throw error => rfl
  | select rest ih => exact congrArg select (funext ih)
  | write label rows applies change rest ih =>
      exact congrArg (write label rows applies change) (funext ih)
  | emit label rest ih => exact congrArg (emit label) ih
  | commit rest ih => exact congrArg commit ih
  | rollback rest ih => exact congrArg rollback ih

@[simp] theorem ofExcept_ok {δ : Type} (wrap : δ → ε) (value : α) :
    (ofExcept wrap (.ok value) : Program σ κ ω ε α) = .done value := rfl

@[simp] theorem ofExcept_error {δ : Type} (wrap : δ → ε) (error : δ) :
    (ofExcept wrap (.error error) : Program σ κ ω ε α) = .throw (wrap error) := rfl

end Program

/-! ## A session on its own -/

/-- How a session ends.  `committed` is what other sessions can read, `view` what
the session itself reads, its uncommitted writes included. -/
structure Execution (σ ω ε α : Type) where
  outcome : Except ε α
  committed : σ
  view : σ
  announced : List ω

namespace Execution

variable {σ ω ε α β : Type}

/-- The rows the session leaves behind: what was open when it returned is
committed, what was open when it threw is gone. -/
def store (execution : Execution σ ω ε α) : σ :=
  match execution.outcome with
  | .ok _ => execution.view
  | .error _ => execution.committed

def after (earlier : List ω) (execution : Execution σ ω ε α) : Execution σ ω ε α :=
  { execution with announced := earlier ++ execution.announced }

@[simp] theorem after_nil (execution : Execution σ ω ε α) :
    execution.after [] = execution := rfl

@[simp] theorem after_mk (earlier : List ω) (outcome : Except ε α) (committed view : σ)
    (announced : List ω) :
    (⟨outcome, committed, view, announced⟩ : Execution σ ω ε α).after earlier =
      ⟨outcome, committed, view, earlier ++ announced⟩ := rfl

@[simp] theorem after_store (earlier : List ω) (execution : Execution σ ω ε α) :
    (execution.after earlier).store = execution.store := rfl

@[simp] theorem after_outcome (earlier : List ω) (execution : Execution σ ω ε α) :
    (execution.after earlier).outcome = execution.outcome := rfl

@[simp] theorem after_announced (earlier : List ω) (execution : Execution σ ω ε α) :
    (execution.after earlier).announced = earlier ++ execution.announced := rfl

@[simp] theorem store_ok (value : α) (committed view : σ) (announced : List ω) :
    (⟨.ok value, committed, view, announced⟩ : Execution σ ω ε α).store = view := rfl

@[simp] theorem store_error (error : ε) (committed view : σ) (announced : List ω) :
    (⟨.error error, committed, view, announced⟩ : Execution σ ω ε α).store = committed := rfl

theorem after_after (first second : List ω) (execution : Execution σ ω ε α) :
    (execution.after second).after first = execution.after (first ++ second) := by
  simp [after]

def andThen (execution : Execution σ ω ε α)
    (next : α → σ → σ → Execution σ ω ε β) : Execution σ ω ε β :=
  match execution with
  | ⟨.ok value, committed, view, announced⟩ => (next value committed view).after announced
  | ⟨.error error, committed, view, announced⟩ => ⟨.error error, committed, view, announced⟩

@[simp] theorem andThen_ok (value : α) (committed view : σ) (announced : List ω)
    (next : α → σ → σ → Execution σ ω ε β) :
    (⟨.ok value, committed, view, announced⟩ : Execution σ ω ε α).andThen next =
      (next value committed view).after announced := rfl

@[simp] theorem andThen_error (error : ε) (committed view : σ) (announced : List ω)
    (next : α → σ → σ → Execution σ ω ε β) :
    (⟨.error error, committed, view, announced⟩ : Execution σ ω ε α).andThen next =
      ⟨.error error, committed, view, announced⟩ := rfl

end Execution

namespace Program

variable {σ κ ω ε α β : Type}

def execFrom : Program σ κ ω ε α → σ → σ → Execution σ ω ε α
  | .done value, committed, view => ⟨.ok value, committed, view, []⟩
  | .throw error, committed, _ => ⟨.error error, committed, committed, []⟩
  | .select next, committed, view => (next view).execFrom committed view
  | .write _ _ applies change next, committed, view =>
      if applies view then (next true).execFrom committed (change view)
      else (next false).execFrom committed view
  | .emit label next, committed, view => (next.execFrom committed view).after [label]
  | .commit next, _, view => next.execFrom view view
  | .rollback next, committed, _ => next.execFrom committed committed

def exec (program : Program σ κ ω ε α) (store : σ) : Execution σ ω ε α :=
  program.execFrom store store

section Equations

variable (committed view : σ)

@[simp] theorem execFrom_done (value : α) :
    (.done value : Program σ κ ω ε α).execFrom committed view =
      ⟨.ok value, committed, view, []⟩ := rfl

@[simp] theorem execFrom_throw (error : ε) :
    (.throw error : Program σ κ ω ε α).execFrom committed view =
      ⟨.error error, committed, committed, []⟩ := rfl

@[simp] theorem execFrom_select (next : σ → Program σ κ ω ε α) :
    (.select next : Program σ κ ω ε α).execFrom committed view =
      (next view).execFrom committed view := rfl

@[simp] theorem execFrom_write (label : ω) (rows : List κ) (applies : σ → Bool)
    (change : σ → σ) (next : Bool → Program σ κ ω ε α) :
    (.write label rows applies change next : Program σ κ ω ε α).execFrom committed view =
      if applies view then (next true).execFrom committed (change view)
      else (next false).execFrom committed view := rfl

@[simp] theorem execFrom_emit (label : ω) (next : Program σ κ ω ε α) :
    (.emit label next : Program σ κ ω ε α).execFrom committed view =
      (next.execFrom committed view).after [label] := rfl

@[simp] theorem execFrom_commit (next : Program σ κ ω ε α) :
    (.commit next : Program σ κ ω ε α).execFrom committed view =
      next.execFrom view view := rfl

@[simp] theorem execFrom_rollback (next : Program σ κ ω ε α) :
    (.rollback next : Program σ κ ω ε α).execFrom committed view =
      next.execFrom committed committed := rfl

@[simp] theorem execFrom_announce (label : ω) :
    (announce label : Program σ κ ω ε Unit).execFrom committed view =
      ⟨.ok (), committed, view, [label]⟩ := rfl

end Equations

theorem execFrom_bind (program : Program σ κ ω ε α) (next : α → Program σ κ ω ε β)
    (committed view : σ) :
    (program >>= next).execFrom committed view =
      (program.execFrom committed view).andThen fun value => (next value).execFrom := by
  change (program.bind next).execFrom committed view = _
  induction program generalizing committed view with
  | done value => rfl
  | throw error => rfl
  | select rest ih => exact ih view committed view
  | write label rows applies change rest ih =>
      simp only [bind, execFrom_write]
      by_cases hit : applies view = true
      · rw [if_pos hit, if_pos hit]
        exact ih true committed (change view)
      · rw [if_neg hit, if_neg hit]
        exact ih false committed view
  | emit label rest ih =>
      simp only [bind, execFrom_emit, ih]
      rcases rest.execFrom committed view with ⟨outcome, left, seen, announced⟩
      cases outcome with
      | ok value => exact Execution.after_after [label] announced _
      | error error => rfl
  | commit rest ih => exact ih view view
  | rollback rest ih => exact ih committed committed

theorem execFrom_bind_of_ok {program : Program σ κ ω ε α} {committed view : σ}
    {value : α} {left seen : σ} {announced : List ω}
    (first : program.execFrom committed view = ⟨.ok value, left, seen, announced⟩)
    (next : α → Program σ κ ω ε β) :
    (program >>= next).execFrom committed view =
      ((next value).execFrom left seen).after announced := by
  rw [execFrom_bind, first]
  rfl

/-! ## Sessions that fail before they commit, or not at all -/

def Trailing : Program σ κ ω ε α → Prop
  | .done _ => True
  | .emit _ next => next.Trailing
  | _ => False

theorem Trailing.execFrom {program : Program σ κ ω ε α} (trailing : program.Trailing)
    (committed view : σ) :
    ∃ value announced, program.execFrom committed view =
      ⟨.ok value, committed, view, announced⟩ := by
  induction program with
  | done value => exact ⟨value, [], rfl⟩
  | emit label next ih =>
      obtain ⟨value, announced, done⟩ := ih trailing
      exact ⟨value, label :: announced, by rw [execFrom_emit, done]; rfl⟩
  | _ => exact trailing.elim

def Uncommitted : Program σ κ ω ε α → Prop
  | .done _ => True
  | .throw _ => True
  | .select next => ∀ view, (next view).Uncommitted
  | .write _ _ _ _ next => ∀ hit, (next hit).Uncommitted
  | .emit _ next => next.Uncommitted
  | .commit _ => False
  | .rollback _ => False

/-- The session commits at most once, and then does nothing that can fail. -/
def Atomic : Program σ κ ω ε α → Prop
  | .done _ => True
  | .throw _ => True
  | .select next => ∀ view, (next view).Atomic
  | .write _ _ _ _ next => ∀ hit, (next hit).Atomic
  | .emit _ next => next.Atomic
  | .commit next => next.Trailing
  | .rollback _ => False

/-- What a failure has, and every statement but a commit and a rollback keeps, a program has that
goes on from an uncommitted one. -/
theorem Uncommitted.along {P : Program σ κ ω ε β → Prop} {program : Program σ κ ω ε α}
    {next : α → Program σ κ ω ε β} (first : program.Uncommitted)
    (throws : ∀ error, P (.throw error))
    (selects : ∀ rest, (∀ view, P (rest view)) → P (.select rest))
    (writes : ∀ label rows applies change rest, (∀ hit, P (rest hit)) →
      P (.write label rows applies change rest))
    (emits : ∀ label rest, P rest → P (.emit label rest)) (second : ∀ value, P (next value)) :
    P (program >>= next) := by
  change P (program.bind next)
  induction program with
  | done value => exact second value
  | throw error => exact throws error
  | select rest ih => exact selects _ fun view => ih view (first view)
  | write label rows applies change rest ih =>
      exact writes label rows applies change _ fun hit => ih hit (first hit)
  | emit label rest ih => exact emits label _ (ih first)
  | commit rest ih => exact first.elim
  | rollback rest ih => exact first.elim

theorem Uncommitted.bind {program : Program σ κ ω ε α} {next : α → Program σ κ ω ε β}
    (first : program.Uncommitted) (second : ∀ value, (next value).Uncommitted) :
    (program >>= next).Uncommitted :=
  first.along (fun _ => trivial) (fun _ rest => rest) (fun _ _ _ _ _ rest => rest)
    (fun _ _ rest => rest) second

theorem Atomic.bind {program : Program σ κ ω ε α} {next : α → Program σ κ ω ε β}
    (first : program.Uncommitted) (second : ∀ value, (next value).Atomic) :
    (program >>= next).Atomic :=
  first.along (fun _ => trivial) (fun _ rest => rest) (fun _ _ _ _ _ rest => rest)
    (fun _ _ rest => rest) second

theorem Atomic.read {next : σ → Program σ κ ω ε α} (rest : ∀ view, (next view).Atomic) :
    (Program.read >>= next).Atomic := rest

theorem Uncommitted.ofExcept {δ : Type} (wrap : δ → ε) (result : Except δ α) :
    (Program.ofExcept wrap result : Program σ κ ω ε α).Uncommitted := by
  cases result <;> trivial

/-- An atomic session that fails leaves the rows it started from. -/
theorem Atomic.store_of_error {program : Program σ κ ω ε α} (atomic : program.Atomic)
    {committed view : σ} {error : ε}
    (failed : (program.execFrom committed view).outcome = .error error) :
    (program.execFrom committed view).store = committed := by
  induction program generalizing view with
  | done value => cases failed
  | throw error => rfl
  | select rest ih => exact ih view (atomic view) failed
  | write label rows applies change rest ih =>
      rw [execFrom_write] at failed ⊢
      by_cases hit : applies view = true
      · rw [if_pos hit] at failed ⊢
        exact ih true (atomic true) failed
      · rw [if_neg hit] at failed ⊢
        exact ih false (atomic false) failed
  | emit label rest ih =>
      rw [execFrom_emit, Execution.after_outcome] at failed
      rw [execFrom_emit, Execution.after_store]
      exact ih atomic failed
  | commit rest ih =>
      obtain ⟨value, announced, done⟩ := Trailing.execFrom atomic view view
      rw [execFrom_commit, done] at failed
      cases failed
  | rollback rest ih => exact atomic.elim

end Program

end ReadCommitted
