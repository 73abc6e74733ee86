import MultiBrandInvoicing.ReadCommitted.Program

/-!
# One transaction on its own

A session without a commit in its middle is one transaction.  With nothing beside it, it takes
the rows to its answer and the rows it leaves, or it refuses and leaves them as they were.
-/

set_option autoImplicit false

namespace ReadCommitted

namespace Program

variable {σ κ ω ε α β : Type}

/-- What a transaction answers and leaves.  A session that commits on its way is not one. -/
def alone : Program σ κ ω ε α → σ → Except ε (α × σ)
  | .done value, view => .ok (value, view)
  | .throw error, _ => .error error
  | .select next, view => (next view).alone view
  | .write _ _ applies change next, view =>
      if applies view then (next true).alone (change view) else (next false).alone view
  | .emit _ next, view => next.alone view
  | .commit next, view => next.alone view
  | .rollback next, view => next.alone view

theorem alone_bind (program : Program σ κ ω ε α) (next : α → Program σ κ ω ε β) (view : σ) :
    (program >>= next).alone view =
      (program.alone view).bind fun passed => (next passed.1).alone passed.2 := by
  change (program.bind next).alone view = _
  induction program generalizing view with
  | done value => rfl
  | throw error => rfl
  | select rest ih => exact ih view view
  | write label rows applies change rest ih =>
      simp only [bind, alone]
      by_cases hit : applies view = true
      · rw [if_pos hit, if_pos hit]
        exact ih true (change view)
      · rw [if_neg hit, if_neg hit]
        exact ih false view
  | emit label rest ih => exact ih view
  | commit rest ih => exact ih view
  | rollback rest ih => exact ih view

theorem alone_bind_eq_ok {program : Program σ κ ω ε α} {next : α → Program σ κ ω ε β}
    {view : σ} {passed : β × σ} :
    (program >>= next).alone view = .ok passed ↔
      ∃ value middle, program.alone view = .ok (value, middle) ∧
        (next value).alone middle = .ok passed := by
  rw [alone_bind]
  cases ran : program.alone view with
  | error error => simp [Except.bind]
  | ok first =>
      obtain ⟨value, middle⟩ := first
      simp [Except.bind]

theorem Uncommitted.execFrom_eq {program : Program σ κ ω ε α} (uncommitted : program.Uncommitted)
    (committed view : σ) :
    (program.execFrom committed view).outcome = (program.alone view).map Prod.fst ∧
      (program.execFrom committed view).store =
        match program.alone view with
        | .ok passed => passed.2
        | .error _ => committed := by
  induction program generalizing view with
  | done value => exact ⟨rfl, rfl⟩
  | throw error => exact ⟨rfl, rfl⟩
  | select rest ih => exact ih view (uncommitted view) view
  | write label rows applies change rest ih =>
      simp only [execFrom_write, alone]
      by_cases hit : applies view = true
      · rw [if_pos hit, if_pos hit]
        exact ih true (uncommitted true) (change view)
      · rw [if_neg hit, if_neg hit]
        exact ih false (uncommitted false) view
  | emit label rest ih => exact ih uncommitted view
  | commit rest ih => exact uncommitted.elim
  | rollback rest ih => exact uncommitted.elim

theorem Uncommitted.store_of_ok {program : Program σ κ ω ε α}
    (uncommitted : program.Uncommitted) {store after : σ} {value : α}
    (passed : program.alone store = .ok (value, after)) :
    (program.exec store).store = after := by
  rw [exec, (uncommitted.execFrom_eq store store).2, passed]

theorem Uncommitted.store_of_error {program : Program σ κ ω ε α}
    (uncommitted : program.Uncommitted) {store : σ} {error : ε}
    (refused : program.alone store = .error error) : (program.exec store).store = store := by
  rw [exec, (uncommitted.execFrom_eq store store).2, refused]

theorem Uncommitted.outcome_eq_ok {program : Program σ κ ω ε α}
    (uncommitted : program.Uncommitted) {store : σ} {value : α} :
    (program.exec store).outcome = .ok value ↔
      program.alone store = .ok (value, (program.exec store).store) := by
  obtain ⟨outcome, left⟩ := uncommitted.execFrom_eq store store
  rw [exec, outcome, left]
  cases ran : program.alone store with
  | error error => simp [Except.map]
  | ok passed =>
      cases passed
      simp [Except.map]

theorem Uncommitted.store_of_outcome_error {program : Program σ κ ω ε α}
    (uncommitted : program.Uncommitted) {store : σ} {error : ε}
    (refused : (program.exec store).outcome = .error error) :
    (program.exec store).store = store := by
  cases ran : program.alone store with
  | error error => exact uncommitted.store_of_error ran
  | ok passed =>
      rw [exec, (uncommitted.execFrom_eq store store).1, ran] at refused
      cases refused

end Program

end ReadCommitted
