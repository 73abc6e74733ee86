import Mathlib.Logic.Basic
import MultiBrandInvoicing.Promises.Outcome

/-!
# Asynchronous work and the rows it writes

A piece of work is what it comes to and what it has written by then.  What one piece has
written stays written when a later one is rejected.
-/

set_option autoImplicit false

structure Logged (ω ε α : Type) where
  writes : List ω
  outcome : Promise ε α

namespace Logged

variable {ω ε φ α β : Type}

def bind (work : Logged ω ε α) (next : α → Logged ω ε β) : Logged ω ε β :=
  match work.outcome with
  | .pending => ⟨work.writes, .pending⟩
  | .rejected error => ⟨work.writes, .rejected error⟩
  | .fulfilled value => ⟨work.writes ++ (next value).writes, (next value).outcome⟩

instance : Monad (Logged ω ε) where
  pure value := ⟨[], .fulfilled value⟩
  bind := bind

def call (promise : Promise ε α) : Logged ω ε α := ⟨[], promise⟩

def reject (error : ε) : Logged ω ε α := ⟨[], .rejected error⟩

def write (row : ω) (promise : Promise ε Unit) : Logged ω ε Unit :=
  ⟨match promise with | .fulfilled _ => [row] | _ => [], promise⟩

def ofExcept : Except ε α → Logged ω ε α
  | .error error => reject error
  | .ok value => pure value

def attempt (work : Logged ω ε α) : Logged ω ε (Except ε α) :=
  ⟨work.writes, match work.outcome with
    | .pending => .pending
    | .rejected error => .fulfilled (.error error)
    | .fulfilled value => .fulfilled (.ok value)⟩

def mapError (wrap : ε → φ) (work : Logged ω ε α) : Logged ω φ α :=
  ⟨work.writes, match work.outcome with
    | .pending => .pending
    | .rejected error => .rejected (wrap error)
    | .fulfilled value => .fulfilled value⟩

/-! ## What is written -/

@[simp] theorem pure_writes (value : α) : (pure value : Logged ω ε α).writes = [] := rfl

@[simp] theorem call_writes (promise : Promise ε α) : (call promise : Logged ω ε α).writes = [] :=
  rfl

@[simp] theorem reject_writes (error : ε) : (reject error : Logged ω ε α).writes = [] := rfl

@[simp] theorem attempt_writes (work : Logged ω ε α) : work.attempt.writes = work.writes := rfl

@[simp] theorem mapError_writes (wrap : ε → φ) (work : Logged ω ε α) :
    (work.mapError wrap).writes = work.writes := rfl

@[simp] theorem mem_write {row other : ω} {promise : Promise ε Unit} :
    other ∈ (write row promise).writes ↔ promise = .fulfilled () ∧ other = row := by
  cases promise with
  | pending => simp [write]
  | rejected error => simp [write]
  | fulfilled value => simp [write]

@[simp] theorem mem_bind {work : Logged ω ε α} {next : α → Logged ω ε β} {row : ω} :
    row ∈ (work >>= next).writes ↔
      row ∈ work.writes ∨
        ∃ value, work.outcome = .fulfilled value ∧ row ∈ (next value).writes := by
  change row ∈ (work.bind next).writes ↔ _
  unfold bind
  cases work.outcome with
  | pending => simp
  | rejected error => simp
  | fulfilled value => simp

/-! ## What the work comes to -/

@[simp] theorem pure_outcome (value : α) : (pure value : Logged ω ε α).outcome = .fulfilled value :=
  rfl

@[simp] theorem call_outcome (promise : Promise ε α) :
    (call promise : Logged ω ε α).outcome = promise := rfl

@[simp] theorem reject_outcome (error : ε) :
    (reject error : Logged ω ε α).outcome = .rejected error := rfl

@[simp] theorem write_outcome (row : ω) (promise : Promise ε Unit) :
    (write row promise).outcome = promise := rfl

@[simp] theorem bind_outcome (work : Logged ω ε α) (next : α → Logged ω ε β) :
    (work >>= next).outcome = work.outcome >>= fun value => (next value).outcome := by
  change (work.bind next).outcome = _
  unfold bind
  cases work.outcome with
  | pending => rfl
  | rejected error => rfl
  | fulfilled value => rfl

theorem attempt_bind_outcome (work : Logged ω ε Unit) (next : Logged ω ε β) :
    (work.attempt >>= fun _ => next).outcome =
      work.outcome.guarded >>= fun _ => next.outcome := by
  rw [bind_outcome]
  cases outcome : work.outcome <;> simp [attempt, outcome, Promise.guarded]

/-! ## Every row that is written -/

def Only (P : ω → Prop) (work : Logged ω ε α) : Prop := ∀ row ∈ work.writes, P row

variable {P : ω → Prop}

theorem Only.bind {work : Logged ω ε α} {next : α → Logged ω ε β} (first : Only P work)
    (later : ∀ value, Only P (next value)) : Only P (work >>= next) := by
  intro row written
  rcases mem_bind.mp written with before | ⟨value, _, after⟩
  · exact first row before
  · exact later value row after

theorem only_call (promise : Promise ε α) : Only P (call promise) := nofun

theorem only_pure (value : α) : Only P (pure value : Logged ω ε α) := nofun

theorem only_reject (error : ε) : Only P (reject error : Logged ω ε α) := nofun

theorem only_write {row : ω} (kind : P row) (promise : Promise ε Unit) :
    Only P (write row promise) := by
  intro other written
  rw [(mem_write.mp written).2]
  exact kind

end Logged
