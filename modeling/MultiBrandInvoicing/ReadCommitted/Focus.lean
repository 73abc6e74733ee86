import MultiBrandInvoicing.ReadCommitted.Journal

/-!
# Sessions on a part of the rows

A session that is written for some tables is also a session on any rows that have these tables
among them.
-/

set_option autoImplicit false

namespace ReadCommitted

/-- A part of larger rows, and what its row names and labels are called there. -/
structure Focus (τ κ' ω' σ κ ω : Type) where
  get : τ → σ
  put : σ → τ → τ
  row : κ → κ'
  label : ω → ω'

variable {τ σ κ κ' ω ω' ε α : Type}

namespace Program

def focus (part : Focus τ κ' ω' σ κ ω) : Program σ κ ω ε α → Program τ κ' ω' ε α
  | .done value => .done value
  | .throw error => .throw error
  | .select next => .select fun whole => (next (part.get whole)).focus part
  | .write label rows applies change next =>
      .write (part.label label) (rows.map part.row) (fun whole => applies (part.get whole))
        (fun whole => part.put (change (part.get whole)) whole) fun hit => (next hit).focus part
  | .emit label next => .emit (part.label label) (next.focus part)
  | .commit next => .commit (next.focus part)
  | .rollback next => .rollback (next.focus part)

theorem Performs.focus {part : Focus τ κ' ω' σ κ ω} {rowsOf : ω → List κ} {act : ω → σ → σ}
    {P : ω → Prop} {rowsOf' : ω' → List κ'} {act' : ω' → τ → τ} {P' : ω' → Prop}
    {program : Program σ κ ω ε α} (performs : program.Performs rowsOf act P)
    (rows : ∀ label, rowsOf' (part.label label) = (rowsOf label).map part.row)
    (acts : ∀ label whole,
      act' (part.label label) whole = part.put (act label (part.get whole)) whole)
    (implied : ∀ label, P label → P' (part.label label)) :
    (program.focus part).Performs rowsOf' act' P' := by
  induction program with
  | done value => trivial
  | throw error => trivial
  | select rest ih => exact fun whole => ih (part.get whole) (performs _)
  | write label taken applies change rest ih =>
      obtain ⟨rfl, rfl, here, ahead⟩ := performs
      exact ⟨(rows label).symm, funext fun whole => (acts label whole).symm, implied label here,
        fun hit => ih hit (ahead hit)⟩
  | emit label rest ih => exact ih performs
  | commit rest ih => exact ih performs
  | rollback rest ih => exact ih performs

end Program

end ReadCommitted
