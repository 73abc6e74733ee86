import MultiBrandInvoicing.ReadCommitted.Interference

/-!
# Transactions that restore an invariant

A transaction may leave an invariant between two of its statements as long as it is back
when it commits.  `Program.Outline` annotates the text of a session with what holds of its
view; `restored` says that in every interleaving of such sessions the invariant holds of
whatever is committed.
-/

set_option autoImplicit false

namespace ReadCommitted

variable {ι σ κ ω ε α β : Type} {I : σ → Prop}

/-- Started on a view with the assertion, the program has `I` wherever it commits and ends
with `Q`.  What holds of the view after a write is chosen by the reader of the text. -/
def Program.Outline (I : σ → Prop) (Q : α → σ → Prop) : (σ → Prop) → Program σ κ ω ε α → Prop
  | P, .done value => ∀ view, P view → Q value view
  | _, .throw _ => True
  | P, .select next => ∀ view, P view → (next view).Outline I Q P
  | P, .write _ _ _ change next =>
      (∃ after : σ → Prop, (∀ view, P view → after (change view)) ∧
        (next true).Outline I Q after) ∧ (next false).Outline I Q P
  | P, .emit _ next => next.Outline I Q P
  | P, .commit next => (∀ view, P view → I view) ∧ next.Outline I Q I
  | _, .rollback next => next.Outline I Q I

namespace Program

variable {P P' : σ → Prop} {Q : α → σ → Prop} {R : β → σ → Prop}

theorem Outline.mono {program : Program σ κ ω ε α} (outline : program.Outline I Q P)
    (stronger : ∀ view, P' view → P view) : program.Outline I Q P' := by
  induction program generalizing P P' with
  | done value => exact fun view holds => outline view (stronger view holds)
  | throw error => trivial
  | select rest ih =>
      exact fun view holds => ih view (outline view (stronger view holds)) stronger
  | write label rows applies change rest ih =>
      obtain ⟨⟨after, leads, hit⟩, miss⟩ := outline
      exact ⟨⟨after, fun view holds => leads view (stronger view holds), hit⟩,
        ih false miss stronger⟩
  | emit label rest ih => exact ih outline stronger
  | commit rest ih => exact ⟨fun view holds => outline.1 view (stronger view holds), outline.2⟩
  | rollback rest ih => exact outline

theorem Outline.bind {program : Program σ κ ω ε α} {next : α → Program σ κ ω ε β}
    (first : program.Outline I Q P) (second : ∀ value, (next value).Outline I R (Q value)) :
    (program >>= next).Outline I R P := by
  change (program.bind next).Outline I R P
  induction program generalizing P with
  | done value => exact (second value).mono first
  | throw error => trivial
  | select rest ih => exact fun view holds => ih view (first view holds)
  | write label rows applies change rest ih =>
      obtain ⟨⟨after, leads, hit⟩, miss⟩ := first
      exact ⟨⟨after, leads, ih true hit⟩, ih false miss⟩
  | emit label rest ih => exact ih first
  | commit rest ih => exact ⟨first.1, ih first.2⟩
  | rollback rest ih => exact ih first

theorem Outline.read {next : σ → Program σ κ ω ε α}
    (rest : ∀ view, P view → (next view).Outline I Q P) :
    (Program.read >>= next).Outline I Q P := rest

theorem Outline.ofExcept {δ : Type} {wrap : δ → ε} {result : Except δ β}
    {next : β → Program σ κ ω ε α} (rest : ∀ value, result = .ok value → (next value).Outline I Q P) :
    (Program.ofExcept wrap result >>= next).Outline I Q P := by
  cases result with
  | error error => trivial
  | ok value => exact rest value rfl

theorem Outline.of_writes {program : Program σ κ ω ε α}
    (writes : program.Writes fun _ _ change => Config.Keeps I change) :
    program.Outline I (fun _ => I) I := by
  induction program with
  | done value => exact fun _ holds => holds
  | throw error => trivial
  | select rest ih => exact fun view _ => ih view (writes view)
  | write label rows applies change rest ih =>
      exact ⟨⟨I, writes.1, ih true (writes.2 true)⟩, ih false (writes.2 false)⟩
  | emit label rest ih => exact ih writes
  | commit rest ih => exact ⟨fun _ holds => holds, ih writes⟩
  | rollback rest ih => exact ih writes

end Program

namespace Config

structure Restoring (I : σ → Prop) (config : Config ι σ κ ω ε α) : Prop where
  committed : I config.committed
  along : ∀ session program pending, config.sessions session = .running program pending →
    ∃ P : σ → Prop, (∀ store, I store → P (pending store)) ∧
      program.Outline I (fun _ => I) P

variable [DecidableEq ι]

theorem Restoring.proceed {config : Config ι σ κ ω ε α} (restoring : Restoring I config)
    (holder : κ → Option ι) (session : ι) (program : Program σ κ ω ε α) (pending : σ → σ)
    (event : Event ι σ ω ε α) {P : σ → Prop} (open_ : ∀ store, I store → P (pending store))
    (outline : program.Outline I (fun _ => I) P) :
    Restoring I ({ config with holder := holder }.proceed session (.running program pending)
      event) where
  committed := restoring.committed
  along := by
    intro other text change running
    by_cases same : other = session
    · subst same
      rw [proceed_self] at running
      cases running
      exact ⟨P, open_, outline⟩
    · rw [proceed_other _ _ _ _ same] at running
      exact restoring.along other text change running

theorem Restoring.conclude {config : Config ι σ κ ω ε α} (restoring : Restoring I config)
    (session : ι) (store : σ) (next : Session σ κ ω ε α) (event : Event ι σ ω ε α)
    (left : I store)
    (outline : ∀ program pending, next = .running program pending →
      pending = id ∧ program.Outline I (fun _ => I) I) :
    Restoring I (config.conclude session store next event) where
  committed := left
  along := by
    intro other text change running
    by_cases same : other = session
    · subst same
      rw [conclude_self] at running
      obtain ⟨rfl, along⟩ := outline text change running
      exact ⟨I, fun _ holds => holds, along⟩
    · rw [conclude_other _ _ _ _ _ same] at running
      exact restoring.along other text change running

variable [DecidableEq κ]

theorem Restoring.step {config next : Config ι σ κ ω ε α} {action : Action ι}
    (restoring : Restoring I config) (step : config.step? action = some next) :
    Restoring I next := by
  obtain ⟨session, program, pending, running, move⟩ := move_of_step? step
  obtain ⟨P, open_, outline⟩ := restoring.along session program pending running
  have found : P (pending config.committed) := open_ _ restoring.committed
  have fresh : ∀ rest : Program σ κ ω ε α, rest.Outline I (fun _ => I) I →
      ∀ program pending, Session.running rest id = .running program pending →
        pending = id ∧ program.Outline I (fun _ => I) I := by
    intro rest along text change same
    cases same
    exact ⟨rfl, along⟩
  cases move with
  | done value => exact restoring.conclude _ _ _ _ (outline _ found) (by simp)
  | throw error => exact restoring.conclude _ _ _ _ restoring.committed (by simp)
  | select rest => exact restoring.proceed _ _ _ _ _ open_ (outline _ found)
  | wrote label rows applies change rest hit free =>
      obtain ⟨⟨after, leads, along⟩, _⟩ := outline
      exact restoring.proceed _ _ _ _ _ (fun store holds => leads _ (open_ store holds)) along
  | missed label rows applies change rest miss =>
      exact restoring.proceed _ _ _ _ _ open_ outline.2
  | emit label rest => exact restoring.proceed _ _ _ _ _ open_ outline
  | commit rest => exact restoring.conclude _ _ _ _ (outline.1 _ found) (fresh rest outline.2)
  | rollback rest => exact restoring.conclude _ _ _ _ restoring.committed (fresh rest outline)
  | abort => exact restoring.conclude _ _ _ _ restoring.committed (by simp)

/-- In every interleaving of sessions that restore the invariant it holds of the rows that
are committed. -/
theorem restored {store : σ} {programs : ι → Program σ κ ω ε α} (initial : I store)
    (outlines : ∀ session, (programs session).Outline I (fun _ => I) I)
    {schedule : List (Action ι)} {final : Config ι σ κ ω ε α}
    (run : (start store programs).run? schedule = some final) : I final.committed := by
  have begins : Restoring I (start store programs) := by
    refine ⟨initial, ?_⟩
    intro session program pending running
    cases running
    exact ⟨I, fun _ holds => holds, outlines session⟩
  exact (run?_invariant (fun _ _ _ restoring step => Restoring.step restoring step) schedule run
    begins).committed

end Config

end ReadCommitted
