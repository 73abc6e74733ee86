import MultiBrandInvoicing.ReadCommitted.Interleaving

/-!
# One session among others

Between two statements of a session the others may change the store.  What is known of
the stores it finds is an invariant that every write of every session keeps.
`Program.Achieves` says what the text of the session comes to on such stores, and
`achieved` that it comes to this in every interleaving.
-/

set_option autoImplicit false

namespace ReadCommitted

variable {ι σ κ ω ε α : Type} {I : σ → Prop} {W : σ → σ → Prop}

/-- Whatever stores with `I` the session finds, it returns a value, and by then it has made
a write that satisfies `W`; `made` says whether it already has. -/
def Program.Achieves (I : σ → Prop) (W : σ → σ → Prop) : Prop → Program σ κ ω ε α → Prop
  | made, .done _ => made
  | _, .throw _ => False
  | made, .select next => ∀ view, I view → (next view).Achieves I W made
  | made, .write _ _ applies change next => ∀ view, I view →
      (applies view = true → (next true).Achieves I W (made ∨ W view (change view))) ∧
        (applies view = false → (next false).Achieves I W made)
  | made, .emit _ next => next.Achieves I W made
  | made, .commit next => next.Achieves I W made
  | _, .rollback _ => False

theorem Program.Achieves.bind {β : Type} {program : Program σ κ ω ε α}
    {next : α → Program σ κ ω ε β} {made : Prop} (first : program.Achieves I W made)
    (second : ∀ value made, made → (next value).Achieves I W made) :
    (program >>= next).Achieves I W made := by
  change (program.bind next).Achieves I W made
  induction program generalizing made with
  | done value => exact second value made first
  | throw error => exact first.elim
  | select rest ih => exact fun view found => ih view (first view found)
  | write label rows applies change rest ih =>
      intro view found
      exact ⟨fun hit => ih true ((first view found).1 hit),
        fun miss => ih false ((first view found).2 miss)⟩
  | emit label rest ih => exact ih first
  | commit rest ih => exact ih first
  | rollback rest ih => exact first.elim

namespace Config

section Statements

/-- What every open transaction has done to the store, and every write that is to come,
satisfies `R`. -/
def Tame (R : (σ → σ) → Prop) (config : Config ι σ κ ω ε α) : Prop :=
  ∀ session program pending, config.sessions session = .running program pending →
    R pending ∧ program.Writes fun _ _ change => R change

def Keeps (I : σ → Prop) (change : σ → σ) : Prop := ∀ store, I store → I (change store)

/-- The committed rows satisfy `I`, and nothing that is under way leads out of it. -/
structure Holds (I : σ → Prop) (config : Config ι σ κ ω ε α) : Prop where
  committed : I config.committed
  tame : Tame (Keeps I) config

def Made (W : σ → σ → Prop) (session : ι) (config : Config ι σ κ ω ε α) : Prop :=
  ∃ label before after, Event.wrote session label before after ∈ config.history ∧
    W before after

inductive Achieving (I : σ → Prop) (W : σ → σ → Prop) (session : ι)
    (config : Config ι σ κ ω ε α) : Prop where
  | running (program : Program σ κ ω ε α) (pending : σ → σ) (made : Prop)
      (state : config.sessions session = .running program pending)
      (ahead : program.Achieves I W made) (behind : made → Made W session config)
  | returned (value : α) (state : config.sessions session = .returned (.ok value))
      (made : Made W session config)
  | aborted (state : config.sessions session = .aborted)

structure Writeless (session : ι) (config : Config ι σ κ ω ε α) : Prop where
  ahead : ∀ program pending, config.sessions session = .running program pending →
    program.Writes fun _ _ _ => False
  behind : ∀ label before after,
    Event.wrote session label before after ∉ config.history

end Statements

variable [DecidableEq ι]

section Framing

variable {config : Config ι σ κ ω ε α}

variable {R : (σ → σ) → Prop}

omit [DecidableEq ι] in
theorem Tame.mono {R' : (σ → σ) → Prop} (implied : ∀ change, R change → R' change)
    (tame : Tame R config) : Tame R' config := by
  intro session program pending running
  obtain ⟨open_, ahead⟩ := tame session program pending running
  exact ⟨implied pending open_, ahead.mono fun _ _ change here => implied change here⟩

theorem Tame.proceed (tame : Tame R config) (holder : κ → Option ι) (session : ι)
    (program : Program σ κ ω ε α) (pending : σ → σ) (event : Event ι σ ω ε α)
    (open_ : R pending) (ahead : program.Writes fun _ _ change => R change) :
    Tame R ({ config with holder := holder }.proceed session (.running program pending)
      event) := by
  intro other text change running
  by_cases same : other = session
  · subst same
    rw [proceed_self] at running
    cases running
    exact ⟨open_, ahead⟩
  · rw [proceed_other _ _ _ _ same] at running
    exact tame other text change running

theorem Tame.conclude (tame : Tame R config) (session : ι) (store : σ)
    (next : Session σ κ ω ε α) (event : Event ι σ ω ε α)
    (ahead : ∀ program pending, next = .running program pending →
      R pending ∧ program.Writes fun _ _ change => R change) :
    Tame R (config.conclude session store next event) := by
  intro other text change running
  by_cases same : other = session
  · subst same
    rw [conclude_self] at running
    exact ahead text change running
  · rw [conclude_other _ _ _ _ _ same] at running
    exact tame other text change running

omit [DecidableEq ι] in
theorem Made.kept {config next : Config ι σ κ ω ε α} {session : ι}
    (made : Made W session config) {event : Event ι σ ω ε α}
    (history : next.history = config.history ++ [event]) : Made W session next := by
  obtain ⟨label, before, after, member, holds⟩ := made
  refine ⟨label, before, after, ?_, holds⟩
  rw [history]
  exact List.mem_append_left _ member

end Framing

variable [DecidableEq κ]

theorem step_cases {config next : Config ι σ κ ω ε α} {action : Action ι}
    (step : config.step? action = some next) (session : ι) :
    (action.session = session ∧ ∃ program pending,
        config.sessions session = .running program pending ∧
          Move config session pending program next) ∨
      (action.session ≠ session ∧ next.sessions session = config.sessions session ∧
        ∃ event, next.history = config.history ++ [event] ∧
          ∀ label before after, event ≠ .wrote session label before after) := by
  obtain ⟨program, pending, running, move⟩ := move_of_action step
  by_cases same : action.session = session
  · subst same
    exact .inl ⟨rfl, program, pending, running, move⟩
  · have different : session ≠ action.session := fun other => same other.symm
    refine .inr ⟨same, ?_⟩
    cases move with
    | done => exact ⟨conclude_other _ _ _ _ _ different, _, rfl, by simp⟩
    | throw => exact ⟨conclude_other _ _ _ _ _ different, _, rfl, by simp⟩
    | select => exact ⟨proceed_other _ _ _ _ different, _, rfl, by simp⟩
    | wrote => exact ⟨proceed_other _ _ _ _ different, _, rfl, by simp [same]⟩
    | missed => exact ⟨proceed_other _ _ _ _ different, _, rfl, by simp⟩
    | emit => exact ⟨proceed_other _ _ _ _ different, _, rfl, by simp⟩
    | commit => exact ⟨conclude_other _ _ _ _ _ different, _, rfl, by simp⟩
    | rollback => exact ⟨conclude_other _ _ _ _ _ different, _, rfl, by simp⟩
    | abort => exact ⟨conclude_other _ _ _ _ _ different, _, rfl, by simp⟩

theorem Tame.step {R : (σ → σ) → Prop} (unit : R id)
    (comp : ∀ first second, R first → R second → R (second ∘ first))
    {config next : Config ι σ κ ω ε α} {action : Action ι} (tame : Tame R config)
    (step : config.step? action = some next) : Tame R next := by
  obtain ⟨session, program, pending, running, move⟩ := move_of_step? step
  obtain ⟨open_, ahead⟩ := tame session program pending running
  have fresh : ∀ rest : Program σ κ ω ε α, rest.Writes (fun _ _ change => R change) →
      ∀ program pending, Session.running rest id = .running program pending →
        R pending ∧ program.Writes fun _ _ change => R change := by
    intro rest ahead text change same
    cases same
    exact ⟨unit, ahead⟩
  cases move with
  | done value => exact tame.conclude _ _ _ _ (by simp)
  | throw error => exact tame.conclude _ _ _ _ (by simp)
  | select rest => exact tame.proceed _ _ _ _ _ open_ (ahead _)
  | wrote label rows applies change rest hit free =>
      exact tame.proceed _ _ _ _ _ (comp _ _ open_ ahead.1) (ahead.2 true)
  | missed label rows applies change rest miss =>
      exact tame.proceed _ _ _ _ _ open_ (ahead.2 false)
  | emit label rest => exact tame.proceed _ _ _ _ _ open_ ahead
  | commit rest => exact tame.conclude _ _ _ _ (fresh rest ahead)
  | rollback rest => exact tame.conclude _ _ _ _ (fresh rest ahead)
  | abort => exact tame.conclude _ _ _ _ (by simp)

theorem Tame.run {R : (σ → σ) → Prop} (unit : R id)
    (comp : ∀ first second, R first → R second → R (second ∘ first))
    {config final : Config ι σ κ ω ε α} {schedule : List (Action ι)} (tame : Tame R config)
    (run : config.run? schedule = some final) : Tame R final :=
  run?_invariant (fun _ _ _ tame step => Tame.step unit comp tame step) schedule run tame

theorem Holds.step {config next : Config ι σ κ ω ε α} {action : Action ι}
    (holds : Holds I config) (step : config.step? action = some next) : Holds I next where
  committed := by
    obtain ⟨session, program, pending, running, move⟩ := move_of_step? step
    have found : I (pending config.committed) :=
      (holds.tame session program pending running).1 _ holds.committed
    cases move with
    | done => exact found
    | commit => exact found
    | _ => exact holds.committed
  tame := holds.tame.step (fun _ here => here)
    (fun _ _ first second store here => second _ (first store here)) step

theorem Achieving.step {config next : Config ι σ κ ω ε α} {action : Action ι} {session : ι}
    (achieving : Achieving I W session config) (holds : Holds I config)
    (step : config.step? action = some next) : Achieving I W session next := by
  rcases step_cases step session with ⟨_, program, pending, own, move⟩ | ⟨_, state, event, history, _⟩
  · cases achieving with
    | running text open_ made state ahead behind =>
        rw [state] at own
        cases own
        have found : I (pending config.committed) :=
          (holds.tame session program pending state).1 _ holds.committed
        cases move with
        | done value => exact .returned value (conclude_self ..) ((behind ahead).kept rfl)
        | throw error => exact ahead.elim
        | select rest =>
            exact .running _ pending made (proceed_self ..) (ahead _ found)
              fun done => (behind done).kept rfl
        | wrote label rows applies change rest hit free =>
            refine .running _ _ _ (proceed_self ..) ((ahead _ found).1 hit) ?_
            rintro (done | holds)
            · exact (behind done).kept rfl
            · exact ⟨label, _, _, by simp, holds⟩
        | missed label rows applies change rest miss =>
            exact .running _ pending made (proceed_self ..) ((ahead _ found).2 miss)
              fun done => (behind done).kept rfl
        | emit label rest =>
            exact .running _ pending made (proceed_self ..) ahead fun done => (behind done).kept rfl
        | commit rest =>
            exact .running _ id made (conclude_self ..) ahead fun done => (behind done).kept rfl
        | rollback rest => exact ahead.elim
        | abort => exact .aborted (conclude_self ..)
    | returned value state made =>
        rw [state] at own
        cases own
    | aborted state =>
        rw [state] at own
        cases own
  · cases achieving with
    | running text open_ made at_ ahead behind =>
        exact .running text open_ made (state.trans at_) ahead fun done => (behind done).kept history
    | returned value at_ made => exact .returned value (state.trans at_) (made.kept history)
    | aborted at_ => exact .aborted (state.trans at_)

/-- A session that is to achieve a `W` write and is not cut off has made it by the time it
returns, and returns a value. -/
theorem achieved {config final : Config ι σ κ ω ε α} {schedule : List (Action ι)} {session : ι}
    (achieving : Achieving I W session config) (holds : Holds I config)
    (run : config.run? schedule = some final) {outcome : Except ε α}
    (ended : final.sessions session = .returned outcome) :
    (∃ value, outcome = .ok value) ∧ Made W session final := by
  have preserved : ∀ (config : Config ι σ κ ω ε α) action next,
      Holds I config ∧ Achieving I W session config → config.step? action = some next →
        Holds I next ∧ Achieving I W session next :=
    fun _ _ _ both step => ⟨both.1.step step, both.2.step both.1 step⟩
  obtain ⟨_, last⟩ := run?_invariant preserved schedule run ⟨holds, achieving⟩
  cases last with
  | running program pending made state ahead behind =>
      rw [state] at ended
      cases ended
  | returned value state made =>
      rw [state] at ended
      cases ended
      exact ⟨⟨value, rfl⟩, made⟩
  | aborted state =>
      rw [state] at ended
      cases ended

omit [DecidableEq ι] [DecidableEq κ] in
theorem Writeless.of_running {config : Config ι σ κ ω ε α} {session : ι}
    {program : Program σ κ ω ε α} {pending : σ → σ}
    (state : config.sessions session = .running program pending)
    (ahead : program.Writes fun _ _ _ => False)
    (behind : ∀ label before after, Event.wrote session label before after ∉ config.history) :
    Writeless session config where
  ahead := by
    intro text open_ running
    rw [state] at running
    cases running
    exact ahead
  behind := behind

theorem Writeless.step {config next : Config ι σ κ ω ε α} {action : Action ι} {session : ι}
    (writeless : Writeless session config) (step : config.step? action = some next) :
    Writeless session next := by
  rcases step_cases step session with ⟨_, program, pending, own, move⟩ |
    ⟨_, state, event, history, plain⟩
  · have ahead := writeless.ahead program pending own
    cases move with
    | wrote label rows applies change rest hit free => exact ahead.1.elim
    | done value => exact ⟨by simp, by simp [writeless.behind]⟩
    | throw error => exact ⟨by simp, by simp [writeless.behind]⟩
    | select rest => exact .of_running (proceed_self ..) (ahead _) (by simp [writeless.behind])
    | missed label rows applies change rest miss => exact ahead.1.elim
    | emit label rest => exact .of_running (proceed_self ..) ahead (by simp [writeless.behind])
    | commit rest => exact .of_running (conclude_self ..) ahead (by simp [writeless.behind])
    | rollback rest => exact .of_running (conclude_self ..) ahead (by simp [writeless.behind])
    | abort => exact ⟨by simp, by simp [writeless.behind]⟩
  · refine ⟨?_, ?_⟩
    · intro program pending running
      exact writeless.ahead program pending (state.symm.trans running)
    · intro label before after member
      rw [history] at member
      rcases List.mem_append.mp member with earlier | last
      · exact writeless.behind label before after earlier
      · exact plain label before after (List.mem_singleton.mp last).symm

theorem Writeless.run {config final : Config ι σ κ ω ε α} {schedule : List (Action ι)}
    {session : ι} (writeless : Writeless session config)
    (run : config.run? schedule = some final) : Writeless session final :=
  run?_invariant (fun _ _ _ holds step => Writeless.step holds step) schedule run writeless

structure OwnWrites (P : ω → (σ → Bool) → (σ → σ) → Prop) (Q : ω → σ → σ → Prop) (session : ι)
    (config : Config ι σ κ ω ε α) : Prop where
  ahead : ∀ program pending, config.sessions session = .running program pending →
    program.Writes P
  behind : ∀ label before after,
    Event.wrote session label before after ∈ config.history → Q label before after

section OwnWrites

variable {P : ω → (σ → Bool) → (σ → σ) → Prop} {Q : ω → σ → σ → Prop} {session : ι}

omit [DecidableEq ι] [DecidableEq κ] in
theorem OwnWrites.of_running {config : Config ι σ κ ω ε α} {program : Program σ κ ω ε α}
    {pending : σ → σ} (state : config.sessions session = .running program pending)
    (ahead : program.Writes P)
    (behind : ∀ label before after,
      Event.wrote session label before after ∈ config.history → Q label before after) :
    OwnWrites P Q session config where
  ahead := by
    intro text open_ running
    rw [state] at running
    cases running
    exact ahead
  behind := behind

theorem OwnWrites.step (implied : ∀ label applies change before,
      P label applies change → applies before = true → Q label before (change before))
    {config next : Config ι σ κ ω ε α} {action : Action ι} (own : OwnWrites P Q session config)
    (step : config.step? action = some next) : OwnWrites P Q session next := by
  rcases step_cases step session with ⟨_, program, pending, running, move⟩ |
    ⟨_, state, event, history, plain⟩
  · have ahead := own.ahead program pending running
    cases move with
    | wrote label rows applies change rest hit free =>
        refine .of_running (proceed_self ..) (ahead.2 true) ?_
        intro other before after member
        rcases List.mem_append.mp member with earlier | last
        · exact own.behind other before after earlier
        · cases List.mem_singleton.mp last
          exact implied label applies change _ ahead.1 hit
    | done value => exact ⟨by simp, by simpa using own.behind⟩
    | throw error => exact ⟨by simp, by simpa using own.behind⟩
    | select rest => exact .of_running (proceed_self ..) (ahead _) (by simpa using own.behind)
    | missed label rows applies change rest miss =>
        exact .of_running (proceed_self ..) (ahead.2 false) (by simpa using own.behind)
    | emit label rest => exact .of_running (proceed_self ..) ahead (by simpa using own.behind)
    | commit rest => exact .of_running (conclude_self ..) ahead (by simpa using own.behind)
    | rollback rest => exact .of_running (conclude_self ..) ahead (by simpa using own.behind)
    | abort => exact ⟨by simp, by simpa using own.behind⟩
  · refine ⟨fun program pending running => own.ahead program pending (state.symm.trans running), ?_⟩
    intro label before after member
    rw [history] at member
    rcases List.mem_append.mp member with earlier | last
    · exact own.behind label before after earlier
    · exact absurd (List.mem_singleton.mp last).symm (plain label before after)

theorem own_writes (implied : ∀ label applies change before,
      P label applies change → applies before = true → Q label before (change before))
    {store : σ} {programs : ι → Program σ κ ω ε α} (text : (programs session).Writes P)
    {schedule : List (Action ι)} {final : Config ι σ κ ω ε α}
    (run : (start store programs).run? schedule = some final) {label : ω} {before after : σ}
    (wrote : Event.wrote session label before after ∈ final.history) : Q label before after := by
  have begins : OwnWrites P Q session (start store programs) :=
    .of_running rfl text (by simp [start])
  exact (run?_invariant (fun _ _ _ own step => OwnWrites.step implied own step) schedule run
    begins).behind label before after wrote

end OwnWrites

/-- A session that the schedule does not name has not moved. -/
theorem run?_untouched {config final : Config ι σ κ ω ε α} {schedule : List (Action ι)}
    {session : ι} (untouched : ∀ action ∈ schedule, action.session ≠ session)
    (run : config.run? schedule = some final) :
    final.sessions session = config.sessions session ∧
      ∀ label before after, Event.wrote session label before after ∈ final.history →
        Event.wrote session label before after ∈ config.history := by
  induction schedule generalizing config with
  | nil =>
      cases run
      exact ⟨rfl, fun _ _ _ member => member⟩
  | cons action rest ih =>
      obtain ⟨next, step, run⟩ := run?_cons run
      have others : ∀ action ∈ rest, action.session ≠ session :=
        fun action member => untouched action (by simp [member])
      obtain ⟨still, written⟩ := ih others run
      rcases step_cases step session with ⟨own, _⟩ | ⟨_, state, event, history, plain⟩
      · exact absurd own (untouched action (by simp))
      · refine ⟨still.trans state, ?_⟩
        intro label before after member
        have here := written label before after member
        rw [history] at here
        rcases List.mem_append.mp here with earlier | last
        · exact earlier
        · exact absurd (List.mem_singleton.mp last).symm (plain label before after)

/-- The first step of a session that begins with a read shows it the committed rows. -/
theorem first_read {store : σ} {programs : ι → Program σ κ ω ε α} {session : ι}
    {earlier later : List (Action ι)} {before final : Config ι σ κ ω ε α}
    (reached : (start store programs).run? earlier = some before)
    (waiting : ∀ action ∈ earlier, action.session ≠ session)
    {next : σ → Program σ κ ω ε α} (text : programs session = .select next)
    (read : before.run? (.advance session :: later) = some final) :
    before.step? (.advance session) = some (before.proceed session
        (.running (next before.committed) id) (.read session)) ∧
      (before.proceed session (.running (next before.committed) id)
        (.read session)).run? later = some final := by
  have still := (run?_untouched waiting reached).1
  have running : before.sessions session = .running (.select next) id := by
    simp only [still, start, text]
  obtain ⟨middle, step, rest⟩ := run?_cons read
  have reads : middle = before.proceed session (.running (next before.committed) id)
      (.read session) := by
    simp only [step?, running, advance?, Option.some.injEq] at step
    exact step.symm
  exact ⟨reads ▸ step, reads ▸ rest⟩

theorem writeless_of_read {store : σ} {programs : ι → Program σ κ ω ε α} {session : ι}
    {earlier later : List (Action ι)} {before final : Config ι σ κ ω ε α}
    (reached : (start store programs).run? earlier = some before)
    (waiting : ∀ action ∈ earlier, action.session ≠ session)
    {next : σ → Program σ κ ω ε α} (text : programs session = .select next)
    (read : before.run? (.advance session :: later) = some final)
    (silent : (next before.committed).Writes fun _ _ _ => False) : Writeless session final := by
  have written := (run?_untouched waiting reached).2
  have begins : Writeless session (before.proceed session
      (.running (next before.committed) id) (.read session)) := by
    refine .of_running (proceed_self ..) silent ?_
    intro label found left wrote
    have wrote := written label found left (by simpa using wrote)
    simp [start] at wrote
  exact begins.run (first_read reached waiting text read).2

end Config

end ReadCommitted
