import MultiBrandInvoicing.ReadCommitted.Interleaving
import MultiBrandInvoicing.Transitions.Runs

/-!
# Sessions with a journal

Each session keeps a journal of the rows it found, the writes it made and the rows it left;
nothing it does depends on it.  `Program.Follows` reads the text of one session: what it
knows of the committed rows must stay true whatever the others commit, by the relation
every commit keeps and by the locks the session holds.  `Along.step` turns the texts into
one step relation on the committed rows and the journals, `Shift`, and invariants of a
system of sessions are proved over that relation alone.
-/

set_option autoImplicit false

namespace ReadCommitted

inductive Entry (σ ω : Type) where
  | found (store : σ)
  | wrote (label : ω)
  | told (label : ω)
  | left (store : σ)
  | dropped

abbrev Journal (σ ω : Type) := List (Entry σ ω)

namespace Journal

variable {σ ω : Type}

def found? : Entry σ ω → Option σ
  | .found store => some store
  | _ => none

/-- The committed rows that its first reads found, before it wrote anything; the first is
last. -/
def opening (journal : Journal σ ω) : List σ :=
  ((journal.reverse.takeWhile fun entry => (found? entry).isSome).filterMap found?).reverse

def writing : Journal σ ω → List ω
  | [] => []
  | .wrote label :: earlier => label :: writing earlier
  | .found _ :: earlier => writing earlier
  | .told _ :: earlier => writing earlier
  | .left _ :: _ => []
  | .dropped :: _ => []

def settled : Journal σ ω → List ω
  | [] => []
  | .left _ :: earlier => writing earlier ++ settled earlier
  | .found _ :: earlier => settled earlier
  | .wrote _ :: earlier => settled earlier
  | .told _ :: earlier => settled earlier
  | .dropped :: earlier => settled earlier

theorem mem_settled_cons {label : ω} {journal : Journal σ ω} (entry : Entry σ ω)
    (member : label ∈ settled journal) : label ∈ settled (entry :: journal) := by
  cases entry with
  | left store => exact List.mem_append_right _ member
  | _ => exact member

theorem settled_moved {ι : Type} [DecidableEq ι] {journals : ι → Journal σ ω}
    {session other : ι} {journal : Journal σ ω} {label : ω}
    (member : label ∈ settled (Function.update journals session journal other)) :
    (other = session ∧ label ∈ settled journal) ∨ label ∈ settled (journals other) := by
  by_cases same : other = session
  · subst same
    rw [Function.update_self] at member
    exact .inl ⟨rfl, member⟩
  · rw [Function.update_of_ne same] at member
    exact .inr member

/-- Only a commit settles anything, and then what was being written. -/
theorem settled_update {ι : Type} [DecidableEq ι] {journals : ι → Journal σ ω}
    {session other : ι} {entry : Entry σ ω} {label : ω}
    (member : label ∈
      settled (Function.update journals session (entry :: journals session) other)) :
    label ∈ settled (journals other) ∨
      other = session ∧ (∃ store, entry = .left store) ∧ label ∈ writing (journals session) := by
  rcases settled_moved member with ⟨rfl, mine⟩ | earlier
  · cases entry with
    | left store =>
        exact (List.mem_append.mp mine).symm.imp id fun now => ⟨rfl, ⟨store, rfl⟩, now⟩
    | _ => exact .inl mine
  · exact .inl earlier

/-- Writes one after another, the latest first, where a write's label says what it does. -/
def applied (act : ω → σ → σ) : List ω → σ → σ
  | [] => id
  | label :: earlier => act label ∘ applied act earlier

theorem applied_append (act : ω → σ → σ) (later earlier : List ω) (store : σ) :
    applied act (later ++ earlier) store = applied act later (applied act earlier store) := by
  induction later with
  | nil => rfl
  | cons label rest ih => exact congrArg (act label) ih

def replay (act : ω → σ → σ) (journal : Journal σ ω) : σ → σ := applied act journal.writing

def toldOf : Entry σ ω → Option ω
  | .told label => some label
  | _ => none

def messages (journal : Journal σ ω) : List ω := journal.filterMap toldOf

end Journal

structure Journaled (ι σ κ ω ε α : Type) where
  config : Config ι σ κ ω ε α
  journal : ι → Journal σ ω

namespace Journaled

variable {ι σ κ ω ε α : Type} [DecidableEq ι] [DecidableEq κ]

def start (store : σ) (programs : ι → Program σ κ ω ε α) : Journaled ι σ κ ω ε α :=
  ⟨Config.start store programs, fun _ => []⟩

def recorded? (before after : σ) : Event ι σ ω ε α → Option (Entry σ ω)
  | .read _ => some (.found before)
  | .wrote _ label _ _ => some (.wrote label)
  | .missed _ _ => none
  | .announced _ label => some (.told label)
  | .committed _ => some (.left after)
  | .returned _ _ => some (.left after)
  | .rolledBack _ => some .dropped
  | .failed _ _ => some .dropped
  | .aborted _ => some .dropped

/-- One action; one that is not possible changes nothing. -/
def step (state : Journaled ι σ κ ω ε α) (action : Action ι) : Journaled ι σ κ ω ε α :=
  match state.config.step? action with
  | none => state
  | some next =>
      ⟨next, Function.update state.journal action.session
        (((next.history.getLast?.bind (recorded? state.config.committed next.committed)).toList) ++
          state.journal action.session)⟩

def commits? (state : Journaled ι σ κ ω ε α) : Action ι → Option σ
  | .advance session =>
      match state.config.sessions session with
      | .running (.done _) pending => some (pending state.config.committed)
      | .running (.commit _) pending => some (pending state.config.committed)
      | _ => none
  | .abort _ => none

/-- The journals change nothing: what a run with them does, the configuration does. -/
theorem exists_run? (actions : List (Action ι)) (state : Journaled ι σ κ ω ε α) :
    ∃ schedule, schedule.Sublist actions ∧
      state.config.run? schedule = some (actions.foldl step state).config := by
  induction actions generalizing state with
  | nil => exact ⟨[], .slnil, rfl⟩
  | cons action rest ih =>
      obtain ⟨schedule, sub, run⟩ := ih (state.step action)
      cases possible : state.config.step? action with
      | none =>
          have still : state.step action = state := by simp [step, possible]
          rw [still] at run
          refine ⟨schedule, sub.cons _, ?_⟩
          rw [List.foldl_cons, still]
          exact run
      | some next =>
          have moved : (state.step action).config = next := by simp [step, possible]
          rw [moved] at run
          refine ⟨action :: schedule, sub.cons_cons _, ?_⟩
          rw [List.foldl_cons]
          simpa [Config.run?, possible] using run

end Journaled

/-! ## What a session may rely on, and what it owes -/

/-- What holds of the committed rows, how a commit may change them, and which part of them a
row name stands for. -/
structure Rely (σ κ γ : Type) where
  holds : σ → Prop
  leads : σ → σ → Prop
  cell : κ → σ → γ

/-- No commit of another session takes the knowledge away while the rows are locked. -/
def Rely.Stable {σ κ γ : Type} (rely : Rely σ κ γ) (rows : List κ) (knows : σ → Prop) : Prop :=
  ∀ before after, rely.holds before → rely.leads before after →
    (∀ row ∈ rows, rely.cell row after = rely.cell row before) → knows before → knows after

/-- What the journal of a session says of the rows it leaves, of its messages and of how it
ends. -/
structure Conduct (σ ω ε α : Type) where
  leaves : Journal σ ω → σ → σ → Prop
  tells : Journal σ ω → σ → ω → Prop
  ends : Journal σ ω → Except ε α → Prop

section Text

variable {σ κ ω ε α β γ : Type}

/-- The commit of what is pending keeps to what everybody relies on, stays within the locked
rows and is as the session's journal says. -/
structure Rely.Honoured (rely : Rely σ κ γ) (conduct : Conduct σ ω ε β) (journal : Journal σ ω)
    (rows : List κ) (before after : σ) : Prop where
  holds : rely.holds after
  leads : rely.leads before after
  within : ∀ row, row ∉ rows → rely.cell row after = rely.cell row before
  leaves : conduct.leaves journal before after

/-- What the text comes to from here: with this journal, these pending writes, these locked
rows and this knowledge of the committed rows. -/
def Program.Follows (rely : Rely σ κ γ) (conduct : Conduct σ ω ε β)
    (last : α → Journal σ ω → (σ → σ) → List κ → (σ → Prop) → Prop) :
    Program σ κ ω ε α → Journal σ ω → (σ → σ) → List κ → (σ → Prop) → Prop
  | .done value, journal, pending, rows, knows => last value journal pending rows knows
  | .throw error, journal, _, _, _ => conduct.ends (.dropped :: journal) (.error error)
  | .select next, journal, pending, rows, knows => ∀ store, rely.holds store → knows store →
      ∃ learns : σ → Prop, rely.Stable rows learns ∧ learns store ∧
        (next (pending store)).Follows rely conduct last (.found store :: journal) pending rows
          learns
  | .write label taken applies change next, journal, pending, rows, knows =>
      ∀ store, rely.holds store → knows store →
        (applies (pending store) = true →
          ∃ learns : σ → Prop, rely.Stable (taken ++ rows) learns ∧ learns store ∧
            (next true).Follows rely conduct last (.wrote label :: journal) (change ∘ pending)
              (taken ++ rows) learns) ∧
        (applies (pending store) = false →
          ∃ learns : σ → Prop, rely.Stable rows learns ∧ learns store ∧
            (next false).Follows rely conduct last journal pending rows learns)
  | .emit label next, journal, pending, rows, knows =>
      (∀ store, rely.holds store → knows store → conduct.tells journal store label) ∧
        next.Follows rely conduct last (.told label :: journal) pending rows knows
  | .commit next, journal, pending, rows, knows => ∀ store, rely.holds store → knows store →
      rely.Honoured conduct journal rows store (pending store) ∧
        ∃ learns : σ → Prop, rely.Stable [] learns ∧ learns (pending store) ∧
          next.Follows rely conduct last (.left (pending store) :: journal) id [] learns
  | .rollback next, journal, _, _, knows => ∀ store, rely.holds store → knows store →
      ∃ learns : σ → Prop, rely.Stable [] learns ∧ learns store ∧
        next.Follows rely conduct last (.dropped :: journal) id [] learns

def Conduct.finishes (rely : Rely σ κ γ) (conduct : Conduct σ ω ε α) (value : α)
    (journal : Journal σ ω) (pending : σ → σ) (rows : List κ) (knows : σ → Prop) : Prop :=
  ∀ store, rely.holds store → knows store →
    rely.Honoured conduct journal rows store (pending store) ∧
      conduct.ends (.left (pending store) :: journal) (.ok value)

variable {rely : Rely σ κ γ} {conduct : Conduct σ ω ε β} {rows : List κ} {knows : σ → Prop}

theorem Rely.stable_true : rely.Stable rows fun _ => True := fun _ _ _ _ _ _ => trivial

theorem Rely.Stable.locked (stable : rely.Stable rows knows) (taken : List κ) :
    rely.Stable (taken ++ rows) knows := fun before after holds leads same =>
  stable before after holds leads fun row member => same row (List.mem_append_right _ member)

theorem Rely.Stable.mono {more : List κ} (stable : rely.Stable rows knows)
    (taken : ∀ row ∈ rows, row ∈ more) : rely.Stable more knows :=
  fun before after holds leads same =>
    stable before after holds leads fun row member => same row (taken row member)

theorem Rely.Stable.and {also : σ → Prop} (stable : rely.Stable rows knows)
    (other : rely.Stable rows also) : rely.Stable rows fun store => knows store ∧ also store :=
  fun before after holds leads same both =>
    ⟨stable before after holds leads same both.1, other before after holds leads same both.2⟩

namespace Program

variable {journal : Journal σ ω} {pending : σ → σ}
  {last : α → Journal σ ω → (σ → σ) → List κ → (σ → Prop) → Prop}

theorem Follows.bind {δ : Type} {program : Program σ κ ω ε δ} {next : δ → Program σ κ ω ε α}
    {middle : δ → Journal σ ω → (σ → σ) → List κ → (σ → Prop) → Prop}
    (first : program.Follows rely conduct middle journal pending rows knows)
    (second : ∀ value journal pending rows knows, middle value journal pending rows knows →
      (next value).Follows rely conduct last journal pending rows knows) :
    (program >>= next).Follows rely conduct last journal pending rows knows := by
  change (program.bind next).Follows rely conduct last journal pending rows knows
  induction program generalizing journal pending rows knows with
  | done value => exact second value journal pending rows knows first
  | throw error => exact first
  | select rest ih =>
      intro store holds known
      obtain ⟨learns, stable, learnt, along⟩ := first store holds known
      exact ⟨learns, stable, learnt, ih _ along⟩
  | write label taken applies change rest ih =>
      intro store holds known
      obtain ⟨hit, miss⟩ := first store holds known
      constructor
      · intro applied
        obtain ⟨learns, stable, learnt, along⟩ := hit applied
        exact ⟨learns, stable, learnt, ih true along⟩
      · intro missed
        obtain ⟨learns, stable, learnt, along⟩ := miss missed
        exact ⟨learns, stable, learnt, ih false along⟩
  | emit label rest ih => exact ⟨first.1, ih first.2⟩
  | commit rest ih =>
      intro store holds known
      obtain ⟨honoured, learns, stable, learnt, along⟩ := first store holds known
      exact ⟨honoured, learns, stable, learnt, ih along⟩
  | rollback rest ih =>
      intro store holds known
      obtain ⟨learns, stable, learnt, along⟩ := first store holds known
      exact ⟨learns, stable, learnt, ih along⟩

theorem Follows.mono {program : Program σ κ ω ε α}
    {last' : α → Journal σ ω → (σ → σ) → List κ → (σ → Prop) → Prop}
    (follows : program.Follows rely conduct last journal pending rows knows)
    (implied : ∀ value journal pending rows knows, last value journal pending rows knows →
      last' value journal pending rows knows) :
    program.Follows rely conduct last' journal pending rows knows := by
  have along : (program >>= .done).Follows rely conduct last' journal pending rows knows :=
    follows.bind implied
  rwa [bind_done] at along

theorem Follows.read {next : σ → Program σ κ ω ε α} (stable : rely.Stable rows knows)
    (rest : ∀ store, rely.holds store → knows store →
      (next (pending store)).Follows rely conduct last (.found store :: journal) pending rows
        knows) :
    (Program.read >>= next).Follows rely conduct last journal pending rows knows :=
  fun store holds known => ⟨knows, stable, known, rest store holds known⟩

theorem Follows.writeRows {label : ω} {taken : List κ} {applies : σ → Bool} {change : σ → σ}
    {next : Bool → Program σ κ ω ε α} (stable : rely.Stable rows knows)
    (hit : (next true).Follows rely conduct last (.wrote label :: journal) (change ∘ pending)
      (taken ++ rows) knows)
    (miss : (next false).Follows rely conduct last journal pending rows knows) :
    (Program.writeRows label taken applies change >>= next).Follows rely conduct last journal
      pending rows knows :=
  fun _ _ known => ⟨fun _ => ⟨knows, stable.locked taken, known, hit⟩,
    fun _ => ⟨knows, stable, known, miss⟩⟩

theorem Follows.announce {label : ω} {next : Unit → Program σ κ ω ε α}
    (tells : ∀ store, rely.holds store → knows store → conduct.tells journal store label)
    (rest : (next ()).Follows rely conduct last (.told label :: journal) pending rows knows) :
    (Program.announce label >>= next).Follows rely conduct last journal pending rows knows :=
  ⟨tells, rest⟩

theorem Follows.commitNow {next : Unit → Program σ κ ω ε α}
    (honoured : ∀ store, rely.holds store → knows store →
      rely.Honoured conduct journal rows store (pending store))
    (rest : ∀ store, rely.holds store → knows store →
      (next ()).Follows rely conduct last (.left (pending store) :: journal) id []
        fun _ => True) :
    (Program.commitNow >>= next).Follows rely conduct last journal pending rows knows :=
  fun store holds known => ⟨honoured store holds known, _, Rely.stable_true, trivial,
    rest store holds known⟩

theorem Follows.ofExcept {δ ζ : Type} {wrap : δ → ε} {result : Except δ ζ}
    {next : ζ → Program σ κ ω ε α}
    (refused : ∀ error, result = .error error →
      conduct.ends (.dropped :: journal) (.error (wrap error)))
    (rest : ∀ value, result = .ok value →
      (next value).Follows rely conduct last journal pending rows knows) :
    (Program.ofExcept wrap result >>= next).Follows rely conduct last journal pending rows
      knows := by
  cases result with
  | error error => exact refused error rfl
  | ok value => exact rest value rfl

end Program

/-! ### Writes that do what their labels say -/

/-- The journal has grown, and the writes that were added satisfy `P`. -/
def Journal.Grows (P : ω → Prop) (earlier later : Journal σ ω) : Prop :=
  ∃ more : Journal σ ω, later = more ++ earlier ∧ ∀ label, .wrote label ∈ more → P label

theorem Journal.Grows.refl {P : ω → Prop} (journal : Journal σ ω) :
    Journal.Grows P journal journal := ⟨[], rfl, by simp⟩

theorem Journal.Grows.add {P : ω → Prop} {earlier later : Journal σ ω}
    (grows : Journal.Grows P earlier later) {entry : Entry σ ω}
    (added : ∀ label, entry = .wrote label → P label) :
    Journal.Grows P earlier (entry :: later) := by
  obtain ⟨more, rfl, holds⟩ := grows
  refine ⟨entry :: more, rfl, ?_⟩
  intro label member
  rcases List.mem_cons.mp member with here | earlier_
  · exact added label here.symm
  · exact holds label earlier_

theorem Journal.Grows.writing {P : ω → Prop} {earlier later : Journal σ ω}
    (grows : Journal.Grows P earlier later) :
    (∃ added : List ω, (∀ label ∈ added, P label) ∧ later.writing = added ++ earlier.writing) ∨
      ∀ label ∈ later.writing, P label := by
  obtain ⟨more, rfl, holds⟩ := grows
  induction more with
  | nil => exact .inl ⟨[], by simp, rfl⟩
  | cons entry rest ih =>
      have ahead := ih fun label member => holds label (List.mem_cons_of_mem _ member)
      cases entry with
      | found store => exact ahead
      | told label => exact ahead
      | left store => exact .inr (by simp [Journal.writing])
      | dropped => exact .inr (by simp [Journal.writing])
      | wrote label =>
          have here : P label := holds label (by simp)
          rcases ahead with ⟨added, each, same⟩ | each
          · exact .inl ⟨label :: added, by simpa [here] using each,
              by simp [Journal.writing, same]⟩
          · exact .inr (by simpa [Journal.writing, here] using each)

theorem takeWhile_append_cons_of_not {δ : Type} {here : δ → Bool} (first second : List δ)
    {element : δ} (ends : here element = false) :
    (first ++ element :: second).takeWhile here = first.takeWhile here := by
  induction first with
  | nil => simp [ends]
  | cons head tail ih => simp only [List.cons_append, List.takeWhile_cons, ih]

theorem Journal.opening_wrote (more : Journal σ ω) (label : ω) (journal : Journal σ ω) :
    Journal.opening (more ++ .wrote label :: journal) = Journal.opening journal := by
  unfold Journal.opening
  rw [List.reverse_append, List.reverse_cons, List.append_assoc, List.singleton_append,
    takeWhile_append_cons_of_not _ _ rfl]

/-- What is pending is what the labels of the open transaction say, and the rows they name are
locked. -/
structure Recorded (rowsOf : ω → List κ) (act : ω → σ → σ) (journal : Journal σ ω)
    (pending : σ → σ) (rows : List κ) : Prop where
  same : pending = journal.replay act
  locked : ∀ label ∈ journal.writing, ∀ row ∈ rowsOf label, row ∈ rows

/-- Every write of the text does what its label says, and its label satisfies `P`. -/
def Program.Performs (rowsOf : ω → List κ) (act : ω → σ → σ) (P : ω → Prop) :
    Program σ κ ω ε α → Prop
  | .done _ => True
  | .throw _ => True
  | .select next => ∀ view, (next view).Performs rowsOf act P
  | .write label rows _ change next => rows = rowsOf label ∧ change = act label ∧ P label ∧
      ∀ hit, (next hit).Performs rowsOf act P
  | .emit _ next => next.Performs rowsOf act P
  | .commit next => next.Performs rowsOf act P
  | .rollback next => next.Performs rowsOf act P

section Performing

variable {rowsOf : ω → List κ} {act : ω → σ → σ} {P : ω → Prop} {journal : Journal σ ω}
  {pending : σ → σ}

theorem Recorded.start : Recorded rowsOf act ([] : Journal σ ω) id ([] : List κ) :=
  ⟨rfl, by simp [Journal.writing]⟩

theorem Recorded.found (recorded : Recorded rowsOf act journal pending rows) (store : σ) :
    Recorded rowsOf act (.found store :: journal) pending rows :=
  ⟨recorded.same, recorded.locked⟩

theorem Recorded.told (recorded : Recorded rowsOf act journal pending rows) (label : ω) :
    Recorded rowsOf act (.told label :: journal) pending rows :=
  ⟨recorded.same, recorded.locked⟩

theorem Recorded.wrote (recorded : Recorded rowsOf act journal pending rows) (label : ω) :
    Recorded rowsOf act (.wrote label :: journal) (act label ∘ pending)
      (rowsOf label ++ rows) where
  same := by rw [recorded.same]; rfl
  locked := by
    intro other member row named
    rcases List.mem_cons.mp member with rfl | earlier
    · exact List.mem_append_left _ named
    · exact List.mem_append_right _ (recorded.locked other earlier row named)

theorem Recorded.left (store : σ) :
    Recorded rowsOf act (.left store :: journal) id ([] : List κ) :=
  ⟨rfl, by simp [Journal.writing]⟩

theorem Recorded.dropped : Recorded rowsOf act (.dropped :: journal) id ([] : List κ) :=
  ⟨rfl, by simp [Journal.writing]⟩

namespace Program

theorem Performs.bind {δ : Type} {program : Program σ κ ω ε δ} {next : δ → Program σ κ ω ε α}
    (first : program.Performs rowsOf act P) (second : ∀ value, (next value).Performs rowsOf act P) :
    (program >>= next).Performs rowsOf act P := by
  change (program.bind next).Performs rowsOf act P
  induction program with
  | done value => exact second value
  | throw error => trivial
  | select rest ih => exact fun view => ih view (first view)
  | write label rows applies change rest ih =>
      exact ⟨first.1, first.2.1, first.2.2.1, fun hit => ih hit (first.2.2.2 hit)⟩
  | emit label rest ih => exact ih first
  | commit rest ih => exact ih first
  | rollback rest ih => exact ih first

theorem Performs.mono {P' : ω → Prop} (implied : ∀ label, P label → P' label)
    {program : Program σ κ ω ε α} (performs : program.Performs rowsOf act P) :
    program.Performs rowsOf act P' := by
  induction program with
  | done value => trivial
  | throw error => trivial
  | select rest ih => exact fun view => ih view (performs view)
  | write label rows applies change rest ih =>
      exact ⟨performs.1, performs.2.1, implied label performs.2.2.1,
        fun hit => ih hit (performs.2.2.2 hit)⟩
  | emit label rest ih => exact ih performs
  | commit rest ih => exact ih performs
  | rollback rest ih => exact ih performs

/-- Run on its own, the text leaves what such writes make of the rows. -/
theorem Performs.execFrom {program : Program σ κ ω ε α} (performs : program.Performs rowsOf act P)
    (open_ : List ω) {committed view : σ} (opened : ∀ label ∈ open_, P label)
    (same : view = Journal.applied act open_ committed) :
    ∃ labels : List ω, (∀ label ∈ labels, P label) ∧
      (program.execFrom committed view).store = Journal.applied act labels committed := by
  induction program generalizing open_ committed view with
  | done value => exact ⟨open_, opened, same⟩
  | throw error => exact ⟨[], by simp, rfl⟩
  | select rest ih => exact ih view (performs view) open_ opened same
  | write label rows applies change rest ih =>
      obtain ⟨_, rfl, here, ahead⟩ := performs
      rw [execFrom_write]
      split
      next =>
        refine ih true (ahead true) (label :: open_) ?_ (by rw [same]; rfl)
        intro other member
        rcases List.mem_cons.mp member with rfl | earlier
        · exact here
        · exact opened other earlier
      next => exact ih false (ahead false) open_ opened same
  | emit label rest ih => exact ih performs open_ opened same
  | commit rest ih =>
      obtain ⟨labels, each, left⟩ := ih performs [] (by simp) (rfl : view = view)
      refine ⟨labels ++ open_, ?_, ?_⟩
      · intro label member
        exact (List.mem_append.mp member).elim (each label) (opened label)
      · rw [Journal.applied_append, ← same]
        exact left
  | rollback rest ih => exact ih performs [] (by simp) rfl

theorem Performs.exec {program : Program σ κ ω ε α} (performs : program.Performs rowsOf act P)
    (store : σ) :
    ∃ labels : List ω, (∀ label ∈ labels, P label) ∧
      (program.exec store).store = Journal.applied act labels store :=
  performs.execFrom [] (by simp) rfl

/-- A text that performs its labels follows any conduct that asks no more of what it leaves. -/
theorem Performs.follows {program : Program σ κ ω ε α}
    (performs : program.Performs rowsOf act P) {earlier : Journal σ ω}
    (commits : ∀ later rows store, Journal.Grows P earlier later →
      (∀ label ∈ later.writing, ∀ row ∈ rowsOf label, row ∈ rows) → rely.holds store →
        rely.Honoured conduct later rows store (later.replay act store))
    (tells : ∀ later store label, Journal.Grows P earlier later →
      conduct.tells later store label)
    (throws : ∀ later error, Journal.Grows P earlier later →
      conduct.ends (.dropped :: later) (.error error))
    (grows : Journal.Grows P earlier journal) (recorded : Recorded rowsOf act journal pending rows)
    (stable : rely.Stable rows knows) :
    program.Follows rely conduct (fun _ later pending rows knows =>
      Journal.Grows P earlier later ∧ Recorded rowsOf act later pending rows ∧
        rely.Stable rows knows) journal pending rows knows := by
  induction program generalizing journal pending rows knows with
  | done value => exact ⟨grows, recorded, stable⟩
  | throw error => exact throws journal error grows
  | select rest ih =>
      exact fun store _ known => ⟨knows, stable, known,
        ih _ (performs _) (grows.add (by simp)) (recorded.found store) stable⟩
  | write label taken applies change rest ih =>
      obtain ⟨rfl, rfl, here, ahead⟩ := performs
      intro store _ known
      refine ⟨fun _ => ⟨knows, stable.locked _, known, ?_⟩, fun _ => ⟨knows, stable, known, ?_⟩⟩
      · refine ih true (ahead true) (grows.add ?_) (recorded.wrote label) (stable.locked _)
        rintro other ⟨⟩
        exact here
      · exact ih false (ahead false) grows recorded stable
  | emit label rest ih =>
      exact ⟨fun store _ _ => tells journal store label grows,
        ih performs (grows.add (by simp)) (recorded.told label) stable⟩
  | commit rest ih =>
      intro store holds known
      have honoured := commits journal rows store grows recorded.locked holds
      rw [← recorded.same] at honoured
      exact ⟨honoured, _, Rely.stable_true, trivial,
        ih performs (grows.add (by simp)) (.left _) Rely.stable_true⟩
  | rollback rest ih =>
      exact fun store _ _ => ⟨_, Rely.stable_true, trivial,
        ih performs (grows.add (by simp)) .dropped Rely.stable_true⟩

theorem Performs.finishes {conduct : Conduct σ ω ε α} {program : Program σ κ ω ε α}
    (performs : program.Performs rowsOf act P) {earlier : Journal σ ω}
    (commits : ∀ later rows store, Journal.Grows P earlier later →
      (∀ label ∈ later.writing, ∀ row ∈ rowsOf label, row ∈ rows) → rely.holds store →
        rely.Honoured conduct later rows store (later.replay act store))
    (tells : ∀ later store label, Journal.Grows P earlier later →
      conduct.tells later store label)
    (throws : ∀ later error, Journal.Grows P earlier later →
      conduct.ends (.dropped :: later) (.error error))
    (returns : ∀ later store value, Journal.Grows P earlier later →
      conduct.ends (.left store :: later) (.ok value))
    (grows : Journal.Grows P earlier journal) (recorded : Recorded rowsOf act journal pending rows)
    (stable : rely.Stable rows knows) :
    program.Follows rely conduct (conduct.finishes rely) journal pending rows knows := by
  refine (performs.follows commits tells throws grows recorded stable).mono ?_
  rintro value later pending rows knows ⟨grows, recorded, _⟩ store holds _
  refine ⟨?_, returns later _ value grows⟩
  rw [recorded.same]
  exact commits later rows store grows recorded.locked holds

end Program

end Performing

end Text

/-! ## Systems of such sessions -/

namespace Journaled

variable {ι σ κ ω ε α γ : Type} {rely : Rely σ κ γ} {conduct : ι → Conduct σ ω ε α}

/-- Every session is somewhere along its text, and what it knows is true. -/
structure Along (rely : Rely σ κ γ) (conduct : ι → Conduct σ ω ε α)
    (state : Journaled ι σ κ ω ε α) : Prop where
  holds : rely.holds state.config.committed
  running : ∀ session program pending,
    state.config.sessions session = .running program pending →
      ∃ (rows : List κ) (knows : σ → Prop),
        (∀ row ∈ rows, state.config.holder row = some session) ∧
        rely.Stable rows knows ∧ knows state.config.committed ∧
        program.Follows rely (conduct session) ((conduct session).finishes rely)
          (state.journal session) pending rows knows
  returned : ∀ session outcome, state.config.sessions session = .returned outcome →
    (conduct session).ends (state.journal session) outcome

inductive Shift (conduct : ι → Conduct σ ω ε α) (state : Journaled ι σ κ ω ε α)
    (action : Action ι) : σ → Journal σ ω → Prop where
  | still : Shift conduct state action state.config.committed (state.journal action.session)
  | read : Shift conduct state action state.config.committed
      (.found state.config.committed :: state.journal action.session)
  | write (label : ω) : Shift conduct state action state.config.committed
      (.wrote label :: state.journal action.session)
  | tell (label : ω)
      (tells : (conduct action.session).tells (state.journal action.session)
        state.config.committed label) :
      Shift conduct state action state.config.committed
        (.told label :: state.journal action.session)
  | commit (after : σ) (commits : state.commits? action = some after)
      (leaves : (conduct action.session).leaves (state.journal action.session)
        state.config.committed after) :
      Shift conduct state action after (.left after :: state.journal action.session)
  | drop : Shift conduct state action state.config.committed
      (.dropped :: state.journal action.session)

theorem start_along {store : σ} {programs : ι → Program σ κ ω ε α} (holds : rely.holds store)
    (text : ∀ session, (programs session).Follows rely (conduct session)
      ((conduct session).finishes rely) [] id [] fun _ => True) :
    (start store programs).Along rely conduct where
  holds := holds
  running := by
    intro session program pending running
    cases running
    exact ⟨[], fun _ => True, by simp, Rely.stable_true, trivial, text session⟩
  returned := by
    intro session outcome returned
    cases returned

theorem Along.framed {state next : Journaled ι σ κ ω ε α} (along : state.Along rely conduct)
    (session : ι)
    (others : ∀ other, other ≠ session →
      next.config.sessions other = state.config.sessions other ∧
        next.journal other = state.journal other)
    (held : ∀ other, other ≠ session → ∀ row, state.config.holder row = some other →
      next.config.holder row = some other)
    (moves : next.config.committed = state.config.committed ∨
      ∃ rows : List κ, (∀ row ∈ rows, state.config.holder row = some session) ∧
        rely.leads state.config.committed next.config.committed ∧
        ∀ row, row ∉ rows →
          rely.cell row next.config.committed = rely.cell row state.config.committed)
    (holds : rely.holds next.config.committed)
    (running : ∀ program pending, next.config.sessions session = .running program pending →
      ∃ (rows : List κ) (knows : σ → Prop),
        (∀ row ∈ rows, next.config.holder row = some session) ∧
        rely.Stable rows knows ∧ knows next.config.committed ∧
        program.Follows rely (conduct session) ((conduct session).finishes rely)
          (next.journal session) pending rows knows)
    (returned : ∀ outcome, next.config.sessions session = .returned outcome →
      (conduct session).ends (next.journal session) outcome) :
    next.Along rely conduct where
  holds := holds
  running := by
    intro other program pending state_
    by_cases same : other = session
    · subst same
      exact running program pending state_
    · obtain ⟨sessions, journal⟩ := others other same
      rw [sessions] at state_
      rw [journal]
      obtain ⟨rows, knows, mine, stable, known, follows⟩ :=
        along.running other program pending state_
      refine ⟨rows, knows, fun row member => held other same row (mine row member), stable, ?_,
        follows⟩
      rcases moves with kept | ⟨changed, theirs, leads, within⟩
      · rwa [kept]
      · refine stable _ _ along.holds leads ?_ known
        intro row member
        refine within row fun both => same ?_
        have owner := mine row member
        rw [theirs row both] at owner
        exact (Option.some.inj owner).symm
  returned := by
    intro other outcome state_
    by_cases same : other = session
    · subst same
      exact returned outcome state_
    · obtain ⟨sessions, journal⟩ := others other same
      rw [sessions] at state_
      rw [journal]
      exact along.returned other outcome state_

variable [DecidableEq ι] [DecidableEq κ]

theorem Along.proceed {state : Journaled ι σ κ ω ε α} (along : state.Along rely conduct)
    {session : ι} {program : Program σ κ ω ε α} {pending : σ → σ} {rows taken : List κ}
    {knows : σ → Prop} {journal : Journal σ ω} (event : Event ι σ ω ε α)
    (free : state.config.free session taken = true)
    (mine : ∀ row ∈ rows, state.config.holder row = some session)
    (stable : rely.Stable (taken ++ rows) knows) (known : knows state.config.committed)
    (follows : program.Follows rely (conduct session) ((conduct session).finishes rely) journal
      pending (taken ++ rows) knows) :
    Along rely conduct
      ⟨{ state.config with holder := state.config.acquire session taken }.proceed session
          (.running program pending) event,
        Function.update state.journal session journal⟩ := by
  refine along.framed session ?_ ?_ (.inl rfl) along.holds ?_ ?_
  · intro other different
    exact ⟨Config.proceed_other _ _ _ _ different, Function.update_of_ne different ..⟩
  · intro other different row held
    exact state.config.acquire_of_free free held different
  · intro text open_ running
    rw [Config.proceed_self] at running
    cases running
    refine ⟨taken ++ rows, knows, ?_, stable, known, ?_⟩
    · intro row member
      change state.config.acquire session taken row = some session
      by_cases now : row ∈ taken
      · simp [Config.acquire, now]
      · simpa [Config.acquire, now] using mine row ((List.mem_append.mp member).resolve_left now)
    · simpa using follows
  · intro outcome returned
    rw [Config.proceed_self] at returned
    cases returned

omit [DecidableEq κ] in
theorem Along.conclude {state : Journaled ι σ κ ω ε α} (along : state.Along rely conduct)
    {session : ι} {store : σ} {next : Session σ κ ω ε α} {journal : Journal σ ω}
    (event : Event ι σ ω ε α) (rows : List κ)
    (mine : ∀ row ∈ rows, state.config.holder row = some session)
    (moves : store = state.config.committed ∨
      rely.leads state.config.committed store ∧
        ∀ row, row ∉ rows → rely.cell row store = rely.cell row state.config.committed)
    (holds : rely.holds store)
    (running : ∀ program pending, next = .running program pending →
      ∃ knows : σ → Prop, rely.Stable [] knows ∧ knows store ∧
        program.Follows rely (conduct session) ((conduct session).finishes rely) journal pending
          [] knows)
    (returned : ∀ outcome, next = .returned outcome → (conduct session).ends journal outcome) :
    Along rely conduct
      ⟨state.config.conclude session store next event,
        Function.update state.journal session journal⟩ := by
  refine along.framed session ?_ ?_ ?_ holds ?_ ?_
  · intro other different
    exact ⟨Config.conclude_other _ _ _ _ _ different, Function.update_of_ne different ..⟩
  · intro other different row held
    exact state.config.release_of_other session held different
  · exact moves.imp id fun changed => ⟨rows, mine, changed⟩
  · intro program pending state_
    rw [Config.conclude_self] at state_
    obtain ⟨knows, stable, known, follows⟩ := running program pending state_
    refine ⟨[], knows, by simp, stable, known, ?_⟩
    simpa using follows
  · intro outcome state_
    rw [Config.conclude_self] at state_
    simpa using returned outcome state_

theorem step_of_some {state : Journaled ι σ κ ω ε α} {action : Action ι}
    {next : Config ι σ κ ω ε α} (step : state.config.step? action = some next)
    {event : Event ι σ ω ε α} (history : next.history = state.config.history ++ [event]) :
    state.step action = ⟨next, Function.update state.journal action.session
      ((recorded? state.config.committed next.committed event).toList ++
        state.journal action.session)⟩ := by
  simp [Journaled.step, step, history]

/-- A session that is not cut off where it ends a transaction commits what is pending. -/
theorem commits?_of_step {state : Journaled ι σ κ ω ε α} {action : Action ι}
    {next : Config ι σ κ ω ε α} (possible : state.config.step? action = some next)
    (whole : next.sessions action.session ≠ .aborted) {program : Program σ κ ω ε α}
    {pending : σ → σ} (running : state.config.sessions action.session = .running program pending)
    (ends : (∃ value, program = .done value) ∨ ∃ rest, program = .commit rest) :
    state.commits? action = some (pending state.config.committed) := by
  cases action with
  | abort session =>
      change state.config.sessions session = _ at running
      simp only [Config.step?, running, Option.some.injEq] at possible
      subst possible
      exact absurd (Config.conclude_self ..) whole
  | advance session =>
      change state.config.sessions session = _ at running
      rcases ends with ⟨value, rfl⟩ | ⟨rest, rfl⟩ <;> simp [commits?, running]

omit [DecidableEq κ] in
/-- An action that throws, rolls back or is cut off leaves the committed rows alone. -/
theorem Along.drop {state : Journaled ι σ κ ω ε α} (along : state.Along rely conduct)
    {session : ι} {next : Session σ κ ω ε α} {event : Event ι σ ω ε α}
    (running : ∀ program pending, next = .running program pending →
      ∃ knows : σ → Prop, rely.Stable [] knows ∧ knows state.config.committed ∧
        program.Follows rely (conduct session) ((conduct session).finishes rely)
          (.dropped :: state.journal session) pending [] knows)
    (returned : ∀ outcome, next = .returned outcome →
      (conduct session).ends (.dropped :: state.journal session) outcome) :
    Along rely conduct
      ⟨state.config.conclude session state.config.committed next event,
        Function.update state.journal session (.dropped :: state.journal session)⟩ :=
  along.conclude event [] (by simp) (.inl rfl) along.holds running returned

/-- Whatever the schedule does next, the sessions go on along their texts, and the rows and
the journals change as one `Shift` says. -/
theorem Along.step {state : Journaled ι σ κ ω ε α} (along : state.Along rely conduct)
    (action : Action ι) :
    (state.step action).Along rely conduct ∧
      ∃ committed journal, Shift conduct state action committed journal ∧
        (state.step action).config.committed = committed ∧
        (state.step action).journal =
          Function.update state.journal action.session journal := by
  cases possible : state.config.step? action with
  | none =>
      have still : state.step action = state := by simp [Journaled.step, possible]
      rw [still]
      exact ⟨along, _, _, .still, rfl, (Function.update_eq_self ..).symm⟩
  | some next =>
      obtain ⟨program, pending, running, move⟩ := Config.move_of_action possible
      obtain ⟨rows, knows, mine, stable, known, follows⟩ := along.running _ _ _ running
      have free : state.config.free action.session [] = true := rfl
      have unlocked : state.config.acquire action.session [] = state.config.holder := by
        funext row
        simp [Config.acquire]
      cases move with
      | done value =>
          rw [step_of_some possible rfl]
          obtain ⟨honoured, ends⟩ := follows _ along.holds known
          refine ⟨along.conclude _ rows mine (.inr ⟨honoured.leads, honoured.within⟩) honoured.holds
            (by simp) ?_, _, _, .commit _ ?_ honoured.leaves, rfl, rfl⟩
          · rintro outcome ⟨⟩
            exact ends
          · exact commits?_of_step possible (by simp) running (.inl ⟨value, rfl⟩)
      | throw error =>
          rw [step_of_some possible rfl]
          refine ⟨along.drop (by simp) ?_, _, _, .drop, rfl, rfl⟩
          rintro outcome ⟨⟩
          exact follows
      | select rest =>
          rw [step_of_some possible rfl]
          obtain ⟨learns, holds, learnt, ahead⟩ := follows _ along.holds known
          refine ⟨?_, _, _, .read, rfl, rfl⟩
          have next := along.proceed (.read action.session) free mine holds learnt ahead
          rwa [unlocked] at next
      | wrote label taken applies change rest hit free =>
          rw [step_of_some possible rfl]
          obtain ⟨learns, holds, learnt, ahead⟩ := (follows _ along.holds known).1 hit
          exact ⟨along.proceed _ free mine holds learnt ahead, _, _, .write label, rfl, rfl⟩
      | missed label taken applies change rest miss =>
          rw [step_of_some possible rfl]
          obtain ⟨learns, holds, learnt, ahead⟩ := (follows _ along.holds known).2 miss
          refine ⟨?_, _, _, .still, rfl, rfl⟩
          have next := along.proceed (.missed action.session label) free mine holds learnt ahead
          rwa [unlocked] at next
      | emit label rest =>
          rw [step_of_some possible rfl]
          refine ⟨?_, _, _, .tell label (follows.1 _ along.holds known), rfl, rfl⟩
          have next := along.proceed (.announced action.session label) free mine stable known
            follows.2
          rwa [unlocked] at next
      | commit rest =>
          rw [step_of_some possible rfl]
          obtain ⟨honoured, learns, holds, learnt, ahead⟩ := follows _ along.holds known
          refine ⟨along.conclude _ rows mine (.inr ⟨honoured.leads, honoured.within⟩) honoured.holds
            ?_ (by simp), _, _, .commit _ ?_ honoured.leaves, rfl, rfl⟩
          · rintro text open_ ⟨⟩
            exact ⟨learns, holds, learnt, ahead⟩
          · exact commits?_of_step possible (by simp) running (.inr ⟨rest, rfl⟩)
      | rollback rest =>
          rw [step_of_some possible rfl]
          obtain ⟨learns, holds, learnt, ahead⟩ := follows _ along.holds known
          refine ⟨along.drop ?_ (by simp), _, _, .drop, rfl, rfl⟩
          rintro text open_ ⟨⟩
          exact ⟨learns, holds, learnt, ahead⟩
      | abort =>
          rw [step_of_some possible rfl]
          exact ⟨along.drop (by simp) (by simp), _, _, .drop, rfl, rfl⟩

/-- What every `Shift` that meets the condition keeps of the committed rows and the journals
holds all along a run that meets it. -/
theorem always_of_shifts (Inv : σ → (ι → Journal σ ω) → Prop)
    {C : Journaled ι σ κ ω ε α → Action ι → Prop}
    (keeps : ∀ (state : Journaled ι σ κ ω ε α) action committed journal,
      state.Along rely conduct → Inv state.config.committed state.journal → C state action →
        Shift conduct state action committed journal →
          Inv committed (Function.update state.journal action.session journal))
    {actions : List (Action ι)} {state : Journaled ι σ κ ω ε α}
    (along : state.Along rely conduct) (holds : Inv state.config.committed state.journal)
    (meets : Runs.Throughout step C actions state) :
    Runs.Always step
      (fun state => state.Along rely conduct ∧ Inv state.config.committed state.journal)
      actions state := by
  refine Runs.always_of_throughout ?_ ⟨along, holds⟩ meets
  rintro state action ⟨along, holds⟩ meets
  obtain ⟨next, committed, journal, shift, rows, journals⟩ := along.step action
  refine ⟨next, ?_⟩
  rw [rows, journals]
  exact keeps state action committed journal along holds meets shift

theorem always_of_every_shift (Inv : σ → (ι → Journal σ ω) → Prop)
    (keeps : ∀ (state : Journaled ι σ κ ω ε α) action committed journal,
      state.Along rely conduct → Inv state.config.committed state.journal →
        Shift conduct state action committed journal →
          Inv committed (Function.update state.journal action.session journal))
    (actions : List (Action ι)) {state : Journaled ι σ κ ω ε α}
    (along : state.Along rely conduct) (holds : Inv state.config.committed state.journal) :
    Runs.Always step
      (fun state => state.Along rely conduct ∧ Inv state.config.committed state.journal)
      actions state := by
  have free : Runs.Throughout step (fun _ _ => True) actions state :=
    (Runs.always_of_keeps (fun _ _ _ => trivial) trivial).throughout
  exact always_of_shifts Inv
    (fun state action committed journal along holds _ shift =>
      keeps state action committed journal along holds shift) along holds free

end Journaled

end ReadCommitted
