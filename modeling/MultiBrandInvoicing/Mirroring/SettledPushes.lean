import MultiBrandInvoicing.Mirroring.EnqueuedPushes

/-!
# Pushes of settled payments

A job reads the payment it is to push and never looks at its status (`pushPayment` in
`zoho-sync.service.ts`).  The calls and the runs of their jobs take their steps in any order,
and the queue runs a job as soon as it has been enqueued.
-/

set_option autoImplicit false

namespace MultiBrandInvoicing

open ReadCommitted ZohoSyncService

namespace SettledPushes

inductive Run (ι : Type) where
  | idle
  | queued (session : ι) (paymentId : String)
  | read (session : ι) (payment : AccountingPayment)
  | posted (session : ι) (paymentId : String)

namespace Run

variable {ι : Type}

def about? : Run ι → Option (ι × String)
  | idle => none
  | queued session paymentId => some (session, paymentId)
  | read session payment => some (session, payment.localId)
  | posted session paymentId => some (session, paymentId)

def creates? : Run ι → Option (ι × AccountingPayment)
  | read session payment => some (session, payment)
  | _ => none

end Run

structure World (ι ρ : Type) where
  calls : Journaled ι Store RowKey Effect ServiceError Unit
  runs : ρ → Run ι
  customerPayments : List AccountingPayment

inductive Action (ι ρ : Type) where
  | call (action : ReadCommitted.Action ι)
  | start (run : ρ) (session : ι) (brandId paymentId : String)
  | read (run : ρ) (invoiceRemoteId customerRemoteId : String)
  | post (run : ρ)
  | store (run : ρ)
  | fail (run : ρ) (again : Bool)

section Machine

variable {ι ρ π : Type}

def World.start (env : Env) (calls : ι → SettlingCall π) (store : Store) : World ι ρ where
  calls := Journaled.start store fun session => (calls session).program env
  runs := fun _ => .idle
  customerPayments := []

def World.moved [DecidableEq ρ] (world : World ι ρ) (run : ρ) (stage : Run ι) : World ι ρ :=
  { world with runs := Function.update world.runs run stage }

def World.committed (world : World ι ρ) : Store := world.calls.config.committed

/-- A run that has been handed its job reads the row as it is committed now.  A payment that
cannot be pushed fails its job for good; any other failure may have the queue run it again. -/
def World.step [DecidableEq ι] [DecidableEq ρ] (world : World ι ρ) : Action ι ρ → World ι ρ
  | .call action => { world with calls := world.calls.step action }
  | .start run session brandId paymentId =>
      match world.runs run with
      | .idle =>
          if .enqueue (.pushPayment brandId paymentId) ∈ (world.calls.journal session).messages then
            world.moved run (.queued session paymentId)
          else world
      | _ => world
  | .read run invoiceRemoteId customerRemoteId =>
      match world.runs run with
      | .queued session paymentId =>
          match world.committed.payments.rows.find? fun payment => payment.id = paymentId with
          | none => world
          | some payment =>
              let dto := toAccountingPayment payment invoiceRemoteId customerRemoteId
              if (validatePaymentForSync dto).isSome then world.moved run .idle
              else world.moved run (.read session dto)
      | _ => world
  | .post run =>
      match world.runs run with
      | .read session payment =>
          { world with customerPayments := world.customerPayments ++ [payment] }.moved run
            (.posted session payment.localId)
      | _ => world
  | .store run =>
      match world.runs run with
      | .posted _ _ => world.moved run .idle
      | _ => world
  | .fail run again =>
      match (world.runs run).about? with
      | some (session, paymentId) =>
          world.moved run (if again then .queued session paymentId else .idle)
      | none => world

def CreatesSettled (world : World ι ρ) : Action ι ρ → Prop
  | .post run => ∀ creates ∈ (world.runs run).creates?,
      world.committed.hasSettled creates.2.localId = true
  | _ => True

def hasReturned : Session Store RowKey Effect ServiceError Unit → Bool
  | .returned (.ok _) => true
  | _ => false

/-- No payment that was settled is left unsettled. -/
def KeepsSettled (before after : Store) : Prop :=
  ∀ row ∈ before.payments.rows, PaymentPushes.settledPaymentStatuses.contains row.status = true →
    after.hasSettled row.id = true

/-- What a confirmation has enqueued is pushed when it has returned, and no commit takes a
payment out of the settled statuses. -/
def Careful (calls : ι → SettlingCall π) (world : World ι ρ) : Action ι ρ → Prop
  | .call action => ∀ after ∈ world.calls.commits? action, KeepsSettled world.committed after
  | .post run => ∀ creates ∈ (world.runs run).creates?, (calls creates.1).confirms = true →
      hasReturned (world.calls.config.sessions creates.1) = true
  | _ => True

instance (before after : Store) : Decidable (KeepsSettled before after) :=
  inferInstanceAs (Decidable (∀ row ∈ before.payments.rows, _ → _))

instance (calls : ι → SettlingCall π) (world : World ι ρ) :
    ∀ action, Decidable (Careful calls world action)
  | .call action =>
      inferInstanceAs (Decidable (∀ after ∈ world.calls.commits? action, KeepsSettled _ after))
  | .post run => inferInstanceAs (Decidable (∀ creates ∈ (world.runs run).creates?, _ → _))
  | .start _ _ _ _ => .isTrue trivial
  | .read _ _ _ => .isTrue trivial
  | .store _ => .isTrue trivial
  | .fail _ _ => .isTrue trivial

/-! ## Every job is one of a settled payment -/

/-- What a call has left settled still is, and what one has enqueued after its commit it has
left settled. -/
structure Accounted (calls : ι → SettlingCall π) (committed : Store)
    (journals : ι → Journal Store Effect) : Prop where
  kept : ∀ session paymentId, LeftSettled (journals session) paymentId →
    committed.hasSettled paymentId = true
  backed : ∀ session, (calls session).confirms = false → Backed (journals session)

structure Sound (calls : ι → SettlingCall π) (world : World ι ρ) : Prop where
  along : world.calls.Along paymentRely fun session => enqueueConduct (calls session)
  accounted : Accounted calls world.committed world.calls.journal
  enqueued : ∀ run, ∀ job ∈ (world.runs run).about?,
    ∃ brandId, .told (.enqueue (.pushPayment brandId job.2)) ∈ world.calls.journal job.1

theorem KeepsSettled.hasSettled {before after : Store} (keeps : KeepsSettled before after)
    {paymentId : String} (settled : before.hasSettled paymentId = true) :
    after.hasSettled paymentId = true := by
  obtain ⟨row, member, here⟩ := List.any_eq_true.mp settled
  obtain ⟨named, final⟩ : row.id = paymentId ∧
      PaymentPushes.settledPaymentStatuses.contains row.status = true := by simpa using here
  exact named ▸ keeps row member final

variable {calls : ι → SettlingCall π} {world : World ι ρ}

theorem leftSettled_cons {journal : Journal Store Effect} {paymentId : String}
    (entry : Entry Store Effect) (left : LeftSettled journal paymentId) :
    LeftSettled (entry :: journal) paymentId := by
  obtain ⟨store, member, settled⟩ := left
  exact ⟨store, List.mem_cons_of_mem _ member, settled⟩

theorem Sound.start (env : Env) (calls : ι → SettlingCall π) (store : Store) :
    Sound calls (World.start env calls store : World ι ρ) where
  along := Journaled.start_along trivial fun session => settlingCall_follows env (calls session)
  accounted := ⟨by rintro _ _ ⟨_, ⟨⟩, _⟩, by rintro _ _ _ _ ⟨⟩⟩
  enqueued := by rintro _ _ ⟨⟩

theorem Sound.createsSettled (sound : Sound calls world) {action : Action ι ρ}
    (careful : Careful calls world action) : CreatesSettled world action := by
  cases action with
  | post run =>
      intro creates reads
      have about : (world.runs run).about? = some (creates.1, creates.2.localId) := by
        cases stage : world.runs run with
        | read session payment =>
            rw [stage] at reads
            cases reads
            rfl
        | _ =>
            rw [stage] at reads
            cases reads
      obtain ⟨brandId, told⟩ := sound.enqueued run _ about
      refine sound.accounted.kept creates.1 creates.2.localId ?_
      cases confirms : (calls creates.1).confirms with
      | false => exact sound.accounted.backed creates.1 confirms brandId _ told
      | true =>
          have returned := careful creates reads confirms
          cases ended : world.calls.config.sessions creates.1 with
          | returned outcome =>
              rw [ended] at returned
              cases outcome with
              | ok value =>
                  exact sound.along.returned creates.1 _ ended rfl confirms brandId _ told
              | error error => cases returned
          | running program pending =>
              rw [ended] at returned
              cases returned
          | aborted =>
              rw [ended] at returned
              cases returned
  | _ => trivial

theorem moved_self [DecidableEq ρ] {run : ρ} {stage : Run ι} :
    (world.moved run stage).runs run = stage :=
  Function.update_self ..

theorem moved_apart [DecidableEq ρ] {run other : ρ} {stage : Run ι} (apart : other ≠ run) :
    (world.moved run stage).runs other = world.runs other :=
  Function.update_of_ne apart ..

theorem Sound.moved [DecidableEq ρ] (sound : Sound calls world) {run : ρ} {stage : Run ι}
    (its : ∀ job ∈ stage.about?,
      ∃ brandId, .told (.enqueue (.pushPayment brandId job.2)) ∈ world.calls.journal job.1) :
    Sound calls (world.moved run stage) := by
  refine ⟨sound.along, sound.accounted, fun other job about => ?_⟩
  by_cases same : other = run
  · subst same
    rw [moved_self] at about
    exact its job about
  · rw [moved_apart same] at about
    exact sound.enqueued other job about

variable [DecidableEq ι]

/-- One more entry of a journal. -/
theorem Accounted.entry {committed after : Store} {journals : ι → Journal Store Effect}
    (accounted : Accounted calls committed journals) {session : ι} {entry : Entry Store Effect}
    (kept : ∀ paymentId, committed.hasSettled paymentId = true →
      after.hasSettled paymentId = true)
    (left : ∀ store, entry = .left store → store = after)
    (told : ∀ brandId paymentId, entry = .told (.enqueue (.pushPayment brandId paymentId)) →
      (calls session).confirms = false → LeftSettled (journals session) paymentId) :
    Accounted calls after (Function.update journals session (entry :: journals session)) := by
  constructor
  · rintro other paymentId ⟨store, member, settled⟩
    by_cases same : other = session
    · subst same
      rw [Function.update_self] at member
      rcases List.mem_cons.mp member with new | earlier
      · rwa [left store new.symm] at settled
      · exact kept _ (accounted.kept other paymentId ⟨store, earlier, settled⟩)
    · rw [Function.update_of_ne same] at member
      exact kept _ (accounted.kept other paymentId ⟨store, member, settled⟩)
  · intro other late brandId paymentId member
    by_cases same : other = session
    · subst same
      rw [Function.update_self] at member ⊢
      rcases List.mem_cons.mp member with new | earlier
      · exact leftSettled_cons _ (told brandId paymentId new.symm late)
      · exact leftSettled_cons _ (accounted.backed other late brandId paymentId earlier)
    · rw [Function.update_of_ne same] at member ⊢
      exact accounted.backed other late brandId paymentId member

theorem Accounted.shift {state : Journaled ι Store RowKey Effect ServiceError Unit}
    {action : ReadCommitted.Action ι} {committed : Store} {journal : Journal Store Effect}
    (accounted : Accounted calls state.config.committed state.journal)
    (careful : ∀ after ∈ state.commits? action, KeepsSettled state.config.committed after)
    (shift : Journaled.Shift (fun session => enqueueConduct (calls session)) state action
      committed journal) :
    Accounted calls committed (Function.update state.journal action.session journal) := by
  cases shift with
  | still => rwa [Function.update_eq_self]
  | read => exact accounted.entry (fun _ => id) (fun _ => nofun) fun _ _ => nofun
  | write label => exact accounted.entry (fun _ => id) (fun _ => nofun) fun _ _ => nofun
  | tell label tells =>
      refine accounted.entry (fun _ => id) (fun _ => nofun) fun brandId paymentId same late => ?_
      exact tells late brandId paymentId (Entry.told.inj same)
  | commit after commits leaves =>
      refine accounted.entry (fun _ => (careful committed commits).hasSettled) ?_ fun _ _ => nofun
      rintro store ⟨⟩
      rfl
  | drop => exact accounted.entry (fun _ => id) (fun _ => nofun) fun _ _ => nofun

theorem Sound.call (sound : Sound calls world) {action : ReadCommitted.Action ι}
    (careful : Careful calls world (.call action)) :
    Sound calls { world with calls := world.calls.step action } := by
  obtain ⟨along, committed, journal, shift, rows, journals⟩ := sound.along.step action
  have grows : ∀ session entry, entry ∈ world.calls.journal session →
      entry ∈ Function.update world.calls.journal action.session journal session := by
    intro session entry member
    by_cases same : session = action.session
    · subst same
      rw [Function.update_self]
      cases shift with
      | still => exact member
      | _ => exact List.mem_cons_of_mem _ member
    · rwa [Function.update_of_ne same]
  refine ⟨along, ?_, fun run job about => ?_⟩
  · rw [World.committed, rows, journals]
    exact sound.accounted.shift careful shift
  · obtain ⟨brandId, told⟩ := sound.enqueued run job about
    refine ⟨brandId, ?_⟩
    rw [journals]
    exact grows job.1 _ told

variable [DecidableEq ρ]

theorem Sound.step (sound : Sound calls world) {action : Action ι ρ}
    (careful : Careful calls world action) : Sound calls (world.step action) := by
  cases action with
  | call action => exact sound.call careful
  | start run session brandId paymentId =>
      simp only [World.step]
      split
      next =>
        split
        next enqueued =>
          refine sound.moved ?_
          rintro job ⟨⟩
          obtain ⟨entry, member, told⟩ := List.mem_filterMap.mp enqueued
          cases entry with
          | told label =>
              cases told
              exact ⟨brandId, member⟩
          | _ => cases told
        next => exact sound
      next => exact sound
  | read run invoiceRemoteId customerRemoteId =>
      simp only [World.step]
      split
      next session paymentId queued =>
        split
        next => exact sound
        next payment found =>
          split
          next => exact sound.moved nofun
          next =>
            refine sound.moved ?_
            rintro job ⟨⟩
            have named : payment.id = paymentId := by simpa using List.find?_some found
            have told := sound.enqueued run (session, paymentId) (by rw [queued]; rfl)
            rwa [← named] at told
      next => exact sound
  | post run =>
      simp only [World.step]
      split
      next session payment reads =>
        have posted : Sound calls
            { world with customerPayments := world.customerPayments ++ [payment] } :=
          ⟨sound.along, sound.accounted, sound.enqueued⟩
        refine posted.moved ?_
        rintro job ⟨⟩
        exact sound.enqueued run (session, payment.localId) (by rw [reads]; rfl)
      next => exact sound
  | store run =>
      simp only [World.step]
      split
      next => exact sound.moved nofun
      next => exact sound
  | fail run again =>
      simp only [World.step]
      split
      next session paymentId about =>
        refine sound.moved fun job its => ?_
        cases again with
        | true =>
            cases its
            exact sound.enqueued run (session, paymentId) about
        | false => cases its
      next => exact sound

/-- In every interleaving of the calls and of the runs of their jobs, as long as its steps are
careful, customer payments are created for settled payments only. -/
theorem only_settled_pushed (env : Env) (calls : ι → SettlingCall π) (store : Store)
    (actions : List (Action ι ρ))
    (careful : Runs.Throughout World.step (Careful calls) actions
      (World.start env calls store)) :
    Runs.Throughout World.step CreatesSettled actions (World.start env calls store) := by
  have always : Runs.Always World.step (Sound calls) actions
      (World.start env calls store : World ι ρ) :=
    Runs.always_of_throughout (fun _ _ sound careful => sound.step careful)
      (Sound.start env calls store) careful
  refine (always.throughout.and careful).mono ?_
  rintro world action ⟨sound, careful⟩
  exact sound.createsSettled careful

end Machine

/-! ## A settlement that is rolled back -/

def sampleConfirmation : SettlingCall GatewayWebhookEvent :=
  .confirmClientResult (sampleGateway "pi" .succeeded 2000) 3000 samplePayer "pi"

def sampleUnderWay : Store :=
  (sampleAttempt "pi" .processing 1000).perform sampleEnv
    ((sampleIssue GatewayWebhookEvent).perform sampleEnv sampleInvoice)

def sampleWorld : World Unit Unit :=
  World.start sampleEnv (fun _ => sampleConfirmation) sampleUnderWay

def sampleOpen : List (Action Unit Unit) := List.replicate 5 (.call (.advance ()))

def samplePush : List (Action Unit Unit) :=
  [.start () () "brand" "pi", .read () "z1" "c1", .post ()]

def sampleRolledBack : List (Action Unit Unit) :=
  sampleOpen ++ samplePush ++ [.call (.abort ())]

/-- The customer payment is created, and then the settlement is rolled back. -/
theorem rolled_back_settlement_pushed :
    ¬Runs.Throughout World.step CreatesSettled (sampleOpen ++ samplePush) sampleWorld ∧
      (sampleRolledBack.foldl World.step sampleWorld).customerPayments.length = 1 ∧
      (sampleRolledBack.foldl World.step sampleWorld).committed.hasSettled "pi" = false := by
  refine ⟨fun settled => ?_, by decide, by decide⟩
  have last : sampleOpen ++ samplePush = sampleOpen ++ samplePush.dropLast ++ [.post ()] := rfl
  rw [last] at settled
  exact absurd (settled.at_end _ rfl) (by decide)

theorem only_settled_pushed_sample :
    Runs.Throughout World.step CreatesSettled
      (sampleOpen ++ List.replicate 2 (.call (.advance ())) ++ samplePush) sampleWorld :=
  only_settled_pushed sampleEnv (fun _ => sampleConfirmation) sampleUnderWay _ (by decide)

end SettledPushes

end MultiBrandInvoicing
