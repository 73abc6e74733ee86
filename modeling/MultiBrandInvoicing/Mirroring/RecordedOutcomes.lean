import MultiBrandInvoicing.Integrations.RecordedJobs

/-!
# What a caller sees of a recorded job

The writes that record a job are guarded, so that none of them can take the place of what the job
came to.  An error that is not worth a retry is thrown on as one that stops the queue, and keeps
neither its type nor its class: a job whose cascade has failed with it records another one.
-/

set_option autoImplicit false

namespace MultiBrandInvoicing

namespace RecordedJobs

open Faults Work PushJobs

/-! ## Retries and classes -/

/-- Whether the error itself is worth a retry: of the classes only `TRANSIENT` is. -/
def retryable : PushError → Bool
  | .integration errorClass _ => errorClass = .transient
  | .unrecoverable _ => false
  | .other _ => true

def queueRetries : PushError → Bool
  | .unrecoverable _ => false
  | _ => true

/-- The class that is recorded for the error is also recorded for what it is thrown on as. -/
def KeepsClass : PushError → Prop
  | .integration errorClass _ => errorClass = .transient ∨ errorClass = .permanent
  | _ => True

instance : ∀ error, Decidable (KeepsClass error)
  | .integration errorClass _ =>
      inferInstanceAs (Decidable (errorClass = .transient ∨ errorClass = .permanent))
  | .unrecoverable _ => .isTrue trivial
  | .other _ => .isTrue trivial

theorem queueRetries_rethrown (error : PushError) :
    queueRetries error.rethrown = retryable error := by
  cases error with
  | integration errorClass message => cases errorClass <;> rfl
  | unrecoverable message => rfl
  | other message => rfl

theorem recordedClass_rethrown_iff (error : PushError) :
    recordedClass error.rethrown = recordedClass error ↔ KeepsClass error := by
  cases error with
  | integration errorClass message =>
      cases errorClass <;> simp [PushError.rethrown, recordedClass, KeepsClass]
  | unrecoverable message => exact iff_of_true rfl trivial
  | other message => exact iff_of_true rfl trivial

/-! ## The tail of a failure -/

section Failures

variable {α : Type} {state : Recorded} {fates : List (Fate PushError)}

def Recorded.failedClass? (state : Recorded) (job : Nat) : Option ErrorClass :=
  state.syncJobs[job]?.bind fun row =>
    match row.status with
    | .failed errorClass _ => some errorClass
    | _ => none

theorem recordUnhealthy_returned (state : Recorded) (error : PushError) (uncut : Uncut 1 fates) :
    ∃ left later, recordUnhealthy error state fates = ⟨.returned (), left, later⟩ := by
  unfold recordUnhealthy
  split
  next message =>
    obtain ⟨left, ran⟩ := guarded_call_returned (fun state : Recorded =>
      .ok ((), { state with failureReason := some message })) state rfl uncut
    exact ⟨left, _, ran⟩
  next => exact ⟨state, fates, rfl⟩

theorem recordFailure_ending (job : Nat) (error : PushError) (uncut : Uncut 2 fates) :
    ((recordFailure job error : Job α) state fates).ending = .threw error.rethrown := by
  obtain ⟨left, updated⟩ := guarded_call_returned (fun state : Recorded =>
    .ok ((), state.finish job (failedWith error))) state rfl uncut
  obtain ⟨marked, later, ran⟩ := recordUnhealthy_returned left error uncut.tail
  rw [recordFailure, updateSyncJob, bind_of_returned updated, bind_of_returned ran]
  rfl

theorem keeps_recordUnhealthy (rows : List SyncJobRow) (error : PushError) :
    Keeps (fun state : Recorded => state.syncJobs = rows) (recordUnhealthy error) := by
  unfold recordUnhealthy
  split
  next =>
    refine Keeps.guarded_ (Keeps.call_ ?_)
    rintro state _ _ same ⟨⟩
    exact same
  next => exact Keeps.pure_ ()

theorem recordFailure_syncJobs (job : Nat) (error : PushError) :
    ((recordFailure job error : Job α) state fates).state.syncJobs =
      if carriedOut fates then (state.finish job (failedWith error)).syncJobs
      else state.syncJobs := by
  have updated := guarded_call_state (fun state : Recorded =>
    .ok ((), state.finish job (failedWith error))) state rfl fates
  have rest : ∀ left later, ((recordUnhealthy error >>= fun _ =>
      (throw error.rethrown : Job α)) left later).state.syncJobs = left.syncJobs := by
    intro left later
    have keeps : Keeps (fun state : Recorded => state.syncJobs = left.syncJobs)
        (recordUnhealthy error >>= fun _ => (throw error.rethrown : Job α)) :=
      (keeps_recordUnhealthy left.syncJobs error).bind_ fun _ => Keeps.throw_ _
    exact keeps.at_end later rfl
  have same : ((recordFailure job error : Job α) state fates).state.syncJobs =
      (guarded (updateSyncJob job (failedWith error)) state fates).state.syncJobs := by
    unfold recordFailure
    rcases ran : guarded (updateSyncJob job (failedWith error)) state fates with
      ⟨value | thrown | _, left, later⟩
    · rw [bind_of_returned ran]
      exact rest left later
    · rw [bind_of_threw ran]
    · rw [bind_of_cut ran]
  rw [same, updateSyncJob, updated]
  split <;> rfl

theorem recordFailure_failedClass {job : Nat} (here : job < state.syncJobs.length)
    (carried : carriedOut fates = true) (error : PushError) :
    ((recordFailure job error : Job α) state fates).state.failedClass? job =
      some (recordedClass error) := by
  rw [Recorded.failedClass?, recordFailure_syncJobs, if_pos carried]
  simp [Recorded.finish, List.getElem?_eq_getElem here, failedWith]

end Failures

/-! ## One job -/

section Jobs

variable {objectType : Kind} {objectId : String} {work : Job Unit} {state started left : Recorded}
  {fates early later : List (Fate PushError)} {job : Nat}

theorem runJob_threw {error : PushError}
    (created : createSyncJob objectType objectId state fates = ⟨.returned job, started, early⟩)
    (threw : work started early = ⟨.threw error, left, later⟩) :
    runJob objectType objectId work state fates = recordFailure job error left later := by
  rw [runJob, bind_of_returned created]
  exact attempt_of_threw (bind_of_threw threw _) _

theorem runJob_returned
    (created : createSyncJob objectType objectId state fates = ⟨.returned job, started, early⟩)
    (returned : work started early = ⟨.returned (), left, later⟩) (uncut : Uncut 2 later) :
    (runJob objectType objectId work state fates).ending = .returned () := by
  obtain ⟨updated, first⟩ := guarded_call_returned (fun state : Recorded =>
    .ok ((), state.finish job .succeeded)) left rfl uncut
  obtain ⟨synced, second⟩ := guarded_call_returned (fun state : Recorded =>
    .ok ((), { state with failureReason := none })) updated rfl uncut.tail
  have ran : (work >>= fun _ => guarded (updateSyncJob job .succeeded) >>= fun _ =>
      guarded recordSyncRun) started early = ⟨.returned (), synced, later.tail.tail⟩ := by
    rw [bind_of_returned returned, updateSyncJob, bind_of_returned first]
    exact second
  rw [runJob, bind_of_returned created]
  refine (congrArg Ran.ending (attempt_of_quiet ?_ _)).trans (congrArg Ran.ending ran)
  intro error threw
  rw [ran] at threw
  cases threw

theorem runJob_cut
    (created : createSyncJob objectType objectId state fates = ⟨.returned job, started, early⟩)
    (cut : work started early = ⟨.cut, left, later⟩) :
    (runJob objectType objectId work state fates).ending = .cut := by
  have ran : ∀ next : Unit → Job Unit, (work >>= next) started early = ⟨.cut, left, later⟩ :=
    fun next => bind_of_cut cut next
  rw [runJob, bind_of_returned created]
  refine (congrArg Ran.ending (attempt_of_quiet ?_ _)).trans (congrArg Ran.ending (ran _))
  intro error threw
  rw [ran] at threw
  cases threw

/-- The result of the work, or an error that the queue treats as the work's own: the same one if
it is worth a retry. -/
def Sees (done seen : Ending PushError Unit) : Prop :=
  match done with
  | .returned value => seen = .returned value
  | .threw error => ∃ thrown, seen = .threw thrown ∧ queueRetries thrown = retryable error ∧
      (retryable error = true → thrown = error)
  | .cut => seen = .cut

theorem rethrown_of_retryable {error : PushError} (retries : retryable error = true) :
    error.rethrown = error := by
  cases error with
  | integration errorClass message =>
      have transient : errorClass = .transient := by simpa [retryable] using retries
      rw [transient]
      rfl
  | unrecoverable message => rfl
  | other message => rfl

/-- Whatever fails of the writes after the work, the caller of the job sees the work. -/
theorem runJob_sees
    (created : createSyncJob objectType objectId state fates = ⟨.returned job, started, early⟩)
    (uncut : Uncut 2 (work started early).fates) :
    Sees (work started early).ending (runJob objectType objectId work state fates).ending := by
  rcases ran : work started early with ⟨value | error | _, left, later⟩
  · rw [ran] at uncut
    exact runJob_returned created ran uncut
  · rw [ran] at uncut
    refine ⟨error.rethrown, ?_, queueRetries_rethrown error, rethrown_of_retryable⟩
    rw [runJob_threw created ran]
    exact recordFailure_ending job error uncut
  · exact runJob_cut created ran

end Jobs

theorem recordPull_eq {α : Type} {job : JobAnswers} (created : job.create = .fulfilled ())
    (updates : job.update ≠ .pending) (marks : job.markUnhealthy ≠ .pending)
    (work : Promise PullError α) : PullBrand.recordPull job work = work := by
  have quiet : ∀ {promise : Promise PullError Unit}, promise ≠ .pending →
      promise.guarded = .fulfilled () := by
    intro promise settles
    cases promise with
    | pending => exact absurd rfl settles
    | _ => rfl
  have unhealthy : ∀ error, PullBrand.recordUnhealthy job error = .fulfilled () := by
    intro error
    unfold PullBrand.recordUnhealthy
    split
    next => exact quiet marks
    next => rfl
  unfold PullBrand.recordPull
  rw [created, Promise.fulfilled_bind]
  cases work with
  | pending => rfl
  | fulfilled value => simp [quiet updates]
  | rejected error => simp [quiet updates, unhealthy]

/-! ## A job whose cascade fails -/

/-- The run opens the brand, creates the row `outer` of the job and reads what it is about; the
push it starts by then runs as `ran`. -/
def Reaches {β : Type} (objectType : Kind) (objectId : String) (read : Job β)
    (cascade : β → Job Unit) (state : Recorded) (fates : List (Fate PushError)) (outer : Nat)
    (ran : Ran Recorded PushError Unit) : Prop :=
  ∃ opened started arrived : Recorded, ∃ f₁ f₂ f₃ : List (Fate PushError), ∃ value : β,
    gate (some ConnectionRow.invoiceSyncEnabled) objectType objectId state fates =
        ⟨.returned true, opened, f₁⟩ ∧
      createSyncJob objectType objectId opened f₁ = ⟨.returned outer, started, f₂⟩ ∧
      read started f₂ = ⟨.returned value, arrived, f₃⟩ ∧ cascade value arrived f₃ = ran

inductive CascadingJob where
  | pushInvoice (invoiceId : String)
  | pushPayment (paymentId : String)
  deriving DecidableEq, Repr

namespace CascadingJob

variable (books : ZohoBooks PushError)

def push : CascadingJob → Job Unit
  | pushInvoice invoiceId => RecordedJobs.pushInvoice books invoiceId
  | pushPayment paymentId => RecordedJobs.pushPayment books paymentId

def Reaches (job : CascadingJob) (state : Recorded) (fates : List (Fate PushError)) (outer : Nat)
    (ran : Ran Recorded PushError Unit) : Prop :=
  match job with
  | pushInvoice invoiceId =>
      RecordedJobs.Reaches .invoice invoiceId (lift (readInvoice invoiceId))
        (cascadeCustomer books) state fates outer ran
  | pushPayment paymentId =>
      RecordedJobs.Reaches .payment paymentId (lift (readPayment paymentId))
        (cascadeInvoice books) state fates outer ran

end CascadingJob

/-! ### No row is lost -/

section Rows

variable {count : Nat}

def HasRows (count : Nat) (state : Recorded) : Prop := count < state.syncJobs.length

theorem keeps_lift {α : Type} (push : Push α) : Keeps (HasRows count) (lift push) := by
  intro state fates start
  unfold lift
  rcases push state.world fates with ⟨_ | _ | _, left, later⟩
  · exact start
  · exact start
  · exact start

theorem keeps_createSyncJob (objectType : Kind) (objectId : String) :
    Keeps (HasRows count) (createSyncJob objectType objectId) := by
  refine Keeps.call_ ?_
  rintro state _ _ start ⟨⟩
  simp only [HasRows, Recorded.begin, List.length_append, List.length_singleton] at start ⊢
  omega

theorem keeps_updateSyncJob (job : Nat) (status : SyncJobStatus) :
    Keeps (HasRows count) (guarded (updateSyncJob job status)) := by
  refine Keeps.guarded_ (Keeps.call_ ?_)
  rintro state _ _ start ⟨⟩
  simpa [HasRows, Recorded.finish] using start

theorem keeps_recordFailure {α : Type} (job : Nat) (error : PushError) :
    Keeps (HasRows count) (recordFailure job error : Job α) := by
  refine (keeps_updateSyncJob job _).bind_ fun _ => Keeps.bind_ ?_ fun _ => Keeps.throw_ _
  unfold recordUnhealthy
  split
  next =>
    refine Keeps.guarded_ (Keeps.call_ ?_)
    rintro state _ _ start ⟨⟩
    exact start
  next => exact Keeps.pure_ ()

theorem keeps_runJob {objectType : Kind} {objectId : String} {work : Job Unit}
    (keeps : Keeps (HasRows count) work) :
    Keeps (HasRows count) (runJob objectType objectId work) := by
  refine (keeps_createSyncJob objectType objectId).bind_ fun job =>
    Keeps.attempt_ ?_ fun error => keeps_recordFailure job error
  refine keeps.bind_ fun _ => (keeps_updateSyncJob job _).bind_ fun _ => ?_
  refine Keeps.guarded_ (Keeps.call_ ?_)
  rintro state _ _ start ⟨⟩
  exact start

theorem keeps_whenOpen {flag : Option (ConnectionRow → Bool)} {objectType : Kind}
    {objectId : String} {push : Job Unit} (keeps : Keeps (HasRows count) push) :
    Keeps (HasRows count) (whenOpen flag objectType objectId push) := by
  have resolves : Keeps (HasRows count) (resolveConnection objectType objectId) :=
    (keeps_lift _).attempt_ fun error => (keeps_createSyncJob objectType objectId).bind_
      fun job => keeps_recordFailure job error
  have connects : Keeps (HasRows count) (connected objectType objectId) := by
    refine (keeps_lift _).bind_ fun scope => ?_
    cases scope with
    | false => exact Keeps.pure_ false
    | true => exact resolves
  refine Keeps.bind_ (connects.bind_ fun open_ => ?_) fun isOpen => ?_
  · cases open_ with
    | false => exact Keeps.pure_ false
    | true => exact keeps_lift _
  · cases isOpen with
    | false => exact Keeps.pure_ ()
    | true => exact keeps

variable (books : ZohoBooks PushError)

theorem keeps_cascadeCustomer (read : InvoiceRow × PushJobs.CustomerRow) :
    Keeps (HasRows count) (cascadeCustomer books read) := by
  unfold cascadeCustomer
  split
  next => exact keeps_whenOpen (keeps_runJob (keeps_lift _))
  next => exact Keeps.pure_ ()

theorem keeps_cascadeInvoice (read : PaymentRead) :
    Keeps (HasRows count) (cascadeInvoice books read) := by
  unfold cascadeInvoice
  split
  next =>
    refine keeps_whenOpen (keeps_runJob ((keeps_lift _).bind_ fun invoice => ?_))
    exact (keeps_cascadeCustomer books invoice).bind_ fun _ => keeps_lift _
  next => exact Keeps.pure_ ()

end Rows

/-! ### The outer job -/

section Outer

variable {β : Type} {objectType : Kind} {objectId : String} {read : Job β} {cascade : β → Job Unit}
  {rest : β → Job Unit} {state last : Recorded} {fates later : List (Fate PushError)}
  {outer : Nat} {thrown : PushError}

theorem Reaches.push (reaches : Reaches objectType objectId read cascade state fates outer
      ⟨.threw thrown, last, later⟩) :
    whenOpen (some ConnectionRow.invoiceSyncEnabled) objectType objectId
        (runJob objectType objectId (read >>= fun value => cascade value >>= fun _ => rest value))
        state fates = recordFailure outer thrown last later := by
  obtain ⟨opened, started, arrived, f₁, f₂, f₃, value, gated, created, arrives, threw⟩ := reaches
  rw [whenOpen, bind_of_returned gated, if_pos rfl]
  refine runJob_threw created ?_
  rw [bind_of_returned arrives, bind_of_threw threw]

theorem Reaches.hasRow (reads : ∀ count, Keeps (HasRows count) read)
    (cascades : ∀ count value, Keeps (HasRows count) (cascade value))
    (reaches : Reaches objectType objectId read cascade state fates outer
      ⟨.threw thrown, last, later⟩) : outer < last.syncJobs.length := by
  obtain ⟨opened, started, arrived, f₁, f₂, f₃, value, _, created, arrives, threw⟩ := reaches
  have row : HasRows outer started := by
    have fresh : Meets (fun _ => True) (createSyncJob objectType objectId)
        (fun job state => HasRows job state) fun _ => True := by
      refine Meets.call_ (fun _ _ => trivial) ?_
      rintro state _ _ _ ⟨⟩
      simp [HasRows, Recorded.begin]
    have ended : (createSyncJob objectType objectId opened f₁).ending = .returned outer := by
      rw [created]
    have there := fresh.of_returned trivial ended
    rwa [created] at there
  have kept := (reads outer).at_end f₂ row
  rw [arrives] at kept
  have left := (cascades outer value).at_end f₃ kept
  rwa [threw] at left

end Outer

theorem CascadingJob.Reaches.outcome {books : ZohoBooks PushError} {job : CascadingJob}
    {state last : Recorded} {fates later : List (Fate PushError)} {outer : Nat}
    {thrown : PushError}
    (reaches : job.Reaches books state fates outer ⟨.threw thrown, last, later⟩) :
    job.push books state fates = recordFailure outer thrown last later ∧
      outer < last.syncJobs.length := by
  cases job with
  | pushInvoice invoiceId =>
      exact ⟨RecordedJobs.Reaches.push reaches, RecordedJobs.Reaches.hasRow
        (fun _ => keeps_lift _) (fun _ => keeps_cascadeCustomer books) reaches⟩
  | pushPayment paymentId =>
      exact ⟨RecordedJobs.Reaches.push reaches, RecordedJobs.Reaches.hasRow
        (fun _ => keeps_lift _) (fun _ => keeps_cascadeInvoice books) reaches⟩

def RetriesAs (ran : Ran Recorded PushError Unit) (error : PushError) : Prop :=
  ∃ thrown, ran.ending = .threw thrown ∧ queueRetries thrown = retryable error

/-- A job takes over what its cascade has thrown, with its class. -/
theorem CascadingJob.Reaches.takes_over {books : ZohoBooks PushError} {job : CascadingJob}
    {state last : Recorded} {fates later : List (Fate PushError)} {outer : Nat}
    {thrown : PushError}
    (reaches : job.Reaches books state fates outer ⟨.threw thrown, last, later⟩) :
    (Uncut 2 later → RetriesAs (job.push books state fates) thrown) ∧
      (carriedOut later = true →
        (job.push books state fates).state.failedClass? outer = some (recordedClass thrown)) := by
  obtain ⟨done, here⟩ := reaches.outcome
  rw [done]
  exact ⟨fun uncut => ⟨_, recordFailure_ending outer thrown uncut, queueRetries_rethrown thrown⟩,
    fun carried => recordFailure_failedClass here carried thrown⟩

theorem retryable_rethrown (error : PushError) : retryable error.rethrown = retryable error := by
  cases error with
  | integration errorClass message => cases errorClass <;> rfl
  | unrecoverable message => rfl
  | other message => rfl

/-! ## Nothing that is recorded masks the outcome -/

/-- The caller of a job sees its work, whichever of the writes after it fail, and so does the
caller of a pull.  A job takes over what its cascade throws, with its retry decision and class.
Where the inner push has recorded a failure, the retry decision is the one of that failure, and
the class is exactly if it is kept by throwing the failure on. -/
theorem bookkeeping_masks_nothing_iff (books : ZohoBooks PushError) :
    (∀ objectType objectId work state fates job started early,
      createSyncJob objectType objectId state fates = ⟨.returned job, started, early⟩ →
        Uncut 2 (work started early).fates →
          Sees (work started early).ending (runJob objectType objectId work state fates).ending) ∧
      (∀ (α : Type) (job : JobAnswers) (work : Promise PullError α),
        job.create = .fulfilled () → job.update ≠ .pending → job.markUnhealthy ≠ .pending →
          PullBrand.recordPull job work = work) ∧
      (∀ (job : CascadingJob) state fates outer thrown last later,
        job.Reaches books state fates outer ⟨.threw thrown, last, later⟩ →
          (Uncut 2 later → RetriesAs (job.push books state fates) thrown) ∧
            (carriedOut later = true → (job.push books state fates).state.failedClass? outer =
              some (recordedClass thrown))) ∧
      ∀ (job : CascadingJob) state fates outer inner error failing early last later,
        job.Reaches books state fates outer (recordFailure inner error failing early) →
          (recordFailure inner error : Job Unit) failing early =
              ⟨.threw error.rethrown, last, later⟩ →
            (Uncut 2 later → RetriesAs (job.push books state fates) error) ∧
              (carriedOut later = true →
                ((job.push books state fates).state.failedClass? outer =
                    some (recordedClass error) ↔ KeepsClass error)) := by
  refine ⟨fun _ _ _ _ _ _ _ _ created uncut => runJob_sees created uncut,
    fun _ _ work created updates marks => recordPull_eq created updates marks work,
    fun _ _ _ _ _ _ _ reaches => reaches.takes_over, ?_⟩
  intro job state fates outer inner error failing early last later reaches recorded
  rw [recorded] at reaches
  obtain ⟨retries, records⟩ := reaches.takes_over
  refine ⟨fun uncut => ?_, fun carried => ?_⟩
  · obtain ⟨thrown, ended, decided⟩ := retries uncut
    exact ⟨thrown, ended, decided.trans (retryable_rethrown error)⟩
  · rw [records carried, Option.some.injEq]
    exact recordedClass_rethrown_iff error

/-! ## A customer without a name -/

def sampleNameless : Recorded where
  world := { sampleWorld true true with
    rows := sampleRows.reviseCustomer "customer" (fun row =>
      { row with customer := { row.customer with displayName := "" } }) fun _ => rfl }
  syncJobs := []
  failureReason := none

def sampleNameError : PushError := .integration .validation "customer has no display name"

def sampleFailing : Recorded :=
  (lift (customerWork sampleBooks "customer")
    ((sampleNameless.begin .invoice "invoice").begin .contact "customer") []).state

def sampleFailed : Recorded := sampleFailing.finish 1 (failedWith sampleNameError)

theorem sampleNameless_reaches :
    CascadingJob.Reaches sampleBooks (.pushInvoice "invoice") sampleNameless [] 0
      (recordFailure 1 sampleNameError sampleFailing []) :=
  ⟨sampleNameless, sampleNameless.begin .invoice "invoice",
    sampleNameless.begin .invoice "invoice", [], [], [], _, rfl, rfl, rfl, rfl⟩

def sampleLogError : PushError := .other "the database is not there"

theorem bookkeeping_masks_nothing_iff_sample :
    Sees (.returned ()) (runJob .contact "customer" (pure ()) sampleNameless
        [.answered, .failed false sampleLogError, .failed true sampleLogError]).ending ∧
      PullBrand.recordPull
          ⟨.fulfilled (), .rejected (.unknown "log"), .rejected (.unknown "health")⟩
          (.rejected (.integration .authentication "revoked") : Promise PullError Unit) =
        .rejected (.integration .authentication "revoked") ∧
      RetriesAs (pushInvoice sampleBooks "invoice" sampleNameless [])
        (.unrecoverable "customer has no display name") ∧
      RetriesAs (pushInvoice sampleBooks "invoice" sampleNameless []) sampleNameError ∧
      (pushInvoice sampleBooks "invoice" sampleNameless []).state.failedClass? 0 ≠
        some .validation := by
  obtain ⟨jobs, pulls, throws, records⟩ := bookkeeping_masks_nothing_iff sampleBooks
  have uncut : Uncut 2 ([] : List (Fate PushError)) := fun _ => List.not_mem_nil
  obtain ⟨retries, keeps⟩ := records (.pushInvoice "invoice") sampleNameless [] 0 1 sampleNameError
    sampleFailing [] sampleFailed [] sampleNameless_reaches rfl
  refine ⟨?_, ?_, ?_, retries uncut, ?_⟩
  · refine jobs .contact "customer" (pure ()) sampleNameless _ 0
      (sampleNameless.begin .contact "customer")
      [.failed false sampleLogError, .failed true sampleLogError] rfl ?_
    intro performed member
    simp [pure, Work.pure] at member
  · exact pulls Unit _ _ rfl (by simp) (by simp)
  · exact (throws (.pushInvoice "invoice") sampleNameless [] 0 _ sampleFailed []
      sampleNameless_reaches).1 uncut
  · intro recorded
    exact absurd ((keeps rfl).mp recorded) (by decide)

/-- The push of a customer without a name fails as VALIDATION, and the push of the invoice that has
asked for it as PERMANENT. -/
theorem cascade_records_other_class :
    (pushInvoice sampleBooks "invoice" sampleNameless []).ending =
        .threw (.unrecoverable "customer has no display name") ∧
      (pushInvoice sampleBooks "invoice" sampleNameless []).state.failedClass? 1 =
        some .validation ∧
      (pushInvoice sampleBooks "invoice" sampleNameless []).state.failedClass? 0 =
        some .permanent :=
  ⟨rfl, rfl, rfl⟩

end RecordedJobs

end MultiBrandInvoicing
