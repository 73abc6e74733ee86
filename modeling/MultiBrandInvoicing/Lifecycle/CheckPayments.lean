import MultiBrandInvoicing.Lifecycle.CheckReviews

/-!
# The payments of a check

Any number of submissions, reviews and payments by hand beside one another, cut off anywhere.
The payments they have recorded stand in one list, each with its call, and the invariant says
which of them are for the submission.
-/

set_option autoImplicit false

namespace MultiBrandInvoicing

open ReadCommitted

section Runs

variable {ι : Type} [DecidableEq ι]

abbrev CheckState (ι : Type) := Journaled ι Store RowKey Effect ServiceError Unit

def checkStart (calls : ι → CheckCall) (store : Store) : CheckState ι :=
  Journaled.start store fun session => (calls session).program

variable {checkId : String} {calls : ι → CheckCall} {opened before after : Store}
  {journals : ι → Journal Store Effect} {recorded : List (ι × Payment)}

def IsFor (checkId : String) (calls : ι → CheckCall) (entry : ι × Payment) : Prop :=
  (calls entry.1).approves? = some checkId

/-- What the payments recorded so far say of the rows and of the journals. -/
structure Books (checkId : String) (calls : ι → CheckCall) (opened store : Store)
    (journals : ι → Journal Store Effect) (recorded : List (ι × Payment)) : Prop where
  distinct : (recorded.map Prod.fst).Nodup
  rows : store.payments.rows = opened.payments.rows ++ recorded.map Prod.snd
  marks : ∀ session, session ∈ recorded.map Prod.fst ↔ HasRecorded (journals session)
  drawn : ∀ entry ∈ recorded, (calls entry.1).paymentId? = some entry.2.id
  /-- A payment for the submission has taken the whole balance. -/
  paid : ∀ entry ∈ recorded, IsFor checkId calls entry → store.invoice.balanceMinor ≤ 0 ∧
    ∃ submission ∈ filed checkId store, entry.2.amountMinor = submission.amountMinor
  once : ∀ first ∈ recorded, ∀ second ∈ recorded, IsFor checkId calls first →
    IsFor checkId calls second → first = second
  approved : ∀ submission ∈ filed checkId store, submission.status = .approved →
    ∃ entry ∈ recorded, IsFor checkId calls entry
  /-- What some commit has left closed is still as it left it. -/
  left : ∀ session earlier, .left earlier ∈ journals session →
    ∀ submission ∈ filed checkId earlier, ChecksService.isPending submission = false →
      submission ∈ filed checkId store

omit [DecidableEq ι] in
theorem Books.start (fresh : filed checkId opened = []) :
    Books checkId calls opened opened (fun _ => []) [] where
  distinct := List.nodup_nil
  rows := by simp
  marks := by simp [HasRecorded, Journal.settled]
  drawn := by simp
  paid := by simp
  once := by simp
  approved := by simp [fresh]
  left := by simp

theorem Books.note (books : Books checkId calls opened before journals recorded) (session : ι)
    {entry : Entry Store Effect} (open_ : ∀ store, entry ≠ .left store) :
    Books checkId calls opened before
      (Function.update journals session (entry :: journals session)) recorded := by
  have settled : Journal.settled (entry :: journals session) =
      Journal.settled (journals session) := by
    cases entry with
    | left store => exact absurd rfl (open_ store)
    | _ => rfl
  refine ⟨books.distinct, books.rows, ?_, books.drawn, books.paid, books.once, books.approved, ?_⟩
  · intro other
    rw [books.marks]
    by_cases same : other = session
    · subst same
      rw [Function.update_self]
      simp only [HasRecorded, settled]
    · rw [Function.update_of_ne same]
  · intro other earlier member
    refine books.left other earlier ?_
    by_cases same : other = session
    · subst same
      rw [Function.update_self] at member
      exact (List.mem_cons.mp member).resolve_left fun now => open_ earlier now.symm
    · rwa [Function.update_of_ne same] at member

/-- What a commit adds to the payments a session has recorded. -/
theorem hasRecorded_update (session other : ι) (store : Store) :
    HasRecorded (Function.update journals session (.left store :: journals session) other) ↔
      HasRecorded (journals other) ∨ other = session ∧ Records (journals session) := by
  by_cases same : other = session
  · subst same
    rw [Function.update_self]
    simp only [HasRecorded, Records, Journal.settled, List.mem_append, true_and]
    constructor
    · rintro ⟨label, now | before, recording⟩
      · exact .inr ⟨label, now, recording⟩
      · exact .inl ⟨label, before, recording⟩
    · rintro (⟨label, before, recording⟩ | ⟨label, now, recording⟩)
      · exact ⟨label, .inr before, recording⟩
      · exact ⟨label, .inl now, recording⟩
  · rw [Function.update_of_ne same]
    simp [same]

section Commit

variable {session : ι}

omit [DecidableEq ι] in
/-- What was recorded before a commit, after it. -/
theorem Books.paid_after (books : Books checkId calls opened before journals recorded)
    (lowers : Lowers checkId before after) (entry : ι × Payment) (member : entry ∈ recorded)
    (for_ : IsFor checkId calls entry) : after.invoice.balanceMinor ≤ 0 ∧
      ∃ submission ∈ filed checkId after, entry.2.amountMinor = submission.amountMinor := by
  obtain ⟨cleared, submission, filed_, amount⟩ := books.paid entry member for_
  obtain ⟨next, there, same, _⟩ := lowers.kept submission filed_
  exact ⟨lowers.balance 0 (by decide) cleared, next, there, amount.trans same.symm⟩

theorem Books.left_after (books : Books checkId calls opened before journals recorded)
    (lowers : Lowers checkId before after) (other : ι) (earlier : Store)
    (member : .left earlier ∈
      Function.update journals session (.left after :: journals session) other)
    (submission : CheckSubmission) (there : submission ∈ filed checkId earlier)
    (closed : ChecksService.isPending submission = false) :
    submission ∈ filed checkId after := by
  have old : .left earlier ∈ journals other ∨ earlier = after := by
    by_cases same : other = session
    · subst same
      rw [Function.update_self] at member
      rcases List.mem_cons.mp member with now | before
      · cases now
        exact .inr rfl
      · exact .inl before
    · rw [Function.update_of_ne same] at member
      exact .inl member
  rcases old with known | rfl
  · obtain ⟨next, still, _, same⟩ :=
      lowers.kept submission (books.left other earlier known submission there closed)
    rwa [← same closed]
  · exact there

theorem Books.quiet (books : Books checkId calls opened before journals recorded)
    (lowers : Lowers checkId before after) (quiet : ¬Records (journals session))
    (payments : after.payments.rows = before.payments.rows)
    (approved : ∀ submission ∈ filed checkId after, submission.status = .approved →
      ∃ entry ∈ recorded, IsFor checkId calls entry) :
    Books checkId calls opened after
      (Function.update journals session (.left after :: journals session)) recorded where
  distinct := books.distinct
  rows := payments.trans books.rows
  marks := by
    intro other
    rw [books.marks, hasRecorded_update]
    simp [quiet]
  drawn := books.drawn
  paid := books.paid_after lowers
  once := books.once
  approved := approved
  left := books.left_after lowers

theorem Books.record (books : Books checkId calls opened before journals recorded)
    (covered : Covered checkId before) (lowers : Lowers checkId before after)
    (now : Records (journals session)) (first : ¬HasRecorded (journals session))
    {payment : Payment} (drawn : (calls session).paymentId? = some payment.id)
    (owing : 0 < before.invoice.balanceMinor)
    (payments : after.payments.rows = before.payments.rows ++ [payment])
    (balance : after.invoice.balanceMinor =
      InvoicesService.newBalance before.invoice payment.amountMinor)
    (same : filed checkId after = filed checkId before)
    (wanted : (calls session).approves? = some checkId → ∃ submission ∈ filed checkId before,
      isSafeInteger submission.amountMinor = true ∧
        payment.amountMinor = submission.amountMinor) :
    Books checkId calls opened after
      (Function.update journals session (.left after :: journals session))
      (recorded ++ [(session, payment)]) where
  distinct := by
    have absent : session ∉ recorded.map Prod.fst := fun there =>
      first ((books.marks session).mp there)
    rw [List.map_append, List.nodup_append]
    refine ⟨books.distinct, by simp, ?_⟩
    intro other member last final equal
    rw [List.map_singleton, List.mem_singleton] at final
    rw [equal, final] at member
    exact absent member
  rows := by simp [payments, books.rows]
  marks := by
    intro other
    rw [hasRecorded_update, ← books.marks]
    simp [now]
  drawn := by
    intro entry member
    rcases List.mem_append.mp member with earlier | last
    · exact books.drawn entry earlier
    · rw [List.mem_singleton.mp last]
      exact drawn
  paid := by
    intro entry member for_
    rcases List.mem_append.mp member with earlier | last
    · exact books.paid_after lowers entry earlier for_
    · rw [List.mem_singleton.mp last] at for_ ⊢
      obtain ⟨submission, there, safe, amount⟩ := wanted for_
      refine ⟨?_, submission, by rwa [same], amount⟩
      rw [balance, amount]
      exact InvoicesService.newBalance_nonpos safe (covered.covers submission there safe)
  once := by
    -- A payment for the submission before this one would have left nothing to record.
    have none_ : ∀ entry ∈ recorded, ¬IsFor checkId calls entry := by
      intro entry member for_
      have cleared := (books.paid entry member for_).1
      omega
    intro one oneMember two twoMember oneFor twoFor
    rcases List.mem_append.mp oneMember with earlier | oneLast
    · exact absurd oneFor (none_ one earlier)
    · rcases List.mem_append.mp twoMember with earlier | twoLast
      · exact absurd twoFor (none_ two earlier)
      · rw [List.mem_singleton.mp oneLast, List.mem_singleton.mp twoLast]
  approved := by
    intro submission member approved
    rw [same] at member
    obtain ⟨entry, there, for_⟩ := books.approved submission member approved
    exact ⟨entry, List.mem_append_left _ there, for_⟩
  left := books.left_after lowers

theorem Books.commit (books : Books checkId calls opened before journals recorded)
    (covered : Covered checkId before)
    (leaves : Leaves checkId (calls session) (journals session) before after) :
    ∃ next, Books checkId calls opened after
      (Function.update journals session (.left after :: journals session)) next := by
  have lowers := leaves.lowers
  cases leaves with
  | kept quiet payments balance same =>
      refine ⟨recorded, books.quiet lowers quiet payments ?_⟩
      rw [same]
      exact books.approved
  | filed quiet payments balance row none_ added waiting covers =>
      refine ⟨recorded, books.quiet lowers quiet payments ?_⟩
      intro submission member approved
      rw [added] at member
      rw [List.mem_singleton.mp member, waiting] at approved
      cases approved
  | recorded now first payment drawn positive owing payments balance same wanted =>
      exact ⟨recorded ++ [(session, payment)], books.record covered lowers now first drawn owing
        payments balance same wanted⟩
  | closed quiet payments balance row revised was waiting is amount verdict =>
      refine ⟨recorded, books.quiet lowers quiet payments ?_⟩
      intro submission member approved
      rw [is] at member
      rw [List.mem_singleton.mp member] at approved
      rcases verdict with ⟨_, approves, hasRecorded⟩ | rejected
      · obtain ⟨entry, there, rfl⟩ := List.mem_map.mp ((books.marks session).mpr hasRecorded)
        exact ⟨entry, there, approves⟩
      · rw [rejected] at approved
        cases approved

end Commit

/-- One check, one payment, as far as the code has it: the payments that were recorded, each
with its call, and which of them are for the submission. -/
structure PaidOnce (checkId : String) (calls : ι → CheckCall) (opened : Store)
    (state : CheckState ι) (recorded : List (ι × Payment)) : Prop where
  rows : state.config.committed.payments.rows = opened.payments.rows ++ recorded.map Prod.snd
  distinct : (recorded.map Prod.fst).Nodup
  drawn : ∀ entry ∈ recorded, (calls entry.1).paymentId? = some entry.2.id
  returned : ∀ session, state.config.sessions session = .returned (.ok ()) →
    (calls session).paymentId?.isSome = true → session ∈ recorded.map Prod.fst
  once : ∀ first ∈ recorded, ∀ second ∈ recorded, IsFor checkId calls first →
    IsFor checkId calls second → first = second
  approved : ∀ submission ∈ filed checkId state.config.committed,
    submission.status = .approved →
      ∃ entry ∈ recorded, IsFor checkId calls entry ∧
        entry.2.amountMinor = submission.amountMinor
  rejected : ∀ submission ∈ filed checkId state.config.committed,
    submission.status = .rejected → ∀ entry ∈ recorded, IsFor checkId calls entry →
      state.config.sessions entry.1 ≠ .returned (.ok ())

theorem mem_filed_unique {store : Store} (covered : Covered checkId store)
    {first second : CheckSubmission} (one : first ∈ filed checkId store)
    (two : second ∈ filed checkId store) : first = second := by
  rw [covered.filed_eq two, List.mem_singleton] at one
  exact one

omit [DecidableEq ι] in
theorem Books.paidOnce {state : CheckState ι}
    (along : state.Along (checkRely checkId) fun session => checkConduct checkId (calls session))
    (books : Books checkId calls opened state.config.committed state.journal recorded) :
    PaidOnce checkId calls opened state recorded where
  rows := books.rows
  distinct := books.distinct
  drawn := books.drawn
  returned := by
    intro session returned drawn
    exact (books.marks session).mpr ((along.returned session _ returned rfl).recorded drawn)
  once := books.once
  approved := by
    intro submission member approved
    obtain ⟨entry, there, for_⟩ := books.approved submission member approved
    obtain ⟨_, other, filed_, amount⟩ := books.paid entry there for_
    rw [mem_filed_unique along.holds filed_ member] at amount
    exact ⟨entry, there, for_, amount⟩
  rejected := by
    intro submission member rejected entry there for_ returned
    obtain ⟨earlier, left, closed, filed_, approved⟩ :=
      (along.returned entry.1 _ returned rfl).approved for_
    have still := books.left entry.1 earlier left closed filed_ (by
      simp [ChecksService.isPending, approved])
    rw [mem_filed_unique along.holds still member, rejected] at approved
    cases approved

/-- Whatever submissions, reviews and payments by hand run beside one another, in whatever order
and wherever they are cut off: for a submission that one of them files, at most one payment is
ever recorded; while it stands approved there is exactly that one, of its amount; and where it
stands rejected there is none, unless an approval recorded it and did not get to close the
submission, and then that approval does not return. -/
theorem one_check_one_payment (calls : ι → CheckCall) {opened : Store} {checkId : String}
    (fresh : ∀ other ∈ opened.checkSubmissions, other.id ≠ checkId)
    (schedule : List (Action ι)) :
    Runs.Always Journaled.step
      (fun state : CheckState ι => ∃ recorded, PaidOnce checkId calls opened state recorded)
      schedule (checkStart calls opened) := by
  have none_ : filed checkId opened = [] := filed_eq_nil_iff.mpr fresh
  have along : (checkStart calls opened).Along (checkRely checkId)
      fun session => checkConduct checkId (calls session) :=
    Journaled.start_along ⟨by simp [none_], by simp [none_]⟩ fun session =>
      checkCall_follows (calls session)
  have keeps : ∀ (state : CheckState ι) action committed journal,
      state.Along (checkRely checkId) (fun session => checkConduct checkId (calls session)) →
        (∃ recorded, Books checkId calls opened state.config.committed state.journal recorded) →
          Journaled.Shift (fun session => checkConduct checkId (calls session)) state action
            committed journal →
            ∃ recorded, Books checkId calls opened committed
              (Function.update state.journal action.session journal) recorded := by
    rintro state action committed journal along ⟨recorded, books⟩ shift
    cases shift with
    | still =>
        rw [Function.update_eq_self]
        exact ⟨recorded, books⟩
    | read => exact ⟨recorded, books.note action.session (by simp)⟩
    | write label => exact ⟨recorded, books.note action.session (by simp)⟩
    | tell label tells => exact ⟨recorded, books.note action.session (by simp)⟩
    | commit after commits leaves => exact books.commit along.holds leaves
    | drop => exact ⟨recorded, books.note action.session (by simp)⟩
  have always := Journaled.always_of_every_shift
    (fun store journals => ∃ recorded, Books checkId calls opened store journals recorded)
    keeps schedule along ⟨[], .start none_⟩
  exact always.mono fun state both => by
    obtain ⟨recorded, books⟩ := both.2
    exact ⟨recorded, books.paidOnce both.1⟩

end Runs

def sampleChecks : Option Bool → CheckCall
  | none => .submitCheck samplePayer "check" sampleCheckInput
  | some true => .approve (.user "ada") "brand" "check" "m1" "m1" none 0
  | some false => .reject (.user "bob") "brand" "check" (some "unsigned") 0

/-- The check is filed and approved, and the rejection comes too late. -/
def sampleApproval : List (Action (Option Bool)) :=
  List.replicate 4 (.advance none) ++ List.replicate 11 (.advance (some true)) ++
    List.replicate 3 (.advance (some false))

theorem one_check_one_payment_sample :
    let opened := (sampleIssue GatewayWebhookEvent).perform sampleEnv sampleInvoice
    Runs.Always Journaled.step
      (fun state : CheckState (Option Bool) =>
        ∃ recorded, PaidOnce "check" sampleChecks opened state recorded)
      sampleApproval (checkStart sampleChecks opened) :=
  one_check_one_payment sampleChecks (by
    intro other member
    cases member) sampleApproval

def sampleLostApproval : List (Action (Option Bool)) :=
  List.replicate 4 (.advance none) ++ List.replicate 9 (.advance (some true)) ++
    List.replicate 4 (.advance (some false)) ++ List.replicate 2 (.advance (some true))

theorem rejected_check_paid :
    let opened := (sampleIssue GatewayWebhookEvent).perform sampleEnv sampleInvoice
    let final := sampleLostApproval.foldl Journaled.step (checkStart sampleChecks opened)
    final.config.committed.checkSubmissions.map CheckSubmission.status = [.rejected] ∧
      final.config.committed.payments.rows.map Payment.id = ["m1"] := by
  decide +kernel

end MultiBrandInvoicing
