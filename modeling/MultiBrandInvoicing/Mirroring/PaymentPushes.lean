import Mathlib.Logic.Function.Basic
import MultiBrandInvoicing.Integrations.ZohoSync
import MultiBrandInvoicing.Transitions.Runs

/-!
# Jobs that push one payment

A settlement, a backfill and an operator each enqueue a job for the payment, and the queue
runs one that has failed again.  A run reads the row, creates a customer payment in Zoho and
stores its id (`pushPayment` in `zoho-sync.service.ts` and in `zoho-books.adapter.ts`); any
number of them may be under way at once, and each may end at any point.  The adapter creates
a payment whether or not the row names one.
-/

set_option autoImplicit false

namespace MultiBrandInvoicing

open ZohoSyncService

namespace PaymentPushes

inductive Source where
  | settlement | backfill | retrySyncJob
  deriving DecidableEq, Repr

def settledPaymentStatuses : List PaymentStatus := [.settled, .partiallyRefunded, .refunded]

/-- Where a run stands: it has read the row with the id it names, or has created the customer
payment with this id and not stored it yet. -/
inductive Run where
  | idle
  | queued
  | read (payment : AccountingPayment) (zohoPaymentId : Option Nat)
  | posted (remoteId : Nat)

def Run.underWay : Run → Bool
  | .read _ _ => true
  | .posted _ => true
  | .idle => false
  | .queued => false

/-- The row, the customer payments that Zoho has for it, by id, with what they were created
from, and the ids of those whose run ended before it stored the id. -/
structure World (ι : Type) where
  payment : Payment
  zohoPaymentId : Option Nat
  customerPayments : List AccountingPayment
  lost : List Nat
  runs : ι → Run

/-- What a run reads of the invoice and its customer is what their own pushes have stored. -/
inductive Action (ι : Type) where
  | enqueue (run : ι) (source : Source)
  | read (run : ι) (invoiceRemoteId customerRemoteId : String)
  | post (run : ι)
  | store (run : ι)
  | fail (run : ι) (again : Bool)

section Machine

variable {ι : Type}

/-- Only the backfill looks at the row before it enqueues. -/
def World.enqueues (world : World ι) : Source → Bool
  | .settlement => true
  | .backfill =>
      world.zohoPaymentId.isNone && settledPaymentStatuses.contains world.payment.status
  | .retrySyncJob => true

def World.moved [DecidableEq ι] (world : World ι) (run : ι) (stage : Run) : World ι :=
  { world with runs := Function.update world.runs run stage }

/-- What its stage does not allow changes nothing.  A payment that cannot be pushed fails its
job for good; any other failure may have the queue run the job again. -/
def World.step [DecidableEq ι] (world : World ι) : Action ι → World ι
  | .enqueue run source =>
      match world.runs run with
      | .idle => if world.enqueues source then world.moved run .queued else world
      | _ => world
  | .read run invoiceRemoteId customerRemoteId =>
      match world.runs run with
      | .queued =>
          let payment := toAccountingPayment world.payment invoiceRemoteId customerRemoteId
          if (validatePaymentForSync payment).isSome then world.moved run .idle
          else world.moved run (.read payment world.zohoPaymentId)
      | _ => world
  | .post run =>
      match world.runs run with
      | .read payment _ =>
          { world with customerPayments := world.customerPayments ++ [payment] }.moved run
            (.posted world.customerPayments.length)
      | _ => world
  | .store run =>
      match world.runs run with
      | .posted remoteId => { world with zohoPaymentId := some remoteId }.moved run .idle
      | _ => world
  | .fail run again =>
      let next := if again then .queued else .idle
      match world.runs run with
      | .idle => world
      | .posted remoteId => { world with lost := remoteId :: world.lost }.moved run next
      | _ => world.moved run next

/-! ## One customer payment -/

def OnePayment (world : World ι) : Prop := world.customerPayments.length ≤ 1

/-- A run reads the row only while it names no payment, while no other run is under way, and
if no run has ended between creating a payment and storing its id. -/
def Careful (world : World ι) : Action ι → Prop
  | .read run _ _ => world.runs run = .queued →
      world.zohoPaymentId = none ∧ world.lost = [] ∧
        ∀ other, (world.runs other).underWay = false
  | _ => True

structure Start (world : World ι) : Prop where
  runs : ∀ run, world.runs run = .idle
  zohoPaymentId : world.zohoPaymentId = none
  customerPayments : world.customerPayments = []

/-- The id of every customer payment is stored, lost or in the hands of the run that created
it; one run is under way at most, and one that is yet to create a payment finds none. -/
structure Accounted (world : World ι) : Prop where
  one : OnePayment world
  ids : ∀ remoteId < world.customerPayments.length, world.zohoPaymentId = some remoteId ∨
    remoteId ∈ world.lost ∨ ∃ run, world.runs run = .posted remoteId
  alone : ∀ first second, (world.runs first).underWay = true →
    (world.runs second).underWay = true → first = second
  reading : ∀ run payment named, world.runs run = .read payment named →
    world.customerPayments = []
  posted : ∀ run remoteId, world.runs run = .posted remoteId →
    remoteId < world.customerPayments.length

variable {world : World ι}

theorem Start.accounted (start : Start world) : Accounted world where
  one := by
    rw [OnePayment, start.customerPayments]
    exact Nat.zero_le 1
  ids := by
    rw [start.customerPayments]
    exact nofun
  alone := by
    intro first second under
    rw [start.runs first] at under
    cases under
  reading := by
    intro run payment named reads
    rw [start.runs run] at reads
    cases reads
  posted := by
    intro run remoteId posted
    rw [start.runs run] at posted
    cases posted

theorem Accounted.empty (accounted : Accounted world) (unnamed : world.zohoPaymentId = none)
    (kept : world.lost = []) (quiet : ∀ run, (world.runs run).underWay = false) :
    world.customerPayments = [] := by
  by_contra some_
  rcases accounted.ids 0 (List.length_pos_iff.mpr some_) with named | gone | ⟨run, posted⟩
  · rw [unnamed] at named
    cases named
  · rw [kept] at gone
    cases gone
  · have idle := quiet run
    rw [posted] at idle
    cases idle

variable [DecidableEq ι]

theorem moved_runs (run : ι) (stage : Run) :
    (world.moved run stage).runs = Function.update world.runs run stage := rfl

theorem moved_apart {run other : ι} {stage : Run} (apart : other ≠ run) :
    (world.moved run stage).runs other = world.runs other := by
  rw [moved_runs, Function.update_of_ne apart]

theorem moved_self (run : ι) (stage : Run) : (world.moved run stage).runs run = stage := by
  rw [moved_runs, Function.update_self]

theorem Accounted.stopped (accounted : Accounted world) {run : ι} {stage : Run}
    (stops : stage.underWay = false)
    (settled : ∀ remoteId, world.runs run = .posted remoteId →
      world.zohoPaymentId = some remoteId ∨ remoteId ∈ world.lost) :
    Accounted (world.moved run stage) where
  one := accounted.one
  ids := by
    intro remoteId within
    rcases accounted.ids remoteId within with named | gone | ⟨other, posted⟩
    · exact .inl named
    · exact .inr (.inl gone)
    · by_cases same : other = run
      · subst same
        rcases settled remoteId posted with named | gone
        · exact .inl named
        · exact .inr (.inl gone)
      · exact .inr (.inr ⟨other, by rw [moved_apart same]; exact posted⟩)
  alone := by
    have before : ∀ moving, ((world.moved run stage).runs moving).underWay = true →
        (world.runs moving).underWay = true := by
      intro moving under
      by_cases same : moving = run
      · subst same
        rw [moved_self, stops] at under
        cases under
      · rw [moved_apart same] at under
        exact under
    intro first second firstUnder secondUnder
    exact accounted.alone first second (before first firstUnder) (before second secondUnder)
  reading := by
    intro moving payment named reads
    by_cases same : moving = run
    · subst same
      rw [moved_self] at reads
      rw [reads] at stops
      cases stops
    · rw [moved_apart same] at reads
      exact accounted.reading moving payment named reads
  posted := by
    intro moving remoteId posted
    by_cases same : moving = run
    · subst same
      rw [moved_self] at posted
      rw [posted] at stops
      cases stops
    · rw [moved_apart same] at posted
      exact accounted.posted moving remoteId posted

theorem Accounted.read (accounted : Accounted world) {run : ι} {payment : AccountingPayment}
    {named : Option Nat} (empty : world.customerPayments = [])
    (quiet : ∀ other, (world.runs other).underWay = false) :
    Accounted (world.moved run (.read payment named)) where
  one := accounted.one
  ids := by
    intro remoteId within
    have none : remoteId < world.customerPayments.length := within
    rw [empty] at none
    cases none
  alone := by
    have only : ∀ moving, ((world.moved run (.read payment named)).runs moving).underWay = true →
        moving = run := by
      intro moving under
      by_contra apart
      rw [moved_apart apart, quiet moving] at under
      cases under
    intro first second firstUnder secondUnder
    rw [only first firstUnder, only second secondUnder]
  reading := fun _ _ _ _ => empty
  posted := by
    intro moving remoteId posted
    have under := quiet moving
    by_cases same : moving = run
    · subst same
      rw [moved_self] at posted
      cases posted
    · rw [moved_apart same] at posted
      rw [posted] at under
      cases under

theorem Accounted.post (accounted : Accounted world) {run : ι} {payment : AccountingPayment}
    {named : Option Nat} (reads : world.runs run = .read payment named) :
    Accounted ({ world with customerPayments := world.customerPayments ++ [payment] }.moved run
      (.posted world.customerPayments.length)) := by
  have empty := accounted.reading run payment named reads
  have under : (world.runs run).underWay = true := by
    rw [reads]
    rfl
  have only : ∀ moving, ((({ world with
      customerPayments := world.customerPayments ++ [payment] } : World ι).moved run
        (.posted world.customerPayments.length)).runs moving).underWay = true →
      moving = run := by
    intro moving moves
    by_contra apart
    rw [moved_apart apart] at moves
    exact apart (accounted.alone moving run moves under)
  refine ⟨?_, ?_, ?_, ?_, ?_⟩
  · change (world.customerPayments ++ [payment]).length ≤ 1
    rw [empty]
    exact le_rfl
  · intro remoteId within
    have within : remoteId < (world.customerPayments ++ [payment]).length := within
    rw [empty] at within
    refine .inr (.inr ⟨run, ?_⟩)
    rw [moved_self, empty, Nat.lt_one_iff.mp within]
    rfl
  · intro first second firstUnder secondUnder
    rw [only first firstUnder, only second secondUnder]
  · intro moving other id reading
    have same : moving = run := only moving (by rw [reading]; rfl)
    subst same
    rw [moved_self] at reading
    cases reading
  · intro moving remoteId posted
    have same : moving = run := only moving (by rw [posted]; rfl)
    subst same
    rw [moved_self] at posted
    cases posted
    change world.customerPayments.length < (world.customerPayments ++ [payment]).length
    simp

theorem Accounted.store (accounted : Accounted world) {run : ι} {remoteId : Nat}
    (posted : world.runs run = .posted remoteId) :
    Accounted ({ world with zohoPaymentId := some remoteId }.moved run .idle) := by
  have within := accounted.posted run remoteId posted
  have stored : Accounted { world with zohoPaymentId := some remoteId } := by
    refine ⟨accounted.one, fun other its => ?_, accounted.alone, accounted.reading,
      accounted.posted⟩
    have one : world.customerPayments.length ≤ 1 := accounted.one
    have its : other < world.customerPayments.length := its
    exact .inl (congrArg some (by omega))
  refine stored.stopped rfl fun other its => .inl ?_
  rw [posted] at its
  cases its
  rfl

theorem Accounted.lose (accounted : Accounted world) {run : ι} {remoteId : Nat} {next : Run}
    (posted : world.runs run = .posted remoteId) (stops : next.underWay = false) :
    Accounted ({ world with lost := remoteId :: world.lost }.moved run next) := by
  have lost : Accounted { world with lost := remoteId :: world.lost } := by
    refine ⟨accounted.one, fun other its => ?_, accounted.alone, accounted.reading,
      accounted.posted⟩
    rcases accounted.ids other its with named | gone | posted
    · exact .inl named
    · exact .inr (.inl (List.mem_cons_of_mem _ gone))
    · exact .inr (.inr posted)
  refine lost.stopped stops fun other its => .inr ?_
  rw [posted] at its
  cases its
  exact List.mem_cons_self

theorem Accounted.step (accounted : Accounted world) {action : Action ι}
    (careful : Careful world action) : Accounted (world.step action) := by
  cases action with
  | enqueue run source =>
      simp only [World.step]
      split
      next idle =>
        split
        next => exact accounted.stopped rfl fun _ posted => by rw [idle] at posted; cases posted
        next => exact accounted
      next => exact accounted
  | read run invoiceRemoteId customerRemoteId =>
      simp only [World.step]
      split
      next queued =>
        split
        next => exact accounted.stopped rfl fun _ posted => by rw [queued] at posted; cases posted
        next =>
          obtain ⟨unnamed, kept, quiet⟩ := careful queued
          exact accounted.read (accounted.empty unnamed kept quiet) quiet
      next => exact accounted
  | post run =>
      simp only [World.step]
      split
      next payment named reads => exact accounted.post reads
      next => exact accounted
  | store run =>
      simp only [World.step]
      split
      next remoteId posted => exact accounted.store posted
      next => exact accounted
  | fail run again =>
      have stops : (if again then Run.queued else .idle).underWay = false := by
        cases again <;> rfl
      simp only [World.step]
      split
      next => exact accounted
      next remoteId posted => exact accounted.lose posted stops
      next _ apart =>
        exact accounted.stopped stops fun remoteId posted => absurd posted (apart remoteId)

/-- In every interleaving of the runs of a payment's jobs, as long as its steps are careful,
Zoho has at most one customer payment for it. -/
theorem creates_at_most_one_payment (start : Start world) {actions : List (Action ι)}
    (careful : Runs.Throughout World.step Careful actions world) :
    Runs.Always World.step OnePayment actions world :=
  (Runs.always_of_throughout (fun _ _ accounted careful => accounted.step careful)
    start.accounted careful).mono fun _ accounted => accounted.one

end Machine

/-! ## A retry and a second job -/

def sampleSettled : World Bool where
  payment := {
    id := "payment"
    brandId := "brand"
    method := .card
    amountMinor := 10000
    currency := "USD"
    status := .settled
    idempotencyKey := "key" }
  zohoPaymentId := none
  customerPayments := []
  lost := []
  runs := fun _ => .idle

theorem sampleSettled_start : Start sampleSettled := ⟨fun _ => rfl, rfl, rfl⟩

def sampleRetried : List (Action Bool) :=
  [.enqueue true .settlement, .read true "invoice" "contact", .fail true true,
    .read true "invoice" "contact", .post true, .store true]

theorem creates_at_most_one_payment_sample :
    Runs.Always World.step OnePayment sampleRetried sampleSettled := by
  refine creates_at_most_one_payment sampleSettled_start
    ⟨trivial, fun _ => ⟨rfl, rfl, ?_⟩, trivial, fun _ => ⟨rfl, rfl, ?_⟩, trivial, trivial, trivial⟩
  · decide +kernel
  · decide +kernel

def sampleLost : List (Action Bool) :=
  [.enqueue true .settlement, .read true "invoice" "contact", .post true, .fail true true,
    .read true "invoice" "contact", .post true]

/-- The webhook and the confirmation of the customer's browser both enqueue a job. -/
def sampleTwice : List (Action Bool) :=
  [.enqueue true .settlement, .enqueue false .settlement, .read true "invoice" "contact",
    .post true, .store true, .read false "invoice" "contact", .post false]

theorem second_run_creates_again :
    ¬Runs.Always World.step OnePayment sampleLost sampleSettled ∧
      ¬Runs.Always World.step OnePayment sampleTwice sampleSettled := by
  constructor
  · intro always
    have two : (sampleLost.foldl World.step sampleSettled).customerPayments.length = 2 := by
      decide +kernel
    have one := always.last
    rw [OnePayment, two] at one
    exact absurd one (by decide)
  · intro always
    have two : (sampleTwice.foldl World.step sampleSettled).customerPayments.length = 2 := by
      decide +kernel
    have one := always.last
    rw [OnePayment, two] at one
    exact absurd one (by decide)

end PaymentPushes

end MultiBrandInvoicing
