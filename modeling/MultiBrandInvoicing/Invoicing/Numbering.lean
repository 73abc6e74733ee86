import MultiBrandInvoicing.Invoicing.Creation

/-!
# Allotting invoice numbers

A number that is taken makes `create` fail, and the failure takes the count back with everything
else: the next attempt allots the same number.  So a brand goes on being numbered as long as the
next number is free.
-/

set_option autoImplicit false

namespace MultiBrandInvoicing

namespace Invoicing

open ReadCommitted Program

structure Inserts (store : Store) (draft : Draft) (draw : Draw) (row : InvoiceRow) : Prop where
  customer : store.customerIds.contains draft.customerId = true
  built : ∃ quoted settings, InvoicesService.quoteDraft draft.toInvoiceDraftInput = .ok quoted ∧
    store.settings = some settings ∧ isInt4 (settings.nextSequence + 1) = true ∧
    row = createdRow store.brandId (allottedNumber settings.counted) draft draw quoted.1 quoted.2
  fits : row.fits = true

def Store.inserted (store : Store) (table : InvoiceTable) : Store :=
  { store with settings := store.settings.map NumberSettings.counted, invoices := table }

theorem Inserts.create_alone {store : Store} {draft : Draft} {draw : Draw} {row : InvoiceRow}
    (inserts : Inserts store draft draw row) :
    (create draft draw).alone store =
      match store.invoices.insert? row with
      | some table => .ok (row, store.inserted table)
      | none => .error collision := by
  obtain ⟨customer, ⟨quoted, settings, priced, found, room, rfl⟩, fits⟩ := inserts
  cases taken : store.invoices.insert? (createdRow store.brandId
      (allottedNumber settings.counted) draft draw quoted.1 quoted.2) with
  | none =>
      simp only [create, read_bind, alone, require, customer, if_true, priced, ofExcept_ok,
        done_bind, pure_eq_done, alone_bind, allotNumber_alone, found, room, Except.bind,
        insertInvoice_alone, fits, taken]
  | some table =>
      simp only [create, read_bind, alone, require, customer, if_true, priced, ofExcept_ok,
        done_bind, pure_eq_done, alone_bind, allotNumber_alone, found, room, Except.bind,
        insertInvoice_alone, fits, taken, Store.inserted, Option.map_some]

theorem inserts_of_collision {store : Store} {draft : Draft} {draw : Draw}
    (refused : (create draft draw).alone store = .error collision) :
    ∃ row, Inserts store draft draw row ∧ store.invoices.insert? row = none := by
  simp only [create, read_bind, alone, alone_bind, require_alone, allotNumber_alone,
    insertInvoice_alone] at refused
  split at refused
  case isFalse => cases refused
  case isTrue customer =>
    simp only [Except.bind] at refused
    cases priced : InvoicesService.quoteDraft draft.toInvoiceDraftInput with
    | error error =>
        rw [priced] at refused
        cases refused
    | ok quoted =>
        simp only [priced, ofExcept_ok, alone] at refused
        cases found : store.settings with
        | none =>
            rw [found] at refused
            cases refused
        | some settings =>
            by_cases room : isInt4 (settings.nextSequence + 1) = true
            · simp only [found, room, if_true] at refused
              split at refused
              case isFalse => cases refused
              case isTrue fits =>
                refine ⟨_, ⟨customer, ⟨quoted, settings, priced, found, room, rfl⟩, fits⟩, ?_⟩
                cases inserted : store.invoices.insert? _ with
                | none => rfl
                | some table =>
                    rw [inserted] at refused
                    cases refused
            · simp only [found, room] at refused
              cases refused

theorem create_collides_iff {store : Store} {draft : Draft} {draw : Draw} :
    (create draft draw).alone store = .error collision ↔
      ∃ row, Inserts store draft draw row ∧ store.invoices.insert? row = none := by
  refine ⟨inserts_of_collision, ?_⟩
  rintro ⟨row, inserts, refused⟩
  rw [inserts.create_alone, refused]

theorem create_uncommitted (draft : Draft) (draw : Draw) : (create draft draw).Uncommitted := by
  have requires : ∀ condition error, (require condition error).Uncommitted := by
    intro condition error
    cases condition <;> trivial
  refine Uncommitted.bind (fun _ => trivial) fun store => ?_
  refine Uncommitted.bind (requires _ _) fun _ => ?_
  refine Uncommitted.bind (Uncommitted.ofExcept _ _) fun quoted => ?_
  refine Uncommitted.bind ?_ fun settings => ?_
  · refine Uncommitted.bind (fun _ => trivial) fun updated => ?_
    refine Uncommitted.bind (fun _ => trivial) fun counted => ?_
    cases counted.settings with
    | none => trivial
    | some settings => exact Uncommitted.bind (requires _ _) fun _ => trivial
  · refine Uncommitted.bind (requires _ _) fun _ => ?_
    refine Uncommitted.bind (fun _ => trivial) fun created => ?_
    exact Uncommitted.bind (requires _ _) fun _ => trivial

/-! ## What an attempt depends on -/

structure Fresh (store : Store) (draw : Draw) : Prop where
  id : ∀ row ∈ store.invoices.rows, row.invoice.id ≠ draw.id
  publicToken : ∀ row ∈ store.invoices.rows, row.invoice.publicToken ≠ draw.publicToken

def NextNumberFree (store : Store) : Prop :=
  ∀ settings, store.settings = some settings → allottedNumber settings.counted ∉ store.numbers

/-- `create` gets as far as its insert. -/
def ReachesInsert (store : Store) (draft : Draft) : Prop :=
  ∃ draw row, Inserts store draft draw row

/-- The drawn values change neither whether `create` gets to its insert nor the number. -/
theorem Inserts.redraw {store : Store} {draft : Draft} {draw : Draw} {row : InvoiceRow}
    (inserts : Inserts store draft draw row) (other : Draw) :
    ∃ redrawn, Inserts store draft other redrawn := by
  obtain ⟨customer, ⟨quoted, settings, priced, found, room, rfl⟩, fits⟩ := inserts
  exact ⟨_, customer, ⟨quoted, settings, priced, found, room, rfl⟩, fits⟩

/-- With fresh values the insert is refused if and only if the number is taken. -/
theorem Inserts.refused_iff {store : Store} {draft : Draft} {draw : Draw} {row : InvoiceRow}
    (inserts : Inserts store draft draw row) (fresh : Fresh store draw) :
    store.invoices.insert? row = none ↔ ¬NextNumberFree store := by
  obtain ⟨_, ⟨quoted, settings, _, found, _, rfl⟩, _⟩ := inserts
  rw [← Option.not_isSome_iff_eq_none, UniqueTable.isSome_insert?, not_iff_not]
  simp only [invoiceIndexes, List.forall_mem_cons, List.not_mem_nil, false_imp_iff, implies_true,
    and_true, ne_eq, Option.some.injEq, forall_eq', createdRow, reduceCtorEq]
  constructor
  · rintro ⟨_, _, free⟩ other same taken
    obtain rfl := Option.some.inj (found.symm.trans same)
    obtain ⟨row, listed, number⟩ := List.mem_map.mp taken
    exact free row listed number
  · intro free
    exact ⟨fresh.id, fresh.publicToken, fun other listed number =>
      free settings found (List.mem_map.mpr ⟨other, listed, number⟩)⟩

theorem create_collides_iff_number {store : Store} {draft : Draft} {draw : Draw}
    (fresh : Fresh store draw) :
    (create draft draw).alone store = .error collision ↔
      ReachesInsert store draft ∧ ¬NextNumberFree store := by
  rw [create_collides_iff]
  constructor
  · rintro ⟨row, inserts, refused⟩
    exact ⟨⟨draw, row, inserts⟩, (inserts.refused_iff fresh).mp refused⟩
  · rintro ⟨⟨other, row, inserts⟩, taken⟩
    obtain ⟨redrawn, inserting⟩ := inserts.redraw draw
    exact ⟨redrawn, inserting, (inserting.refused_iff fresh).mpr taken⟩

/-! ## Trying again -/

def afterAttempts (draft : Draft) (draws : ℕ → Draw) (store : Store) : ℕ → Store
  | 0 => store
  | count + 1 =>
      ((create draft (draws count)).exec (afterAttempts draft draws store count)).store

def attempt (draft : Draft) (draws : ℕ → Draw) (store : Store) (index : ℕ) :
    Except ServiceError InvoiceRow :=
  ((create draft (draws index)).exec (afterAttempts draft draws store index)).outcome

/-- A collision leaves everything as it was, so that the next attempt collides again. -/
theorem attempts_collide {draft : Draft} {draws : ℕ → Draw} {store : Store}
    (fresh : ∀ index, Fresh store (draws index)) (reaches : ReachesInsert store draft)
    (taken : ¬NextNumberFree store) (index : ℕ) :
    afterAttempts draft draws store index = store ∧
      attempt draft draws store index = .error collision := by
  have refused : ∀ index, (create draft (draws index)).alone store = .error collision :=
    fun index => (create_collides_iff_number (fresh index)).mpr ⟨reaches, taken⟩
  have same : afterAttempts draft draws store index = store := by
    induction index with
    | zero => rfl
    | succ count ih =>
        rw [afterAttempts, ih]
        exact (create_uncommitted draft (draws count)).store_of_error (refused count)
  refine ⟨same, ?_⟩
  rw [attempt, same, exec, ((create_uncommitted draft (draws index)).execFrom_eq store store).1,
    refused index]
  rfl

/-- With the number free the first attempt succeeds. -/
theorem first_attempt_succeeds {draft : Draft} {draws : ℕ → Draw} {store : Store}
    (fresh : Fresh store (draws 0)) (reaches : ReachesInsert store draft)
    (free : NextNumberFree store) : ∃ row, attempt draft draws store 0 = .ok row := by
  obtain ⟨other, row, inserts⟩ := reaches
  obtain ⟨redrawn, inserting⟩ := inserts.redraw (draws 0)
  cases inserted : store.invoices.insert? redrawn with
  | none => exact absurd free ((inserting.refused_iff fresh).mp inserted)
  | some table =>
      refine ⟨redrawn, ?_⟩
      rw [attempt, afterAttempts, exec,
        ((create_uncommitted draft (draws 0)).execFrom_eq store store).1, inserting.create_alone,
        inserted]
      rfl

/-! ## The numbers of a brand -/

inductive InvoiceCall where
  | create (draft : Draft) (draw : Draw)
  | pull (pulled : PulledInvoice) (draw : Draw)

def InvoiceCall.program : InvoiceCall → Tx Unit
  | .create draft draw => do
      let _ ← Invoicing.create draft draw
      pure ()
  | .pull pulled draw => pullInvoice pulled draw

theorem Store.numbers_nodup (store : Store) : store.numbers.Nodup := by
  have distinct := store.invoices.distinct (fun row => some row.invoice.number)
    (by simp [invoiceIndexes])
  rwa [List.filterMap_eq_map'] at distinct

/-- The numbers stay distinct whatever calls run beside one another, and an attempt that collides
is followed by one that succeeds. -/
structure KeepsNumbering (store : Store) (draft : Draft) (draws : ℕ → Draw) : Prop where
  distinct : ∀ (calls : ℕ → InvoiceCall) (schedule : List (Action ℕ))
    (final : Config ℕ Store RowKey InvoiceEffect ServiceError Unit),
    (Config.start store fun session => (calls session).program).run? schedule = some final →
      final.committed.numbers.Nodup
  progress : attempt draft draws store 0 = .error collision →
    ∃ index row, attempt draft draws store index = .ok row

/-- A brand goes on being numbered if and only if, for a draft that gets as far as its insert,
the number the counter allots next is free. -/
theorem numbering_progress_iff {store : Store} {draft : Draft} {draws : ℕ → Draw}
    (fresh : ∀ index, Fresh store (draws index)) :
    KeepsNumbering store draft draws ↔ (ReachesInsert store draft → NextNumberFree store) := by
  constructor
  · intro keeps reaches
    by_contra taken
    have collides := attempts_collide fresh reaches taken
    obtain ⟨index, row, succeeded⟩ := keeps.progress (collides 0).2
    rw [(collides index).2] at succeeded
    cases succeeded
  · intro free
    refine ⟨fun _ _ final _ => final.committed.numbers_nodup, fun collides => ?_⟩
    have refused : (create draft (draws 0)).alone store = .error collision := by
      rw [attempt, afterAttempts, exec,
        ((create_uncommitted draft (draws 0)).execFrom_eq store store).1] at collides
      cases ran : (create draft (draws 0)).alone store with
      | ok passed =>
          rw [ran] at collides
          cases collides
      | error error =>
          rw [ran] at collides
          exact congrArg Except.error (Except.error.inj collides)
    obtain ⟨reaches, taken⟩ := (create_collides_iff_number (fresh 0)).mp refused
    exact absurd (free reaches) taken

def sampleBrand : Store where
  brandId := "brand"
  customerIds := ["customer"]
  settings := some ⟨"INV", 1⟩
  invoices := UniqueTable.empty

def sampleDraft : Draft where
  currency := .usd
  lines := [⟨"Work", none, "1.5", "20.00", false⟩]
  taxRateBp := 500
  cardFeeRateBp := 300
  notes := none
  customerId := "customer"
  invoiceDate := 1
  dueDate := 2
  internalNotes := none

def sampleDraws (_ : ℕ) : Draw := ⟨"second", "token-2"⟩

theorem numbering_progress_iff_sample : KeepsNumbering sampleBrand sampleDraft sampleDraws :=
  (numbering_progress_iff fun _ =>
    ⟨fun _ none_ => absurd none_ List.not_mem_nil, fun _ none_ => absurd none_ List.not_mem_nil⟩).mpr
    fun _ _ _ => List.not_mem_nil

def samplePulledInvoice : PulledInvoice where
  zohoInvoiceId := "zoho-1"
  customerId := "customer"
  number := "INV-0001"
  status := .sent
  invoiceDate := 1
  dueDate := 2
  currency := "USD"
  totalMinor := 100
  balanceMinor := 100
  zohoSyncedVersion := none

def sampleImported : Store :=
  ((pullInvoice samplePulledInvoice ⟨"first", "token-1"⟩).exec sampleBrand).store

/-- The number of a pulled invoice is the first the brand would allot, and `create` never gets past
it. -/
theorem imported_number_blocks :
    sampleImported.numbers = ["INV-0001"] ∧
      ¬KeepsNumbering sampleImported sampleDraft sampleDraws := by
  have collides : (create sampleDraft (sampleDraws 0)).alone sampleImported =
      .error collision := by decide +kernel
  have fresh : Fresh sampleImported (sampleDraws 0) := ⟨by decide +kernel, by decide +kernel⟩
  refine ⟨by decide +kernel, fun keeps => ?_⟩
  obtain ⟨reaches, taken⟩ := (create_collides_iff_number fresh).mp collides
  have always : ∀ index, afterAttempts sampleDraft sampleDraws sampleImported index =
      sampleImported ∧
        attempt sampleDraft sampleDraws sampleImported index = .error collision :=
    attempts_collide (fun _ => fresh) reaches taken
  obtain ⟨index, row, succeeded⟩ := keeps.progress (always 0).2
  rw [(always index).2] at succeeded
  cases succeeded

end Invoicing

end MultiBrandInvoicing
