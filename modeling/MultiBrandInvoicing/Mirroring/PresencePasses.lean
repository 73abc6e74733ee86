import Mathlib.Data.List.Basic
import Mathlib.Data.List.Nodup
import MultiBrandInvoicing.Integrations.ZohoPresence

/-!
# A whole presence pass

`reconcileContactPresence` and `reconcileInvoicePresence` of
`apps/api/src/integrations/zoho-pull.service.ts` over the rows of a brand, with nothing beside
them: the local read, which rows are picked, and the two updates.
-/

set_option autoImplicit false

namespace MultiBrandInvoicing

open ZohoPullService

namespace PresencePasses

/-! ## Tables -/

structure LocalTable (ρ : Type) where
  rows : List (String × ρ)
  keys : (rows.map Prod.fst).Nodup

namespace LocalTable

variable {ρ : Type}

def select (table : LocalTable ρ) (test : ρ → Bool) : List String :=
  (table.rows.filter fun entry => test entry.2).map Prod.fst

def revised (rows : List (String × ρ)) (ids : List String) (change : ρ → ρ) : List (String × ρ) :=
  rows.map fun entry => (entry.1, if ids.contains entry.1 then change entry.2 else entry.2)

theorem keys_revised (rows : List (String × ρ)) (ids : List String) (change : ρ → ρ) :
    (revised rows ids change).map Prod.fst = rows.map Prod.fst := by
  rw [revised, List.map_map]
  rfl

def updateMany (table : LocalTable ρ) (ids : List String) (change : ρ → ρ) : LocalTable ρ where
  rows := revised table.rows ids change
  keys := by
    rw [keys_revised]
    exact table.keys

/-- Two updates of rows that were picked by one read. -/
def reconcile (table : LocalTable ρ) (missing back : ρ → Bool) (mark restore : ρ → ρ) :
    LocalTable ρ :=
  (table.updateMany (table.select missing) mark).updateMany (table.select back) restore

def Relates (R : ρ → ρ → Prop) (before after : LocalTable ρ) : Prop :=
  List.Forall₂ (fun old new => new.1 = old.1 ∧ R old.2 new.2) before.rows after.rows

theorem mem_select (table : LocalTable ρ) {entry : String × ρ} (member : entry ∈ table.rows)
    (test : ρ → Bool) : entry.1 ∈ table.select test ↔ test entry.2 = true := by
  unfold select
  rw [List.mem_map]
  constructor
  · rintro ⟨other, selected, same⟩
    obtain ⟨listed, passes⟩ := List.mem_filter.mp selected
    have one : other = entry := List.inj_on_of_nodup_map table.keys listed member same
    exact one ▸ passes
  · intro passes
    exact ⟨entry, List.mem_filter.mpr ⟨member, passes⟩, rfl⟩

def reconciledRow (missing back : ρ → Bool) (mark restore : ρ → ρ) (row : ρ) : ρ :=
  let first := if missing row then mark row else row
  if back row then restore first else first

theorem reconcile_rows (table : LocalTable ρ) (missing back : ρ → Bool) (mark restore : ρ → ρ) :
    (table.reconcile missing back mark restore).rows =
      table.rows.map fun entry => (entry.1, reconciledRow missing back mark restore entry.2) := by
  simp only [reconcile, updateMany, revised, List.map_map]
  refine List.map_congr_left fun entry member => ?_
  have picks : ∀ test : ρ → Bool, (table.select test).contains entry.1 = test entry.2 := by
    intro test
    rw [Bool.eq_iff_iff, List.contains_iff_mem]
    exact table.mem_select member test
  simp only [Function.comp, picks, reconciledRow]

theorem relates_reconcile (table : LocalTable ρ) {missing back : ρ → Bool} {mark restore : ρ → ρ}
    {R : ρ → ρ → Prop} (each : ∀ row, R row (reconciledRow missing back mark restore row)) :
    table.Relates R (table.reconcile missing back mark restore) := by
  unfold Relates
  rw [reconcile_rows]
  refine List.forall₂_map_right_iff.mpr (List.forall₂_same.mpr fun entry _ => ?_)
  exact ⟨rfl, each entry.2⟩

theorem relates_again (table : LocalTable ρ) {missing back laterMissing laterBack : ρ → Bool}
    {mark restore laterMark laterRestore : ρ → ρ} {R : ρ → ρ → Prop}
    (each : ∀ row, R (reconciledRow missing back mark restore row)
      (reconciledRow laterMissing laterBack laterMark laterRestore
        (reconciledRow missing back mark restore row))) :
    (table.reconcile missing back mark restore).Relates R
      ((table.reconcile missing back mark restore).reconcile laterMissing laterBack laterMark
        laterRestore) := by
  unfold Relates
  rw [reconcile_rows (table.reconcile missing back mark restore), reconcile_rows table]
  rw [List.forall₂_map_left_iff, List.forall₂_map_right_iff, List.forall₂_map_right_iff]
  exact List.forall₂_same.mpr fun entry _ => ⟨rfl, each entry.2⟩

end LocalTable

/-! ## What a scan says of a record -/

def Listed (seen : List ZohoListItem) (id : Nat) : Prop := ∃ item ∈ seen, item.id = id

def ReportedActive (seen : List ZohoListItem) (id : Nat) : Prop :=
  ∃ item ∈ seen, item.id = id ∧ mapContactStatus item.status = .active

def ReportedInactive (seen : List ZohoListItem) (id : Nat) : Prop :=
  Listed seen id ∧ ¬ReportedActive seen id

/-- Created so recently that its absence says nothing. -/
def InGrace (now createdAt : Time) : Prop := createdBefore now < createdAt

theorem contains_known_iff {seen : List ZohoListItem} {id : Nat} :
    (knownToZoho seen).contains id = true ↔ Listed seen id := by
  rw [List.contains_iff_mem, knownToZoho, List.mem_map]
  rfl

theorem contains_active_iff {seen : List ZohoListItem} {id : Nat} :
    (activeInZoho seen).contains id = true ↔ ReportedActive seen id := by
  rw [List.contains_iff_mem, activeInZoho, List.mem_map]
  constructor
  · rintro ⟨item, selected, same⟩
    obtain ⟨listed, active⟩ := List.mem_filter.mp selected
    exact ⟨item, listed, same, of_decide_eq_true active⟩
  · rintro ⟨item, listed, same, active⟩
    exact ⟨item, List.mem_filter.mpr ⟨listed, decide_eq_true active⟩, same⟩

/-! ## Contacts -/

def reconcileContactPresence (now : Time) (seen : List ZohoListItem)
    (table : LocalTable CustomerPresence) : LocalTable CustomerPresence :=
  if seen.isEmpty then table
  else table.reconcile (toArchive now seen) (toActivate now seen) (setStatus .archived)
    (setStatus .active)

structure ContactSettled (now : Time) (seen : List ZohoListItem) (old new : CustomerPresence) :
    Prop where
  unlinked : old.zohoContactId = none → new = old
  rest : new = setStatus new.status old
  absent : ∀ id, old.zohoContactId = some id → ¬Listed seen id → ¬InGrace now old.createdAt →
    new.status = .archived
  young : ∀ id, old.zohoContactId = some id → ¬Listed seen id → InGrace now old.createdAt →
    new = old
  inactive : ∀ id, old.zohoContactId = some id → ReportedInactive seen id → new.status = .archived
  active : ∀ id, old.zohoContactId = some id → ReportedActive seen id → new.status = .active

/-- A link has one id, so what holds for it holds for each. -/
theorem every_linked {linkedTo : Option Nat} {id : Nat} {holds : Nat → Prop}
    (linked : linkedTo = some id) (here : holds id) : ∀ other, linkedTo = some other →
      holds other := by
  intro other same
  have one : id = other := Option.some.inj (linked.symm.trans same)
  rwa [← one]

theorem ContactSettled.of_linked {now : Time} {seen : List ZohoListItem}
    {old new : CustomerPresence} {id : Nat} (linked : old.zohoContactId = some id)
    (rest : new = setStatus new.status old)
    (absent : ¬Listed seen id → ¬InGrace now old.createdAt → new.status = .archived)
    (young : ¬Listed seen id → InGrace now old.createdAt → new = old)
    (inactive : ReportedInactive seen id → new.status = .archived)
    (active : ReportedActive seen id → new.status = .active) : ContactSettled now seen old new := by
  have unlinked : old.zohoContactId = none → new = old := by
    intro none_
    rw [linked] at none_
    cases none_
  exact {
    unlinked
    rest
    absent := every_linked linked absent
    young := every_linked linked young
    inactive := every_linked linked inactive
    active := every_linked linked active }

theorem contactRow_linked (now : Time) (seen : List ZohoListItem) {row : CustomerPresence}
    {id : Nat} (linked : row.zohoContactId = some id) :
    LocalTable.reconciledRow (toArchive now seen) (toActivate now seen) (setStatus .archived)
        (setStatus .active) row =
      if isSpared now seen id row.createdAt then row
      else if (activeInZoho seen).contains id then setStatus .active row
      else setStatus .archived row := by
  simp only [LocalTable.reconciledRow, toArchive, toActivate, linked]
  cases isSpared now seen id row.createdAt with
  | true => simp
  | false =>
      cases (activeInZoho seen).contains id with
      | true =>
          cases status : row.status with
          | active => simp [setStatus, ← status]
          | archived => simp
      | false =>
          cases status : row.status with
          | active => simp
          | archived => simp [setStatus, ← status]

theorem isSpared_iff {now : Time} {seen : List ZohoListItem} {id : Nat} {createdAt : Time} :
    isSpared now seen id createdAt = true ↔ ¬Listed seen id ∧ InGrace now createdAt := by
  rw [isSpared, Bool.and_eq_true, Bool.not_eq_true', ← Bool.not_eq_true, contains_known_iff,
    decide_eq_true_eq]
  rfl

theorem contactRow_unlinked (now : Time) (seen : List ZohoListItem) {row : CustomerPresence}
    (unlinked : row.zohoContactId = none) :
    LocalTable.reconciledRow (toArchive now seen) (toActivate now seen) (setStatus .archived)
        (setStatus .active) row = row := by
  simp [LocalTable.reconciledRow, toArchive, toActivate, unlinked]

theorem contactRow_settled (now : Time) (seen : List ZohoListItem) (row : CustomerPresence) :
    ContactSettled now seen row
      (LocalTable.reconciledRow (toArchive now seen) (toActivate now seen) (setStatus .archived)
        (setStatus .active) row) := by
  cases linked : row.zohoContactId with
  | none =>
      rw [contactRow_unlinked now seen linked]
      have no : ∀ id, row.zohoContactId ≠ some id := by
        intro id same
        rw [linked] at same
        cases same
      exact ⟨fun _ => rfl, rfl, fun id same => absurd same (no id),
        fun id same => absurd same (no id), fun id same => absurd same (no id),
        fun id same => absurd same (no id)⟩
  | some id =>
      rw [contactRow_linked now seen linked]
      have known : ReportedActive seen id → Listed seen id :=
        fun ⟨item, member, same, _⟩ => ⟨item, member, same⟩
      by_cases spared : isSpared now seen id row.createdAt = true
      · rw [if_pos spared]
        obtain ⟨away, young⟩ := isSpared_iff.mp spared
        refine .of_linked linked rfl ?_ (fun _ _ => rfl) ?_ ?_
        · intro _ old
          exact absurd young old
        · intro inactive
          exact absurd inactive.1 away
        · intro active
          exact absurd (known active) away
      · rw [if_neg spared]
        by_cases live : (activeInZoho seen).contains id = true
        · rw [if_pos live]
          have active := contains_active_iff.mp live
          refine .of_linked linked rfl ?_ ?_ ?_ fun _ => rfl
          · intro away
            exact absurd (known active) away
          · intro away
            exact absurd (known active) away
          · intro inactive
            exact absurd active inactive.2
        · rw [if_neg live]
          refine .of_linked linked rfl (fun _ _ => rfl) ?_ (fun _ => rfl) ?_
          · intro away young
            exact absurd (isSpared_iff.mpr ⟨away, young⟩) spared
          · intro active
            exact absurd (contains_active_iff.mpr active) live

/-- A second pass finds a row as it wants it, unless the grace of a record that is not listed has
ended in between. -/
theorem contactRow_again (now later : Time) (seen : List ZohoListItem) (row : CustomerPresence)
    (still : ∀ id, row.zohoContactId = some id → ¬Listed seen id → InGrace now row.createdAt →
      InGrace later row.createdAt) :
    LocalTable.reconciledRow (toArchive later seen) (toActivate later seen) (setStatus .archived)
        (setStatus .active)
        (LocalTable.reconciledRow (toArchive now seen) (toActivate now seen) (setStatus .archived)
          (setStatus .active) row) =
      LocalTable.reconciledRow (toArchive now seen) (toActivate now seen) (setStatus .archived)
        (setStatus .active) row := by
  cases linked : row.zohoContactId with
  | none => rw [contactRow_unlinked now seen linked, contactRow_unlinked later seen linked]
  | some id =>
      rw [contactRow_linked now seen linked]
      split
      next spared =>
        obtain ⟨away, young⟩ := isSpared_iff.mp spared
        have longer := isSpared_iff.mpr ⟨away, still id linked away young⟩
        rw [contactRow_linked later seen linked, if_pos longer]
      next =>
        split
        next live =>
          have same : (setStatus .active row).zohoContactId = some id := linked
          rw [contactRow_linked later seen same, if_pos live]
          split <;> rfl
        next gone =>
          have same : (setStatus .archived row).zohoContactId = some id := linked
          rw [contactRow_linked later seen same, if_neg gone]
          split <;> rfl

/-! ## Invoices -/

/-- Only a pass writes the flag, and it closes the link of what it flags. -/
structure LocalInvoice where
  row : InvoicePresence
  closed : row.zohoMissingSince.isSome = true → row.publicTokenActive = false

namespace LocalInvoice

def flagMissing (flaggedAt : Time) (invoice : LocalInvoice) : LocalInvoice where
  row := ZohoPullService.flagMissing flaggedAt invoice.row
  closed _ := rfl

def clearMissing (invoice : LocalInvoice) : LocalInvoice where
  row := ZohoPullService.clearMissing invoice.row
  closed := Bool.noConfusion

end LocalInvoice

/-- The loop over the pages of the list; without an answer to come there is no scan. -/
def scannedPages : List (List ZohoListItem × Bool) → Option (List ZohoListItem)
  | [] => none
  | (items, hasMorePage) :: rest =>
      if hasMorePage then (scannedPages rest).map (items ++ ·) else some items

/-- What the pass reports and the rows it leaves; `flaggedAt` is the clock of its update. -/
def reconcileInvoicePresence (now flaggedAt : Time) (pages : List (List ZohoListItem × Bool))
    (table : LocalTable LocalInvoice) : Option (Bool × LocalTable LocalInvoice) :=
  (scannedPages pages).map fun seen =>
    if seen.isEmpty then (false, table)
    else
      (true, table.reconcile (fun invoice => nowMissing now seen invoice.row)
        (fun invoice => reappeared seen invoice.row) (LocalInvoice.flagMissing flaggedAt)
        LocalInvoice.clearMissing)

structure InvoiceSettled (now : Time) (seen : List ZohoListItem) (old new : LocalInvoice) :
    Prop where
  unlinked : old.row.zohoInvoiceId = none → new = old
  rest : new.row.zohoInvoiceId = old.row.zohoInvoiceId ∧ new.row.createdAt = old.row.createdAt
  absent : ∀ id, old.row.zohoInvoiceId = some id → ¬Listed seen id →
    ¬InGrace now old.row.createdAt →
      new.row.zohoMissingSince.isSome = true ∧ new.row.publicTokenActive = false
  young : ∀ id, old.row.zohoInvoiceId = some id → ¬Listed seen id → InGrace now old.row.createdAt →
    new = old
  present : ∀ id, old.row.zohoInvoiceId = some id → Listed seen id →
    new.row.zohoMissingSince = none ∧
      (old.row.zohoMissingSince.isSome = true → new.row.publicTokenActive = true)
  unflagged : ∀ id, old.row.zohoInvoiceId = some id → Listed seen id →
    old.row.zohoMissingSince = none → new = old

theorem InvoiceSettled.of_linked {now : Time} {seen : List ZohoListItem} {old new : LocalInvoice}
    {id : Nat} (linked : old.row.zohoInvoiceId = some id)
    (rest : new.row.zohoInvoiceId = old.row.zohoInvoiceId ∧
      new.row.createdAt = old.row.createdAt)
    (absent : ¬Listed seen id → ¬InGrace now old.row.createdAt →
      new.row.zohoMissingSince.isSome = true ∧ new.row.publicTokenActive = false)
    (young : ¬Listed seen id → InGrace now old.row.createdAt → new = old)
    (present : Listed seen id → new.row.zohoMissingSince = none ∧
      (old.row.zohoMissingSince.isSome = true → new.row.publicTokenActive = true))
    (unflagged : Listed seen id → old.row.zohoMissingSince = none → new = old) :
    InvoiceSettled now seen old new := by
  have unlinked : old.row.zohoInvoiceId = none → new = old := by
    intro none_
    rw [linked] at none_
    cases none_
  exact {
    unlinked
    rest
    absent := every_linked linked absent
    young := every_linked linked young
    present := every_linked linked present
    unflagged := every_linked linked unflagged }

def invoiceRow (now flaggedAt : Time) (seen : List ZohoListItem) : LocalInvoice → LocalInvoice :=
  LocalTable.reconciledRow (fun invoice => nowMissing now seen invoice.row)
    (fun invoice => reappeared seen invoice.row) (LocalInvoice.flagMissing flaggedAt)
    LocalInvoice.clearMissing

section Row

variable {now flaggedAt : Time} {seen : List ZohoListItem} {invoice : LocalInvoice} {id : Nat}

theorem invoiceRow_unlinked (unlinked : invoice.row.zohoInvoiceId = none) :
    invoiceRow now flaggedAt seen invoice = invoice := by
  simp [invoiceRow, LocalTable.reconciledRow, nowMissing, reappeared, unlinked]

theorem invoiceRow_listed (linked : invoice.row.zohoInvoiceId = some id)
    (listed : Listed seen id) :
    invoiceRow now flaggedAt seen invoice =
      if invoice.row.zohoMissingSince.isSome then invoice.clearMissing else invoice := by
  have known : (seen.map (·.id)).contains id = true := contains_known_iff.mpr listed
  simp only [invoiceRow, LocalTable.reconciledRow, nowMissing, reappeared, linked, known,
    Bool.not_true, Bool.false_and, Bool.false_eq_true, if_false, Bool.true_and]

theorem invoiceRow_away (linked : invoice.row.zohoInvoiceId = some id)
    (away : ¬Listed seen id) :
    invoiceRow now flaggedAt seen invoice =
      if invoice.row.zohoMissingSince.isNone && decide (invoice.row.createdAt ≤ createdBefore now)
        then invoice.flagMissing flaggedAt
      else invoice := by
  have unknown : (seen.map (·.id)).contains id = false := by
    rw [← Bool.not_eq_true]
    exact fun known => away (contains_known_iff.mp known)
  simp only [invoiceRow, LocalTable.reconciledRow, nowMissing, reappeared, linked, unknown,
    Bool.not_false, Bool.false_and, Bool.false_eq_true, if_false, Bool.true_and]

theorem invoiceRow_settled (now flaggedAt : Time) (seen : List ZohoListItem)
    (invoice : LocalInvoice) :
    InvoiceSettled now seen invoice (invoiceRow now flaggedAt seen invoice) := by
  cases linked : invoice.row.zohoInvoiceId with
  | none =>
      rw [invoiceRow_unlinked linked]
      have no : ∀ id, invoice.row.zohoInvoiceId ≠ some id := by
        intro id same
        rw [linked] at same
        cases same
      exact ⟨fun _ => rfl, ⟨rfl, rfl⟩, fun id same => absurd same (no id),
        fun id same => absurd same (no id), fun id same => absurd same (no id),
        fun id same => absurd same (no id)⟩
  | some id =>
      by_cases listed : Listed seen id
      · rw [invoiceRow_listed linked listed]
        cases flagged : invoice.row.zohoMissingSince with
        | none =>
            refine .of_linked linked ⟨rfl, rfl⟩ ?_ (fun _ _ => rfl) ?_ fun _ _ => rfl
            · intro away
              exact absurd listed away
            · intro _
              refine ⟨flagged, fun before => ?_⟩
              rw [flagged] at before
              cases before
        | some since =>
            refine .of_linked linked ⟨rfl, rfl⟩ ?_ ?_ (fun _ => ⟨rfl, fun _ => rfl⟩) ?_
            · intro away
              exact absurd listed away
            · intro away
              exact absurd listed away
            · intro _ unflagged
              rw [flagged] at unflagged
              cases unflagged
      · rw [invoiceRow_away linked listed]
        split
        next chosen =>
          rw [Bool.and_eq_true, decide_eq_true_eq] at chosen
          refine .of_linked linked ⟨rfl, rfl⟩ (fun _ _ => ⟨rfl, rfl⟩) ?_ ?_ ?_
          · intro _ young
            exact absurd chosen.2 (not_le.mpr young)
          · intro here
            exact absurd here listed
          · intro here
            exact absurd here listed
        next spared =>
          refine .of_linked linked ⟨rfl, rfl⟩ ?_ (fun _ _ => rfl) ?_ ?_
          · intro _ old
            have flagged : invoice.row.zohoMissingSince.isSome = true := by
              by_contra unflagged
              refine spared ?_
              rw [Bool.and_eq_true, decide_eq_true_eq]
              exact ⟨by simpa using unflagged, not_lt.mp old⟩
            exact ⟨flagged, invoice.closed flagged⟩
          · intro here
            exact absurd here listed
          · intro here
            exact absurd here listed

end Row

theorem invoiceRow_again {now later flaggedAt laterAt : Time} {seen : List ZohoListItem}
    {invoice : LocalInvoice}
    (still : ∀ id, invoice.row.zohoInvoiceId = some id → ¬Listed seen id →
      InGrace now invoice.row.createdAt → InGrace later invoice.row.createdAt) :
    invoiceRow later laterAt seen (invoiceRow now flaggedAt seen invoice) =
      invoiceRow now flaggedAt seen invoice := by
  cases linked : invoice.row.zohoInvoiceId with
  | none => rw [invoiceRow_unlinked linked, invoiceRow_unlinked linked]
  | some id =>
      by_cases listed : Listed seen id
      · rw [invoiceRow_listed linked listed]
        split
        next =>
          have same : invoice.clearMissing.row.zohoInvoiceId = some id := linked
          rw [invoiceRow_listed same listed]
          rfl
        next unflagged => rw [invoiceRow_listed linked listed, if_neg unflagged]
      · rw [invoiceRow_away linked listed]
        split
        next =>
          have same : (invoice.flagMissing flaggedAt).row.zohoInvoiceId = some id := linked
          rw [invoiceRow_away same listed]
          rfl
        next spared =>
          rw [invoiceRow_away linked listed, if_neg]
          intro chosen
          rw [Bool.and_eq_true, decide_eq_true_eq] at chosen spared
          by_cases young : InGrace now invoice.row.createdAt
          · exact absurd chosen.2 (not_le.mpr (still id linked listed young))
          · exact spared ⟨chosen.1, not_lt.mp young⟩

/-! ## The passes -/

/-- A later pass over the same scan may find a record past its grace; nothing else has changed. -/
def Again {ρ : Type} (zohoId : ρ → Option Nat) (createdAt : ρ → Time) (now later : Time)
    (seen : List ZohoListItem) (first second : ρ) : Prop :=
  (∀ id, zohoId first = some id → ¬Listed seen id → InGrace now (createdAt first) →
    InGrace later (createdAt first)) → second = first

theorem contactPass (now : Time) {seen : List ZohoListItem} (some_ : seen ≠ [])
    (table : LocalTable CustomerPresence) :
    reconcileContactPresence now seen table = table.reconcile (toArchive now seen)
      (toActivate now seen) (setStatus .archived) (setStatus .active) := by
  rw [reconcileContactPresence, if_neg]
  simpa using some_

/-- A pass over a scan that is not empty settles every row, and a second one finds it settled. -/
theorem contacts_settled (now later : Time) {seen : List ZohoListItem} (some_ : seen ≠ [])
    (table : LocalTable CustomerPresence) :
    table.Relates (ContactSettled now seen) (reconcileContactPresence now seen table) ∧
      (reconcileContactPresence now seen table).Relates
        (Again CustomerPresence.zohoContactId CustomerPresence.createdAt now later seen)
        (reconcileContactPresence later seen (reconcileContactPresence now seen table)) := by
  rw [contactPass now some_, contactPass later some_]
  refine ⟨table.relates_reconcile (contactRow_settled now seen), ?_⟩
  refine table.relates_again fun row still => contactRow_again now later seen row ?_
  intro id linked away young
  have kept := (contactRow_settled now seen row).rest
  have sameId := congrArg CustomerPresence.zohoContactId kept
  have sameTime := congrArg CustomerPresence.createdAt kept
  simp only [setStatus] at sameId sameTime
  have longer := still id (sameId.trans linked) away
  rw [sameTime] at longer
  exact longer young

theorem invoicePass (now flaggedAt : Time) {pages : List (List ZohoListItem × Bool)}
    {seen : List ZohoListItem} (complete : scannedPages pages = some seen) (some_ : seen ≠ [])
    (table : LocalTable LocalInvoice) :
    reconcileInvoicePresence now flaggedAt pages table =
      some (true, table.reconcile (fun invoice => nowMissing now seen invoice.row)
        (fun invoice => reappeared seen invoice.row) (LocalInvoice.flagMissing flaggedAt)
        LocalInvoice.clearMissing) := by
  rw [reconcileInvoicePresence, complete, Option.map_some, if_neg]
  simpa using some_

theorem invoices_settled (now flaggedAt later laterAt : Time)
    {pages : List (List ZohoListItem × Bool)} {seen : List ZohoListItem}
    (complete : scannedPages pages = some seen) (some_ : seen ≠ [])
    (table : LocalTable LocalInvoice) :
    ∃ first second,
      reconcileInvoicePresence now flaggedAt pages table = some (true, first) ∧
        reconcileInvoicePresence later laterAt pages first = some (true, second) ∧
        table.Relates (InvoiceSettled now seen) first ∧
        first.Relates (Again (fun invoice => invoice.row.zohoInvoiceId)
          (fun invoice => invoice.row.createdAt) now later seen) second := by
  refine ⟨_, _, invoicePass now flaggedAt complete some_ table,
    invoicePass later laterAt complete some_ _,
    table.relates_reconcile (invoiceRow_settled now flaggedAt seen), ?_⟩
  refine table.relates_again fun invoice still => invoiceRow_again ?_
  intro id linked away young
  have kept := (invoiceRow_settled now flaggedAt seen invoice).rest
  have longer := still id (kept.1.trans linked) away
  rw [← kept.2]
  refine longer ?_
  rw [← kept.2] at young
  exact young

/-- Every pass: an empty scan changes nothing, any other settles the rows, and a second pass over
the same scan changes only what has outgrown its grace. -/
theorem presence_reconciled :
    (∀ (now later : Time) (seen : List ZohoListItem) (table : LocalTable CustomerPresence),
      (seen = [] → reconcileContactPresence now seen table = table) ∧
        (seen ≠ [] →
          table.Relates (ContactSettled now seen) (reconcileContactPresence now seen table) ∧
            (reconcileContactPresence now seen table).Relates
              (Again CustomerPresence.zohoContactId CustomerPresence.createdAt now later seen)
              (reconcileContactPresence later seen
                (reconcileContactPresence now seen table)))) ∧
      ∀ (now flaggedAt later laterAt : Time) (pages : List (List ZohoListItem × Bool))
        (seen : List ZohoListItem) (table : LocalTable LocalInvoice),
        scannedPages pages = some seen →
          (seen = [] → reconcileInvoicePresence now flaggedAt pages table = some (false, table)) ∧
            (seen ≠ [] → ∃ first second,
              reconcileInvoicePresence now flaggedAt pages table = some (true, first) ∧
                reconcileInvoicePresence later laterAt pages first = some (true, second) ∧
                table.Relates (InvoiceSettled now seen) first ∧
                first.Relates (Again (fun invoice => invoice.row.zohoInvoiceId)
                  (fun invoice => invoice.row.createdAt) now later seen) second) := by
  refine ⟨?_, ?_⟩
  · intro now later seen table
    refine ⟨?_, fun some_ => contacts_settled now later some_ table⟩
    rintro rfl
    rfl
  · intro now flaggedAt later laterAt pages seen table complete
    refine ⟨?_, fun some_ => invoices_settled now flaggedAt later laterAt complete some_ table⟩
    rintro rfl
    rw [reconcileInvoicePresence, complete]
    rfl

def sampleContacts : LocalTable CustomerPresence where
  rows := [("customer", ⟨some 1, .active, 1⟩)]
  keys := List.nodup_singleton _

def sampleInvoices : LocalTable LocalInvoice where
  rows := [("invoice", ⟨⟨some 1, none, true, 0⟩, Bool.noConfusion⟩)]
  keys := List.nodup_singleton _

theorem presence_reconciled_sample :
    sampleContacts.Relates (ContactSettled 600000 [⟨2, some "active"⟩])
        (reconcileContactPresence 600000 [⟨2, some "active"⟩] sampleContacts) ∧
      ∃ first second,
        reconcileInvoicePresence 600000 600001 [([⟨2, some "sent"⟩], false)] sampleInvoices =
            some (true, first) ∧
          reconcileInvoicePresence 600002 600003 [([⟨2, some "sent"⟩], false)] first =
            some (true, second) ∧
          sampleInvoices.Relates (InvoiceSettled 600000 [⟨2, some "sent"⟩]) first ∧
          first.Relates (Again (fun invoice => invoice.row.zohoInvoiceId)
            (fun invoice => invoice.row.createdAt) 600000 600002 [⟨2, some "sent"⟩]) second :=
  ⟨((presence_reconciled.1 600000 600000 [⟨2, some "active"⟩] sampleContacts).2
      (List.cons_ne_nil _ _)).1,
    (presence_reconciled.2 600000 600001 600002 600003 [([⟨2, some "sent"⟩], false)]
      [⟨2, some "sent"⟩] sampleInvoices rfl).2 (List.cons_ne_nil _ _)⟩

/-- The second pass over the same scan, a millisecond later, archives what the first one spared. -/
theorem second_pass_archives :
    reconcileContactPresence 600001 [⟨2, some "active"⟩]
        (reconcileContactPresence 600000 [⟨2, some "active"⟩] sampleContacts) ≠
      reconcileContactPresence 600000 [⟨2, some "active"⟩] sampleContacts := by
  intro same
  have rows := congrArg LocalTable.rows same
  revert rows
  decide

end PresencePasses

end MultiBrandInvoicing
