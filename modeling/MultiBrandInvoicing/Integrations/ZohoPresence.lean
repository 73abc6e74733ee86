import MultiBrandInvoicing.Ports.PaymentGateway

/-!
# Reconciling local records with what Zoho still lists

`reconcileInvoicePresence` and `reconcileContactPresence` of
`apps/api/src/integrations/zoho-pull.service.ts`, for one row of the local read that
follows a scan.  Only the columns they read and write are kept; ids in Zoho are numbers.
-/

set_option autoImplicit false

namespace MultiBrandInvoicing

inductive CustomerStatus where
  | active | archived
  deriving DecidableEq, Repr

structure ZohoListItem where
  id : Nat
  status : Option String
  deriving DecidableEq, Repr

structure InvoicePresence where
  zohoInvoiceId : Option Nat
  zohoMissingSince : Option Time
  publicTokenActive : Bool
  createdAt : Time
  deriving DecidableEq, Repr

structure CustomerPresence where
  zohoContactId : Option Nat
  status : CustomerStatus
  createdAt : Time
  deriving DecidableEq, Repr

namespace ZohoPullService

/-- `RECONCILE_CREATION_GRACE_MS`. -/
def reconcileCreationGraceMs : Int := 10 * 60 * 1000

def mapContactStatus (status : Option String) : CustomerStatus :=
  if status = some "inactive" then .archived else .active

def createdBefore (now : Time) : Time := now - reconcileCreationGraceMs

def nowMissing (now : Time) (seen : List ZohoListItem) (row : InvoicePresence) : Bool :=
  match row.zohoInvoiceId with
  | none => false
  | some id =>
      !(seen.map (·.id)).contains id && row.zohoMissingSince.isNone &&
        decide (row.createdAt ≤ createdBefore now)

def reappeared (seen : List ZohoListItem) (row : InvoicePresence) : Bool :=
  match row.zohoInvoiceId with
  | none => false
  | some id => (seen.map (·.id)).contains id && row.zohoMissingSince.isSome

def flagMissing (now : Time) (row : InvoicePresence) : InvoicePresence :=
  { row with zohoMissingSince := some now, publicTokenActive := false }

def clearMissing (row : InvoicePresence) : InvoicePresence :=
  { row with zohoMissingSince := none, publicTokenActive := true }

def activeInZoho (seen : List ZohoListItem) : List Nat :=
  (seen.filter fun item => mapContactStatus item.status = .active).map (·.id)

def knownToZoho (seen : List ZohoListItem) : List Nat := seen.map (·.id)

/-- The loop passes over a row that is unknown to Zoho and younger than the grace. -/
def isSpared (now : Time) (seen : List ZohoListItem) (contactId : Nat) (createdAt : Time) : Bool :=
  !(knownToZoho seen).contains contactId && decide (createdBefore now < createdAt)

def toArchive (now : Time) (seen : List ZohoListItem) (row : CustomerPresence) : Bool :=
  match row.zohoContactId with
  | none => false
  | some contactId =>
      !isSpared now seen contactId row.createdAt &&
        (!(activeInZoho seen).contains contactId && decide (row.status = .active))

def toActivate (now : Time) (seen : List ZohoListItem) (row : CustomerPresence) : Bool :=
  match row.zohoContactId with
  | none => false
  | some contactId =>
      !isSpared now seen contactId row.createdAt &&
        ((activeInZoho seen).contains contactId && decide (row.status = .archived))

def setStatus (status : CustomerStatus) (row : CustomerPresence) : CustomerPresence :=
  { row with status }

theorem nowMissing_cases {now : Time} {seen : List ZohoListItem} {row : InvoicePresence}
    (missing : nowMissing now seen row = true) :
    ∃ id, row.zohoInvoiceId = some id ∧ (∀ item ∈ seen, item.id ≠ id) ∧
      row.createdAt ≤ createdBefore now := by
  unfold nowMissing at missing
  cases linked : row.zohoInvoiceId with
  | none => simp [linked] at missing
  | some id =>
      simp only [linked, Bool.and_eq_true, Bool.not_eq_true', decide_eq_true_eq] at missing
      refine ⟨id, rfl, fun item member same => ?_, missing.2⟩
      have listed : (seen.map (·.id)).contains id = true :=
        List.contains_iff_mem.mpr (List.mem_map.mpr ⟨item, member, same⟩)
      rw [missing.1.1] at listed
      cases listed

theorem toArchive_cases {now : Time} {seen : List ZohoListItem} {row : CustomerPresence}
    (archived : toArchive now seen row = true) :
    ∃ id, row.zohoContactId = some id ∧
      (∀ item ∈ seen, item.id = id → mapContactStatus item.status ≠ .active) ∧
        ((∃ item ∈ seen, item.id = id) ∨ row.createdAt ≤ createdBefore now) := by
  unfold toArchive at archived
  cases linked : row.zohoContactId with
  | none => simp [linked] at archived
  | some id =>
      simp only [linked, Bool.and_eq_true, Bool.not_eq_true', decide_eq_true_eq] at archived
      obtain ⟨unspared, inactive, _⟩ := archived
      refine ⟨id, rfl, fun item member same active => ?_, ?_⟩
      · have listed : (activeInZoho seen).contains id = true := by
          refine List.contains_iff_mem.mpr (List.mem_map.mpr ⟨item, ?_, same⟩)
          simp [member, active]
        rw [inactive] at listed
        cases listed
      · unfold isSpared at unspared
        rw [Bool.and_eq_false_iff] at unspared
        rcases unspared with known | old
        · refine .inl ?_
          simpa [knownToZoho] using known
        · exact .inr (not_lt.mp (of_decide_eq_false old))

end ZohoPullService

end MultiBrandInvoicing
