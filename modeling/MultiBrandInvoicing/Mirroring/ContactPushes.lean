import Mathlib.Logic.Function.Basic
import MultiBrandInvoicing.Integrations.ZohoSync
import MultiBrandInvoicing.Transitions.Runs

/-!
# Jobs that push one customer

Each update of a customer enqueues a job; a job reads the row, writes the contact in Zoho
and stores its id, and any number of jobs may be under way at once (`customers.service.ts`,
`pushCustomer` in `zoho-sync.service.ts` and `upsertCustomer` in `zoho-books.adapter.ts`).
Zoho sets the fields a payload has and leaves the others.
-/

set_option autoImplicit false

namespace MultiBrandInvoicing

inductive CustomerType where
  | business | individual
  deriving DecidableEq, Repr

structure AccountingAddress where
  line1 : Option String
  line2 : Option String
  city : Option String
  region : Option String
  postalCode : Option String
  country : Option String
  deriving DecidableEq, Repr

structure AccountingCustomer where
  type : CustomerType
  displayName : String
  companyName : Option String
  firstName : Option String
  lastName : Option String
  email : Option String
  phone : Option String
  billingAddress : Option AccountingAddress
  shippingAddress : Option AccountingAddress
  deriving DecidableEq, Repr

structure ZohoAddress where
  address : Option String
  city : Option String
  state : Option String
  zip : Option String
  deriving DecidableEq, Repr

structure ZohoContactPerson where
  firstName : String
  lastName : Option String
  email : Option String
  phone : Option String
  deriving DecidableEq, Repr

inductive ContactField where
  | contactName | companyName | contactType | customerSubType | email | phone | billingAddress
  | shippingAddress | contactPersons
  deriving DecidableEq, Repr

inductive ContactValue where
  | text (value : String)
  | address (value : ZohoAddress)
  | persons (primary : ZohoContactPerson)
  deriving DecidableEq, Repr

/-- The keys of a JSON body; an undefined one is not sent. -/
abbrev ContactFields := ContactField → Option ContactValue

def toZohoAddress (address : AccountingAddress) : ZohoAddress :=
  let streetLines := [address.line1, address.line2].filterMap fun line =>
    line.filter fun text => !ZohoSyncService.isBlank text
  { address := if streetLines.isEmpty then none else some ("\n".intercalate streetLines)
    city := address.city
    state := address.region
    zip := address.postalCode }

def isTruthy (text : Option String) : Bool := text.any (· ≠ "")

def contactPayload (customer : AccountingCustomer) : ContactFields
  | .contactName => some (.text customer.displayName)
  | .companyName => customer.companyName.map .text
  | .contactType => some (.text "customer")
  | .customerSubType =>
      some (.text (if customer.type = .business then "business" else "individual"))
  | .email => customer.email.map .text
  | .phone => customer.phone.map .text
  | .billingAddress => customer.billingAddress.map fun address => .address (toZohoAddress address)
  | .shippingAddress => customer.shippingAddress.map fun address => .address (toZohoAddress address)
  | .contactPersons =>
      if isTruthy customer.firstName || isTruthy customer.lastName || isTruthy customer.email ||
          isTruthy customer.phone then
        some (.persons {
          firstName := customer.firstName.getD customer.displayName
          lastName := customer.lastName
          email := customer.email
          phone := customer.phone })
      else none

namespace ContactPushes

/-- A contact in Zoho.  `edition` is that of the row it was last written from. -/
structure Contact where
  fields : ContactFields
  edition : Nat

def Contact.put (contact : Contact) (payload : ContactFields) (edition : Nat) : Contact where
  fields := fun field => (payload field).or (contact.fields field)
  edition := edition

/-- Where a job stands: it has read the row with its contact id, at some edition, or has
written the contact with this id and not stored it yet. -/
inductive Job where
  | idle
  | queued
  | read (customer : AccountingCustomer) (zohoContactId : Option Nat) (edition : Nat)
  | sent (remoteId : Nat)

/-- The row and the contacts that Zoho has for it.  `edition` counts the updates; each of
them has a job of its own, and `κ` names the jobs run inside an invoice's push. -/
structure CustomerSide (κ : Type) where
  row : AccountingCustomer
  zohoContactId : Option Nat
  edition : Nat
  contacts : List Contact
  jobs : Nat ⊕ κ → Job

inductive Action (κ : Type) where
  | update (row : AccountingCustomer)
  | start (job : Nat)
  | cascade (job : κ)
  | send (job : Nat ⊕ κ)
  | store (job : Nat ⊕ κ)

variable {κ : Type}

def created (row : AccountingCustomer) : CustomerSide κ where
  row := row
  zohoContactId := none
  edition := 0
  contacts := []
  jobs := fun job => match job with
    | .inl 0 => .queued
    | _ => .idle

def CustomerSide.readRow (side : CustomerSide κ) : Job :=
  .read side.row side.zohoContactId side.edition

def CustomerSide.setJob [DecidableEq κ] (side : CustomerSide κ) (job : Nat ⊕ κ) (stage : Job) :
    CustomerSide κ :=
  { side with jobs := Function.update side.jobs job stage }

section SetJob

variable [DecidableEq κ] (side : CustomerSide κ) (job : Nat ⊕ κ) (stage : Job)

@[simp] theorem setJob_row : (side.setJob job stage).row = side.row := rfl

@[simp] theorem setJob_zohoContactId :
    (side.setJob job stage).zohoContactId = side.zohoContactId := rfl

@[simp] theorem setJob_edition : (side.setJob job stage).edition = side.edition := rfl

@[simp] theorem setJob_contacts : (side.setJob job stage).contacts = side.contacts := rfl

@[simp] theorem setJob_self : (side.setJob job stage).jobs job = stage := by
  simp [CustomerSide.setJob]

theorem setJob_other {other : Nat ⊕ κ} (different : other ≠ job) :
    (side.setJob job stage).jobs other = side.jobs other := by
  simp [CustomerSide.setJob, different]

theorem setJob_cases {other : Nat ⊕ κ} {found : Job}
    (at_ : (side.setJob job stage).jobs other = found) :
    other = job ∧ stage = found ∨ other ≠ job ∧ side.jobs other = found := by
  by_cases same : other = job
  · subst same
    rw [setJob_self] at at_
    exact .inl ⟨rfl, at_⟩
  · rw [setJob_other _ _ _ same] at at_
    exact .inr ⟨same, at_⟩

theorem setJob_apart {other : Nat ⊕ κ} {found : Job} (at_ : side.jobs other = found)
    (moving : side.jobs job ≠ found) : (side.setJob job stage).jobs other = found := by
  have different : other ≠ job := by
    rintro rfl
    exact moving at_
  rw [setJob_other _ _ _ different, at_]

end SetJob

def CustomerSide.step [DecidableEq κ] (side : CustomerSide κ) : Action κ → CustomerSide κ
  | .update row =>
      { side with row, edition := side.edition + 1 }.setJob (.inl (side.edition + 1)) .queued
  | .start job =>
      match side.jobs (.inl job) with
      | .queued => side.setJob (.inl job) side.readRow
      | _ => side
  -- The invoice's push has read no contact id, which may be stored by now.
  | .cascade job =>
      match side.jobs (.inr job) with
      | .idle => side.setJob (.inr job) side.readRow
      | _ => side
  | .send job =>
      match side.jobs job with
      | .read customer none edition =>
          { side with
            contacts := side.contacts ++ [Contact.mk (contactPayload customer) edition] }.setJob
              job (.sent side.contacts.length)
      | .read customer (some remoteId) edition =>
          { side with
            contacts := side.contacts.modify remoteId fun contact =>
              contact.put (contactPayload customer) edition }.setJob job (.sent remoteId)
      | _ => side
  | .store job =>
      match side.jobs job with
      | .sent remoteId => { side with zohoContactId := some remoteId }.setJob job .idle
      | _ => side

/-! ## When the copy in Zoho follows the row -/

/-- A job creates no second contact; it does not write a contact from an older row than the
one it was last written from, and leaves no field out that the contact has. -/
def CarefulSend (side : CustomerSide κ) (customer : AccountingCustomer)
    (zohoContactId : Option Nat) (edition : Nat) : Prop :=
  match zohoContactId with
  | none => side.contacts = []
  | some _ => ∀ contact ∈ side.contacts, contact.edition ≤ edition ∧
      ∀ field, contact.fields field ≠ none → contactPayload customer field ≠ none

def Careful (side : CustomerSide κ) : Action κ → Prop
  | .send job => ∀ customer zohoContactId edition,
      side.jobs job = .read customer zohoContactId edition →
        CarefulSend side customer zohoContactId edition
  | _ => True

def Drained (side : CustomerSide κ) : Prop := ∀ job, side.jobs job = .idle

/-- The contact the row names carries the fields of the row. -/
def Mirrored (side : CustomerSide κ) : Prop :=
  ∃ remoteId contact, side.zohoContactId = some remoteId ∧
    side.contacts[remoteId]? = some contact ∧ contact.fields = contactPayload side.row

/-- The contact was written from the row as it is, or the newest job will do so. -/
inductive Newest (side : CustomerSide κ) : Prop where
  | written (contact : Contact) (member : contact ∈ side.contacts)
      (newest : contact.edition = side.edition)
  | queued (job : side.jobs (.inl side.edition) = .queued)
  | read (customer : AccountingCustomer) (zohoContactId : Option Nat)
      (job : side.jobs (.inl side.edition) = .read customer zohoContactId side.edition)

structure Following (side : CustomerSide κ) : Prop where
  single : side.contacts.length ≤ 1
  linked : ∀ remoteId, side.zohoContactId = some remoteId → remoteId < side.contacts.length
  known : side.contacts ≠ [] →
    side.zohoContactId ≠ none ∨ ∃ job remoteId, side.jobs job = .sent remoteId
  fresh : ∀ job, side.edition < job → side.jobs (.inl job) = .idle
  reading : ∀ job customer zohoContactId edition,
    side.jobs job = .read customer zohoContactId edition →
      edition ≤ side.edition ∧ (edition = side.edition → customer = side.row) ∧
        ∀ remoteId, zohoContactId = some remoteId → remoteId < side.contacts.length
  sending : ∀ job remoteId, side.jobs job = .sent remoteId → remoteId < side.contacts.length
  carried : ∀ contact ∈ side.contacts, contact.edition ≤ side.edition ∧
    (contact.edition = side.edition → contact.fields = contactPayload side.row)
  newest : Newest side

theorem Following.mirrored {side : CustomerSide κ} (following : Following side)
    (drained : Drained side) : Mirrored side := by
  have written : ∃ contact ∈ side.contacts, contact.edition = side.edition := by
    cases following.newest with
    | written contact member newest => exact ⟨contact, member, newest⟩
    | queued job =>
        rw [drained] at job
        cases job
    | read customer zohoContactId job =>
        rw [drained] at job
        cases job
  obtain ⟨contact, member, newest⟩ := written
  have some_ : side.contacts ≠ [] := List.ne_nil_of_mem member
  have id : ∃ remoteId, side.zohoContactId = some remoteId := by
    rcases following.known some_ with linked | ⟨job, remoteId, sent⟩
    · exact Option.ne_none_iff_exists'.mp linked
    · rw [drained] at sent
      cases sent
  obtain ⟨remoteId, linked⟩ := id
  have single := following.single
  have within := following.linked remoteId linked
  have first : remoteId = 0 := by omega
  obtain ⟨only, same⟩ := List.length_eq_one_iff.mp (by omega : side.contacts.length = 1)
  subst first
  rw [same, List.mem_singleton] at member
  subst member
  exact ⟨0, contact, linked, by simp [same], (following.carried contact (by simp [same])).2 newest⟩

section Steps

variable [DecidableEq κ] {side : CustomerSide κ}

theorem Following.update (following : Following side) (row : AccountingCustomer) :
    Following ({ side with row, edition := side.edition + 1 }.setJob (.inl (side.edition + 1))
      .queued) := by
  have unused : side.jobs (.inl (side.edition + 1)) = .idle := following.fresh _ (by omega)
  refine ⟨following.single, following.linked, ?_, ?_, ?_, ?_, ?_, .queued (setJob_self ..)⟩
  · intro some_
    refine (following.known some_).imp_right ?_
    rintro ⟨job, remoteId, sent⟩
    exact ⟨job, remoteId, setJob_apart _ _ _ sent (by simp [unused])⟩
  · intro job later
    have later : side.edition + 1 < job := later
    rw [setJob_other _ _ _ (by simpa using Nat.ne_of_gt later)]
    exact following.fresh job (by omega)
  · intro job customer zohoContactId edition reads
    rcases setJob_cases _ _ _ reads with ⟨_, other⟩ | ⟨_, reads⟩
    · cases other
    · obtain ⟨past, _, there⟩ := following.reading job _ _ _ reads
      refine ⟨Nat.le_succ_of_le past, fun same => ?_, there⟩
      have same : edition = side.edition + 1 := same
      omega
  · intro job remoteId sent
    rcases setJob_cases _ _ _ sent with ⟨_, other⟩ | ⟨_, sent⟩
    · cases other
    · exact following.sending job remoteId sent
  · intro contact member
    have past := (following.carried contact member).1
    refine ⟨Nat.le_succ_of_le past, fun same => ?_⟩
    have same : contact.edition = side.edition + 1 := same
    omega

theorem Following.read (following : Following side) {job : Nat ⊕ κ}
    (waiting : side.jobs job = .queued ∨ side.jobs job = .idle ∧ ∃ slot, job = .inr slot) :
    Following (side.setJob job side.readRow) := by
  have still : side.jobs job = .queued ∨ side.jobs job = .idle := waiting.imp_right And.left
  refine ⟨following.single, following.linked, ?_, ?_, ?_, ?_, following.carried, ?_⟩
  · intro some_
    refine (following.known some_).imp_right ?_
    rintro ⟨other, remoteId, sent⟩
    exact ⟨other, remoteId, setJob_apart _ _ _ sent (by rcases still with at_ | at_ <;> simp [at_])⟩
  · intro number later
    have idle := following.fresh number later
    rcases waiting with queued | ⟨_, slot, rfl⟩
    · exact setJob_apart _ _ _ idle (by simp [queued])
    · exact (setJob_other _ _ _ (by simp)).trans idle
  · intro other customer zohoContactId edition reads
    rcases setJob_cases _ _ _ reads with ⟨_, now⟩ | ⟨_, reads⟩
    · cases now
      exact ⟨le_rfl, fun _ => rfl, following.linked⟩
    · exact following.reading other customer zohoContactId edition reads
  · intro other remoteId sent
    rcases setJob_cases _ _ _ sent with ⟨_, now⟩ | ⟨_, sent⟩
    · cases now
    · exact following.sending other remoteId sent
  · cases following.newest with
    | written contact member newest => exact .written contact member newest
    | queued at_ =>
        by_cases same : .inl side.edition = job
        · subst same
          exact .read side.row side.zohoContactId (setJob_self ..)
        · exact .queued ((setJob_other _ _ _ same).trans at_)
    | read customer zohoContactId at_ =>
        exact .read customer zohoContactId
          (setJob_apart _ _ _ at_ (by rcases still with at_ | at_ <;> simp [at_]))

/-- A careful job leaves one contact, written from what it has read. -/
theorem Following.sent (following : Following side) {job : Nat ⊕ κ} {customer : AccountingCustomer}
    {zohoContactId : Option Nat} {edition : Nat}
    (reads : side.jobs job = .read customer zohoContactId edition)
    (careful : CarefulSend side customer zohoContactId edition) :
    ∃ contact : Contact, side.step (.send job) =
        { side with contacts := [contact] }.setJob job (.sent 0) ∧
      contact.edition = edition ∧ contact.fields = contactPayload customer ∧
      ∀ earlier ∈ side.contacts, earlier.edition ≤ edition := by
  cases zohoContactId with
  | none =>
      have none_ : side.contacts = [] := careful
      refine ⟨⟨contactPayload customer, edition⟩, ?_, rfl, rfl, by simp [none_]⟩
      simp only [CustomerSide.step, reads, none_, List.nil_append, List.length_nil]
  | some remoteId =>
      have single := following.single
      have within := (following.reading job _ _ _ reads).2.2 remoteId rfl
      have first : remoteId = 0 := by omega
      obtain ⟨only, same⟩ := List.length_eq_one_iff.mp (by omega : side.contacts.length = 1)
      obtain ⟨older, covers⟩ := careful only (by simp [same])
      subst first
      refine ⟨only.put (contactPayload customer) edition, ?_, rfl, ?_, by simpa [same] using older⟩
      · simp only [CustomerSide.step, reads, same]
        rfl
      · funext field
        cases given : contactPayload customer field with
        | some value => simp [Contact.put, given]
        | none =>
            have absent : only.fields field = none := by
              by_contra filled
              exact covers field filled given
            simp [Contact.put, given, absent]

theorem Following.send (following : Following side) {job : Nat ⊕ κ} {customer : AccountingCustomer}
    {zohoContactId : Option Nat} {edition : Nat}
    (reads : side.jobs job = .read customer zohoContactId edition)
    (careful : CarefulSend side customer zohoContactId edition) :
    Following (side.step (.send job)) := by
  obtain ⟨contact, moved, written, fields, older⟩ := following.sent reads careful
  obtain ⟨past, current, _⟩ := following.reading job customer zohoContactId edition reads
  rw [moved]
  refine ⟨le_rfl, ?_, ?_, ?_, ?_, ?_, ?_, ?_⟩
  · intro remoteId linked
    have within := following.linked remoteId linked
    have single := following.single
    simp only [setJob_contacts, List.length_singleton]
    omega
  · exact fun _ => .inr ⟨job, 0, setJob_self ..⟩
  · intro number later
    exact setJob_apart { side with contacts := [contact] } _ _ (following.fresh number later)
      (by simp [reads])
  · intro other customer zohoContactId edition at_
    rcases setJob_cases _ _ _ at_ with ⟨_, now⟩ | ⟨_, at_⟩
    · cases now
    · obtain ⟨past, current, there⟩ := following.reading other _ _ _ at_
      refine ⟨past, current, fun remoteId given => ?_⟩
      have within := there remoteId given
      have single := following.single
      simp only [setJob_contacts, List.length_singleton]
      omega
  · intro other remoteId at_
    have single := following.single
    simp only [setJob_contacts, List.length_singleton]
    rcases setJob_cases _ _ _ at_ with ⟨_, now⟩ | ⟨_, at_⟩
    · cases now
      omega
    · have within := following.sending other remoteId at_
      omega
  · intro other member
    cases List.mem_singleton.mp member
    refine ⟨written ▸ past, fun newest => ?_⟩
    rw [fields, current (written.symm.trans newest)]
    rfl
  · cases following.newest with
    | written earlier member newest =>
        have bound := older earlier member
        refine .written contact (by simp) ?_
        simp only [setJob_edition]
        omega
    | queued at_ =>
        exact .queued (setJob_apart { side with contacts := [contact] } _ _ at_ (by simp [reads]))
    | read reader given at_ =>
        by_cases same : .inl side.edition = job
        · subst same
          rw [at_] at reads
          cases reads
          exact .written contact (by simp) written
        · exact .read reader given ((setJob_other _ _ _ same).trans at_)

theorem Following.store (following : Following side) {job : Nat ⊕ κ} {remoteId : Nat}
    (sent : side.jobs job = .sent remoteId) :
    Following ({ side with zohoContactId := some remoteId }.setJob job .idle) := by
  have within := following.sending job remoteId sent
  refine ⟨following.single, ?_, fun _ => .inl (by simp), ?_, ?_, ?_, following.carried, ?_⟩
  · intro id linked
    cases linked
    exact within
  · intro number later
    have idle := following.fresh number later
    by_cases same : .inl number = job
    · subst same
      exact setJob_self ..
    · exact (setJob_other _ _ _ same).trans idle
  · intro other customer zohoContactId edition reads
    rcases setJob_cases _ _ _ reads with ⟨_, now⟩ | ⟨_, reads⟩
    · cases now
    · exact following.reading other customer zohoContactId edition reads
  · intro other id at_
    rcases setJob_cases _ _ _ at_ with ⟨_, now⟩ | ⟨_, at_⟩
    · cases now
    · exact following.sending other id at_
  · cases following.newest with
    | written contact member newest => exact .written contact member newest
    | queued at_ =>
        exact .queued (setJob_apart { side with zohoContactId := some remoteId } _ _ at_
          (by simp [sent]))
    | read customer zohoContactId at_ =>
        exact .read customer zohoContactId (setJob_apart
          { side with zohoContactId := some remoteId } _ _ at_ (by simp [sent]))

theorem Following.step (following : Following side) {action : Action κ}
    (careful : Careful side action) : Following (side.step action) := by
  cases action with
  | update row => exact following.update row
  | start job =>
      simp only [CustomerSide.step]
      split
      next queued => exact following.read (.inl queued)
      next => exact following
  | cascade job =>
      simp only [CustomerSide.step]
      split
      next idle => exact following.read (.inr ⟨idle, job, rfl⟩)
      next => exact following
  | send job =>
      cases stage : side.jobs job with
      | read customer zohoContactId edition =>
          exact following.send stage (careful customer zohoContactId edition stage)
      | idle => simpa [CustomerSide.step, stage] using following
      | queued => simpa [CustomerSide.step, stage] using following
      | sent remoteId => simpa [CustomerSide.step, stage] using following
  | store job =>
      simp only [CustomerSide.step]
      split
      next remoteId sent => exact following.store sent
      next => exact following

theorem contact_stays (side : CustomerSide κ) (action : Action κ)
    (known : side.zohoContactId.isSome = true) :
    (side.step action).zohoContactId.isSome = true := by
  cases action with
  | update row => exact known
  | start job => simp only [CustomerSide.step]; split <;> exact known
  | cascade job => simp only [CustomerSide.step]; split <;> exact known
  | send job => simp only [CustomerSide.step]; split <;> exact known
  | store job =>
      simp only [CustomerSide.step]
      split
      · rfl
      · exact known

end Steps

theorem following_created (row : AccountingCustomer) :
    Following (created row : CustomerSide κ) := by
  have waiting : ∀ job stage, (created row : CustomerSide κ).jobs job = stage →
      stage = .idle ∨ stage = .queued := by
    rintro job stage rfl
    simp only [created]
    split <;> simp
  refine ⟨by simp [created], by simp [created], by simp [created], ?_, ?_, ?_, by simp [created],
    .queued rfl⟩
  · intro job later
    have later : 0 < job := later
    cases job with
    | zero => omega
    | succ job => rfl
  · intro job customer zohoContactId edition reads
    rcases waiting job _ reads with idle | queued
    · cases idle
    · cases queued
  · intro job remoteId sent
    rcases waiting job _ sent with idle | queued
    · cases idle
    · cases queued

end ContactPushes

end MultiBrandInvoicing
