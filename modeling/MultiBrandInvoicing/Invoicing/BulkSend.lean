import MultiBrandInvoicing.Domain.InvoiceStatus
import MultiBrandInvoicing.Faults.Batches
import MultiBrandInvoicing.Money.Minor
import MultiBrandInvoicing.Ports.PaymentGateway
import MultiBrandInvoicing.Receipts.Template

/-!
# Sending many invoices

`bulkSend` in `apps/api/src/invoices/invoices.service.ts`, with `issue`, `prepareEmail` and
`sendEmail` as it calls them: no copy, no attached document and no preferred method.  Every
statement, the queue, the storage and the mail server may fail, and others may change the rows
before each statement.
-/

set_option autoImplicit false

namespace MultiBrandInvoicing

namespace BulkSend

open Faults Work Receipts

/-! ## The rows -/

structure CustomerRow where
  displayName : String
  email : Option String
  deriving DecidableEq, Repr

structure BrandRow where
  displayName : String
  themeColor : String
  logoKey : Option String
  deriving DecidableEq, Repr

structure ReceiptSettings where
  brandId : String
  emailReceiptSubject : String
  emailReceiptBody : String
  emailReceiptLayout : EmailReceiptLayout
  accentColor : String
  deriving DecidableEq, Repr

structure InvoiceRow where
  id : String
  brandId : String
  number : String
  status : InvoiceStatus
  issuedAt : Option Time
  currency : String
  totalMinor : Int
  balanceMinor : Int
  dueDate : Time
  publicToken : String
  lineItemCount : Nat
  customer : CustomerRow
  brand : BrandRow
  deriving DecidableEq, Repr

inductive EventRow where
  | issue (invoiceId : String) (fromStatus toStatus : InvoiceStatus) (actor : String)
  | emailSent (invoiceId actor : String)
  deriving DecidableEq, Repr

structure Rows where
  invoices : List InvoiceRow
  settings : List ReceiptSettings
  events : List EventRow
  deriving DecidableEq, Repr

/-- `findFirst({ where: { id, brandId } })`. -/
def Rows.findInvoice (rows : Rows) (brandId id : String) : Option InvoiceRow :=
  rows.invoices.find? fun invoice => invoice.id = id && invoice.brandId = brandId

def Rows.findSettings (rows : Rows) (brandId : String) : Option ReceiptSettings :=
  rows.settings.find? fun settings => settings.brandId = brandId

def Rows.updateInvoice (rows : Rows) (id : String) (change : InvoiceRow → InvoiceRow) : Rows :=
  { rows with
    invoices := rows.invoices.map fun invoice => if invoice.id = id then change invoice
      else invoice }

def Rows.createEvent (rows : Rows) (event : EventRow) : Rows :=
  { rows with events := rows.events ++ [event] }

/-! ## What the work reaches -/

/-- What is thrown: an error with its message, or another value. -/
inductive Thrown where
  | error (message : String)
  | other
  deriving DecidableEq, Repr

structure MailAttachment where
  filename : String
  contentType : String
  content : List UInt8
  cid : String
  deriving DecidableEq, Repr

structure MailAddress where
  name : String
  address : String
  deriving DecidableEq, Repr

/-- The key `invoice-send:id:time`; the time has no colon, so the text determines both. -/
structure SendKey where
  invoiceId : String
  sentAt : Time
  deriving DecidableEq, Repr

structure Mail where
  recipient : String
  sender : MailAddress
  subject : String
  text : String
  html : String
  attachments : List MailAttachment
  brandId : String
  invoiceId : String
  templateKey : String
  idempotencyKey : SendKey
  deriving DecidableEq, Repr

/-- The rows and what others will do to them, the storage, the jobs of the queue and the mails
that the server has accepted. -/
structure World where
  rows : Rows
  others : List (Rows → Rows)
  objects : List (String × List UInt8)
  jobs : List (String × String)
  accepted : List Mail

def World.elapse (world : World) : World :=
  match world.others with
  | [] => world
  | act :: others => { world with rows := act world.rows, others }

abbrev Step (α : Type) := Work World Thrown α

def query {α : Type} (view : Rows → Except Thrown α) : Step α :=
  call fun world => (view world.elapse.rows).map (·, world.elapse)

def transaction (act : Rows → Except Thrown Rows) : Step Unit :=
  call fun world => (act world.elapse.rows).map fun rows => ((), { world.elapse with rows })

def enqueuePush (brandId id : String) : Step Unit :=
  call fun world => .ok ((), { world with jobs := world.jobs ++ [(brandId, id)] })

/-- A mail with a key that was accepted already is not sent again. -/
def World.deliver (world : World) (mail : Mail) : World :=
  if world.accepted.any fun other => other.idempotencyKey = mail.idempotencyKey then world
  else { world with accepted := world.accepted ++ [mail] }

def sendMail (mail : Mail) : Step Unit := call fun world => .ok ((), world.deliver mail)

structure EmailReceiptHtmlInput where
  layout : EmailReceiptLayout
  brandName : String
  themeColor : String
  accentColor : String
  logoSrc : Option String
  senderAddress : String
  subject : String
  body : String
  values : EmailReceiptVariables
  linkUrl : String
  deriving DecidableEq, Repr

/-- The service for one request: the texts of amounts and dates and the page of a mail are what
the renderers make of them, and making the page may throw. -/
structure Service where
  brandId : String
  actor : String
  paymentPublicUrl : String
  mailFrom : MailAddress
  displayAmount : Int → CurrencyCode → String
  displayDate : Time → String
  renderHtml : EmailReceiptHtmlInput → Except Thrown String

/-! ## Issuing -/

def hasText (value : Option String) : Bool := value.any (· ≠ "")

def issueContext (invoice : InvoiceRow) : TransitionContext where
  status := invoice.status
  lineItemCount := invoice.lineItemCount
  totalMinor := invoice.totalMinor
  balanceMinor := invoice.balanceMinor
  settledMinor := 0
  customerHasDeliverableEmail := hasText invoice.customer.email

def issueRows (service : Service) (id : String) (now : Time) (rows : Rows) :
    Except Thrown Rows :=
  match rows.findInvoice service.brandId id with
  | none => .error (.error "invoice not found")
  | some invoice =>
      match evaluateTransition .issue (issueContext invoice) with
      | .refused _ message => .error (.error message)
      | .ok target =>
          let issued := rows.updateInvoice id fun row =>
            { row with status := target, issuedAt := some now }
          .ok (issued.createEvent (.issue id invoice.status target service.actor))

def issue (service : Service) (id : String) (now : Time) : Step Unit := do
  transaction (issueRows service id now)
  enqueuePush service.brandId id

/-! ## Preparing and sending the mail -/

/-- An amount in minor units as it is shown; one that is not safe is refused. -/
def formatMinorForDisplay (service : Service) (amount : Int) (currency : CurrencyCode) :
    Except Thrown String :=
  match assertMinor amount "amount" with
  | .ok amount => .ok (service.displayAmount amount currency)
  | .error (.moneyError message) => .error (.error message)
  | .error (.rangeError message) => .error (.error message)

def summaryOf (service : Service) (invoice : InvoiceRow) : Except Thrown EmailReceiptVariables :=
  (formatMinorForDisplay service invoice.balanceMinor (toCurrencyCode invoice.currency)).map
    fun amountDue =>
      { brandName := invoice.brand.displayName
        customerName := invoice.customer.displayName
        invoiceNumber := invoice.number
        amountDue
        dueDate := service.displayDate invoice.dueDate }

structure EmailDraft where
  recipient : String
  subject : String
  body : String
  deriving DecidableEq, Repr

def orThrow {α : Type} : Except Thrown α → Step α
  | .ok value => pure value
  | .error thrown => throw thrown

def present {α : Type} (message : String) : Option α → Except Thrown α
  | some value => .ok value
  | none => .error (.error message)

def prepareEmail (service : Service) (id : String) : Step EmailDraft := do
  let invoice ← query fun rows =>
    present "invoice not found" (rows.findInvoice service.brandId id)
  let settings ← query fun rows =>
    present "brand settings not found" (rows.findSettings service.brandId)
  let values ← orThrow (summaryOf service invoice)
  pure {
    recipient := invoice.customer.email.getD ""
    subject := renderEmailReceiptTemplate settings.emailReceiptSubject values
    body := renderEmailReceiptTemplate settings.emailReceiptBody values }

def logoContentType (extension : String) : Option String :=
  if extension = "jpg" then some "image/jpeg"
  else if extension = "png" then some "image/png"
  else if extension = "svg" then some "image/svg+xml"
  else none

def logoCid : String := "brand-logo"

def readObject (key : String) : Step (List UInt8) :=
  call fun world =>
    match world.objects.lookup key with
    | some content => .ok (content, world)
    | none => .error (.error "not found")

def readLogo (logoKey extension contentType : String) : Step (Option MailAttachment) := do
  let content ← readObject logoKey
  pure (some { filename := "logo." ++ extension, contentType, content, cid := logoCid })

/-- No logo where it cannot be read. -/
def brandLogoAttachment : Option String → Step (Option MailAttachment)
  | none => pure none
  | some logoKey =>
      let extension := ((logoKey.splitOn ".").getLastD "").toLower
      match logoContentType extension with
      | none => pure none
      | some contentType =>
          attempt (readLogo logoKey extension contentType) fun _ => pure none

def mailText (service : Service) (invoice : InvoiceRow) (values : EmailReceiptVariables)
    (body : String) : String :=
  "\n".intercalate [body, "", s!"Invoice {values.invoiceNumber}",
    s!"Amount due: {values.amountDue}", s!"Due date: {values.dueDate}", "",
    s!"View and pay: {service.paymentPublicUrl}/i/{invoice.publicToken}"]

def htmlInput (service : Service) (invoice : InvoiceRow) (settings : Option ReceiptSettings)
    (logo : Option MailAttachment) (values : EmailReceiptVariables) (draft : EmailDraft) :
    EmailReceiptHtmlInput where
  layout := (settings.map ReceiptSettings.emailReceiptLayout).getD .classic
  brandName := invoice.brand.displayName
  themeColor := invoice.brand.themeColor
  accentColor := (settings.map ReceiptSettings.accentColor).getD "#171717"
  logoSrc := logo.map fun _ => "cid:" ++ logoCid
  senderAddress := service.mailFrom.address
  subject := draft.subject
  body := draft.body
  values
  linkUrl := s!"{service.paymentPublicUrl}/i/{invoice.publicToken}"

def receiptMail (service : Service) (id : String) (now : Time) (invoice : InvoiceRow)
    (logo : Option MailAttachment) (values : EmailReceiptVariables) (draft : EmailDraft)
    (html : String) : Mail where
  recipient := draft.recipient
  sender := service.mailFrom
  subject := draft.subject
  text := mailText service invoice values draft.body
  html
  attachments := logo.toList
  brandId := service.brandId
  invoiceId := id
  templateKey := "email-receipt.invoice-send"
  idempotencyKey := ⟨id, now⟩

/-- Rendering the page and sending the mail, inside the `try` of `sendEmail`. -/
def dispatch (service : Service) (id : String) (now : Time) (invoice : InvoiceRow)
    (settings : Option ReceiptSettings) (logo : Option MailAttachment)
    (values : EmailReceiptVariables) (draft : EmailDraft) : Step Unit := do
  let html ← orThrow (service.renderHtml (htmlInput service invoice settings logo values draft))
  sendMail (receiptMail service id now invoice logo values draft html)

def mailRefused : String :=
  "Could not send this email — the mail server rejected it or could not be reached. " ++
    "Check the SMTP configuration and try again."

def sendEmail (service : Service) (id : String) (now : Time) (draft : EmailDraft) :
    Step Unit := do
  let found ← query fun rows =>
    (present "invoice not found" (rows.findInvoice service.brandId id)).map fun invoice =>
      (invoice, rows.findSettings invoice.brandId)
  let logo ← brandLogoAttachment found.1.brand.logoKey
  let values ← orThrow (summaryOf service found.1)
  attempt (dispatch service id now found.1 found.2 logo values draft) fun _ =>
    throw (.error mailRefused)
  transaction fun rows => .ok (rows.createEvent (.emailSent id service.actor))

/-! ## The batch -/

inductive Outcome where
  | sent
  | skipped (reason : String)
  | failed (reason : String)
  deriving DecidableEq, Repr

def Thrown.reason : Thrown → String
  | .error message => message
  | .other => "Could not send this invoice."

def issueDraft (service : Service) (id : String) (now : Time) (invoice : InvoiceRow) :
    Step Unit :=
  if invoice.status = .draft then issue service id now else pure ()

/-- What the loop does inside its `try`. -/
def sendOne (service : Service) (id : String) (now : Time) (invoice : InvoiceRow) :
    Step Outcome := do
  issueDraft service id now invoice
  let draft ← prepareEmail service id
  sendEmail service id now draft
  pure .sent

def settle (service : Service) (id : String) (now : Time) : Option InvoiceRow → Step Outcome
  | none => pure (.failed "Invoice not found.")
  | some invoice =>
      if invoice.status = .paid ∨ invoice.status = .cancelled then
        pure (.skipped s!"Already {invoice.status.code.toLower}.")
      else if !hasText invoice.customer.email then
        pure (.skipped "Customer has no email on file.")
      else attempt (sendOne service id now invoice) fun thrown => pure (.failed thrown.reason)

/-- One round of the loop; the row is looked up outside the `try`. -/
def handle (service : Service) (clock : Nat → Time) (position : Nat) (id : String) :
    Step Outcome := do
  let invoice ← query fun rows => .ok (rows.findInvoice service.brandId id)
  settle service id (clock position) invoice

structure BulkSendResult where
  sent : List String
  skipped : List (String × String)
  failed : List (String × String)
  deriving DecidableEq, Repr

def BulkSendResult.push (result : BulkSendResult) (id : String) : Outcome → BulkSendResult
  | .sent => { result with sent := result.sent ++ [id] }
  | .skipped reason => { result with skipped := result.skipped ++ [(id, reason)] }
  | .failed reason => { result with failed := result.failed ++ [(id, reason)] }

/-- What fails at each position of the list: for one call after another, whether it fails, if so
whether it was carried out all the same, and what is thrown. -/
abbrev Failures := Nat → List (Option (Bool × Thrown))

def fateOf : Option (Bool × Thrown) → Fate Thrown
  | none => .answered
  | some (performed, thrown) => .failed performed thrown

def Failures.fates (failures : Failures) (position : Nat) : List (Fate Thrown) :=
  (failures position).map fateOf

def bulkSend (service : Service) (clock : Nat → Time) (failures : Failures) (ids : List String)
    (world : World) : Ending Thrown BulkSendResult × World :=
  batchFrom (handle service clock) BulkSendResult.push failures.fates 0 ids ⟨[], [], []⟩ world

/-! ## What one round does -/

def lookupFails (failures : List (Option (Bool × Thrown))) : Bool := failures.head?.join.isSome

theorem Failures.whole (failures : Failures) (position : Nat) :
    Whole (failures.fates position) := by
  intro performed member
  obtain ⟨failure, _, same⟩ := List.mem_map.mp member
  cases failure with
  | none => cases same
  | some failure => cases same

section Rounds

variable {service : Service} {id : String} {now : Time}

structure HoldsOfCalls (holds : ∀ {α : Type}, Step α → Prop) : Prop where
  query_ : ∀ {α : Type} (view : Rows → Except Thrown α), holds (query view)
  transaction_ : ∀ act, holds (transaction act)
  enqueuePush_ : ∀ brandId id, holds (enqueuePush brandId id)
  sendMail_ : ∀ mail, holds (sendMail mail)
  readObject_ : ∀ key, holds (readObject key)

section Parts

variable {holds : ∀ {α : Type}, Step α → Prop} (composes : Composes holds)
  (calls : HoldsOfCalls holds)

include composes

theorem orThrow_of {α : Type} (value : Except Thrown α) : holds (orThrow value) := by
  cases value with
  | error thrown => exact composes.throw_ thrown
  | ok value => exact composes.pure_ value

include calls

theorem brandLogoAttachment_of (logoKey : Option String) :
    holds (brandLogoAttachment logoKey) := by
  cases logoKey with
  | none => exact composes.pure_ none
  | some logoKey =>
      simp only [brandLogoAttachment]
      split
      next => exact composes.pure_ none
      next contentType known =>
        have reading : ∀ extension, holds (readLogo logoKey extension contentType) :=
          fun _ => composes.bind_ (calls.readObject_ logoKey) fun _ => composes.pure_ _
        exact composes.attempt_ (reading _) fun _ => composes.pure_ none

theorem dispatch_of (invoice : InvoiceRow) (settings : Option ReceiptSettings)
    (logo : Option MailAttachment) (values : EmailReceiptVariables) (draft : EmailDraft) :
    holds (dispatch service id now invoice settings logo values draft) :=
  composes.bind_ (orThrow_of composes _) fun _ => calls.sendMail_ _

theorem issueDraft_of (invoice : InvoiceRow) : holds (issueDraft service id now invoice) := by
  unfold issueDraft
  split
  next => exact composes.bind_ (calls.transaction_ _) fun _ => calls.enqueuePush_ _ _
  next => exact composes.pure_ ()

theorem prepareEmail_of : holds (prepareEmail service id) :=
  composes.bind_ (calls.query_ _) fun _ => composes.bind_ (calls.query_ _) fun _ =>
    composes.bind_ (orThrow_of composes _) fun _ => composes.pure_ _

theorem sendEmail_of (draft : EmailDraft) : holds (sendEmail service id now draft) :=
  composes.bind_ (calls.query_ _) fun _ =>
    composes.bind_ (brandLogoAttachment_of composes calls _) fun _ =>
      composes.bind_ (orThrow_of composes _) fun _ =>
        composes.bind_
          (composes.attempt_ (dispatch_of composes calls _ _ _ _ draft) fun _ =>
            composes.throw_ _)
          fun _ => calls.transaction_ _

theorem sendOne_of (invoice : InvoiceRow) : holds (sendOne service id now invoice) :=
  composes.bind_ (issueDraft_of composes calls invoice) fun _ =>
    composes.bind_ (prepareEmail_of composes calls) fun draft =>
      composes.bind_ (sendEmail_of composes calls draft) fun _ => composes.pure_ _

end Parts

theorem survives_calls : HoldsOfCalls fun {_} step => Survives step where
  query_ _ := Survives.call_ _
  transaction_ _ := Survives.call_ _
  enqueuePush_ _ _ := Survives.call_ _
  sendMail_ _ := Survives.call_ _
  readObject_ _ := Survives.call_ _

theorem settle_cases (found : Option InvoiceRow) :
    (∃ outcome, outcome ≠ .sent ∧ settle service id now found = pure outcome) ∨
      ∃ invoice, settle service id now found =
        attempt (sendOne service id now invoice) fun thrown => pure (.failed thrown.reason) := by
  cases found with
  | none => exact .inl ⟨_, by simp, rfl⟩
  | some invoice =>
      simp only [settle]
      split
      next => exact .inl ⟨_, by simp, rfl⟩
      next =>
        split
        next => exact .inl ⟨_, by simp, rfl⟩
        next => exact .inr ⟨invoice, rfl⟩

/-- Whatever fails in it, the round then returns. -/
theorem settle_returned (found : Option InvoiceRow) (world : World)
    {fates : List (Fate Thrown)} (whole : Whole fates) :
    ∃ outcome left later, settle service id now found world fates =
      ⟨.returned outcome, left, later⟩ := by
  obtain ⟨outcome, _, idle⟩ | ⟨invoice, tries⟩ := settle_cases found
  · exact ⟨outcome, world, fates, by rw [idle]; rfl⟩
  · have survives : Survives (sendOne service id now invoice) :=
      sendOne_of Survives.composes survives_calls invoice
    rw [tries]
    exact survives.attempt_returned (fun thrown => .failed thrown.reason) world whole

/-! ## The mails -/

def Accepted (key : SendKey) (world : World) : Prop :=
  ∃ mail ∈ world.accepted, mail.idempotencyKey = key

theorem World.accepted_elapse (world : World) : world.elapse.accepted = world.accepted := by
  unfold World.elapse
  split
  next => rfl
  next => rfl

theorem accepted_elapse {key : SendKey} {world : World} :
    Accepted key world.elapse ↔ Accepted key world := by
  rw [Accepted, Accepted, world.accepted_elapse]

theorem accepted_deliver_self (mail : Mail) (world : World) :
    Accepted mail.idempotencyKey (world.deliver mail) := by
  unfold World.deliver
  split_ifs with suppressed
  · simpa [Accepted] using suppressed
  · exact ⟨mail, by simp, rfl⟩

theorem Accepted.deliver {key : SendKey} {world : World} (accepted : Accepted key world)
    (mail : Mail) : Accepted key (world.deliver mail) := by
  unfold World.deliver
  split_ifs
  · exact accepted
  · obtain ⟨earlier, member, same⟩ := accepted
    exact ⟨earlier, List.mem_append_left _ member, same⟩

theorem keeps_calls (key : SendKey) : HoldsOfCalls fun {_} step => Keeps (Accepted key) step where
  query_ view := Keeps.call_ fun world value next accepted answered => by
    cases seen : view world.elapse.rows with
    | error thrown => simp [seen, Except.map] at answered
    | ok found =>
        simp only [seen, Except.map, Except.ok.injEq, Prod.mk.injEq] at answered
        rw [← answered.2]
        exact accepted_elapse.mpr accepted
  transaction_ act := Keeps.call_ fun world value next accepted answered => by
    cases changed : act world.elapse.rows with
    | error thrown => simp [changed, Except.map] at answered
    | ok rows =>
        simp only [changed, Except.map, Except.ok.injEq, Prod.mk.injEq] at answered
        rw [← answered.2]
        exact accepted_elapse.mpr accepted
  enqueuePush_ brandId id := Keeps.call_ fun world value next accepted answered => by
    simp only [Except.ok.injEq, Prod.mk.injEq] at answered
    rw [← answered.2]
    exact accepted
  sendMail_ mail := Keeps.call_ fun world value next accepted answered => by
    simp only [Except.ok.injEq, Prod.mk.injEq] at answered
    rw [← answered.2]
    exact accepted.deliver mail
  readObject_ key := Keeps.call_ fun world value next accepted answered => by
    cases found : world.objects.lookup key with
    | none => simp [found] at answered
    | some content =>
        simp only [found, Except.ok.injEq, Prod.mk.injEq] at answered
        rw [← answered.2]
        exact accepted

abbrev Yields {α : Type} (step : Step α) (returns : World → Prop) : Prop :=
  Meets (fun _ => True) step (fun _ => returns) fun _ => True

theorem yields_true {α : Type} (step : Step α) : Yields step fun _ => True := by
  intro world fates _
  split
  next => trivial
  next => trivial
  next => trivial

theorem Yields.after {α β : Type} {step : Step α} {next : α → Step β} {returns : World → Prop}
    (rest : ∀ value, Yields (next value) returns) : Yields (step >>= next) returns :=
  Meets.bind_ (yields_true step) rest

theorem Yields.then_keeps {α β : Type} {step : Step α} {next : α → Step β}
    {returns : World → Prop} (yields : Yields step returns)
    (keeps : ∀ value, Keeps returns (next value)) : Yields (step >>= next) returns :=
  Meets.bind_ yields fun value => (keeps value).mono (fun _ _ => id) fun _ _ => trivial

theorem yields_dispatch (invoice : InvoiceRow) (settings : Option ReceiptSettings)
    (logo : Option MailAttachment) (values : EmailReceiptVariables) (draft : EmailDraft) :
    Yields (dispatch service id now invoice settings logo values draft) (Accepted ⟨id, now⟩) :=
  Yields.after fun _ => Meets.call_ (fun _ _ => trivial) fun world _ next _ answered => by
    simp only [Except.ok.injEq, Prod.mk.injEq] at answered
    rw [← answered.2]
    exact ⟨accepted_deliver_self _ world, trivial⟩

theorem yields_sendEmail (draft : EmailDraft) :
    Yields (sendEmail service id now draft) (Accepted ⟨id, now⟩) := by
  have calls := keeps_calls ⟨id, now⟩
  have attempted : ∀ invoice settings logo values, Yields (attempt
      (dispatch service id now invoice settings logo values draft) fun _ =>
        throw (.error mailRefused)) (Accepted ⟨id, now⟩) := by
    intro invoice settings logo values
    have refused : ∀ thrown : Thrown, Yields (throw (.error mailRefused) : Step Unit)
        (Accepted ⟨id, now⟩) := fun _ => Meets.throw_ fun _ _ => trivial
    have dispatched : Yields (dispatch service id now invoice settings logo values draft)
        (Accepted ⟨id, now⟩) := yields_dispatch _ _ _ _ _
    exact Meets.attempt_ dispatched refused fun _ _ => trivial
  exact Yields.after fun _ => Yields.after fun _ => Yields.after fun _ =>
    (attempted _ _ _ _).then_keeps fun _ => calls.transaction_ _

theorem yields_sendOne (invoice : InvoiceRow) :
    Yields (sendOne service id now invoice) (Accepted ⟨id, now⟩) :=
  Yields.after fun _ => Yields.after fun draft =>
    (yields_sendEmail draft).then_keeps fun _ => Keeps.pure_ _

/-- What is sent has a mail that was accepted, and accepted mails stay. -/
def SentIfAccepted (key : SendKey) (outcome : Outcome) (world : World) : Prop :=
  outcome = .sent → Accepted key world

theorem settle_sent (found : Option InvoiceRow) :
    Meets (fun _ => True) (settle service id now found) (SentIfAccepted ⟨id, now⟩)
      fun _ => True := by
  have unsent : ∀ outcome : Outcome, outcome ≠ .sent →
      Meets (fun _ => True) (pure outcome : Step Outcome) (SentIfAccepted ⟨id, now⟩)
        fun _ => True :=
    fun outcome other => Meets.pure_ fun _ _ sent => absurd sent other
  obtain ⟨outcome, other, idle⟩ | ⟨invoice, tries⟩ := settle_cases found
  · rw [idle]
    exact unsent outcome other
  · have sent : Meets (fun _ => True) (sendOne service id now invoice)
        (SentIfAccepted ⟨id, now⟩) fun _ => True :=
      (yields_sendOne invoice).mono (fun _ _ accepted _ => accepted) fun _ _ => trivial
    rw [tries]
    exact Meets.attempt_ sent (fun _ => unsent _ (by simp)) fun _ _ => trivial

theorem handle_sent {clock : Nat → Time} {position : Nat} :
    Meets (fun _ => True) (handle service clock position id)
      (SentIfAccepted ⟨id, clock position⟩) fun _ => True :=
  Meets.bind_ (yields_true _) fun found => settle_sent found

theorem handle_keeps {clock : Nat → Time} {position : Nat} (key : SendKey) :
    Keeps (Accepted key) (handle service clock position id) := by
  have composes := Keeps.composes (ε := Thrown) (Accepted key)
  have calls := keeps_calls key
  have settled : ∀ found, Keeps (Accepted key) (settle service id (clock position) found) := by
    intro found
    obtain ⟨outcome, _, idle⟩ | ⟨invoice, tries⟩ := settle_cases found
    · rw [idle]
      exact Keeps.pure_ outcome
    · rw [tries]
      exact Keeps.attempt_ (sendOne_of composes calls invoice) fun _ => Keeps.pure_ _
  exact Keeps.bind_ (calls.query_ _) settled

end Rounds

/-! ## Rounds and their lookups -/

section Lookups

variable {service : Service} {clock : Nat → Time} {failures : Failures} {position : Nat}

theorem handle_returned (found : lookupFails (failures position) = false) (id : String)
    (world : World) :
    ∃ outcome left later, handle service clock position id world (failures.fates position) =
      ⟨.returned outcome, left, later⟩ := by
  have whole := failures.whole position
  have looked : ∃ later, Whole later ∧
      (query fun rows => .ok (rows.findInvoice service.brandId id)) world
          (failures.fates position) =
        ⟨.returned (world.elapse.rows.findInvoice service.brandId id), world.elapse, later⟩ := by
    unfold Failures.fates at whole ⊢
    cases pattern : failures position with
    | nil => exact ⟨[], fun _ => by simp, rfl⟩
    | cons first rest =>
        rw [pattern] at whole found
        cases first with
        | none => exact ⟨rest.map fateOf, whole.tail, rfl⟩
        | some failure => simp [lookupFails] at found
  obtain ⟨later, rest, looked⟩ := looked
  obtain ⟨outcome, left, last, settled⟩ : ∃ outcome left last,
      settle service id (clock position) (world.elapse.rows.findInvoice service.brandId id)
        world.elapse later = ⟨.returned outcome, left, last⟩ := settle_returned _ _ rest
  exact ⟨outcome, left, last, by rw [handle, bind_of_returned looked, settled]⟩

theorem handle_threw (fails : lookupFails (failures position) = true) (id : String)
    (world : World) :
    ∃ thrown left later, handle service clock position id world (failures.fates position) =
      ⟨.threw thrown, left, later⟩ := by
  have looked : ∃ thrown left later,
      (query fun rows => .ok (rows.findInvoice service.brandId id)) world
          (failures.fates position) = ⟨.threw thrown, left, later⟩ := by
    unfold Failures.fates
    cases pattern : failures position with
    | nil => simp [pattern, lookupFails] at fails
    | cons first rest =>
        cases first with
        | none => simp [pattern, lookupFails] at fails
        | some failure => exact ⟨failure.2, _, rest.map fateOf, rfl⟩
  obtain ⟨thrown, left, later, looked⟩ := looked
  exact ⟨thrown, left, later, by rw [handle, bind_of_threw looked]⟩

end Lookups

/-! ## Every position is accounted for -/

def sentEntry (entry : String × Outcome) : Option String :=
  match entry.2 with
  | .sent => some entry.1
  | _ => none

def skippedEntry (entry : String × Outcome) : Option (String × String) :=
  match entry.2 with
  | .skipped reason => some (entry.1, reason)
  | _ => none

def failedEntry (entry : String × Outcome) : Option (String × String) :=
  match entry.2 with
  | .failed reason => some (entry.1, reason)
  | _ => none

/-- Each position of the list was worked on in its turn and came to one outcome; the result has
an entry for each in the list of its outcome, and what it calls sent has a mail that was
accepted. -/
structure AccountedBy (service : Service) (clock : Nat → Time) (failures : Failures)
    (ids : List String) (outcomes : List Outcome) (result : BulkSendResult)
    (world left : World) : Prop where
  processed : Processed (handle service clock) failures.fates 0 ids world outcomes left
  each : outcomes.length = ids.length
  sent : result.sent = (ids.zip outcomes).filterMap sentEntry
  skipped : result.skipped = (ids.zip outcomes).filterMap skippedEntry
  failed : result.failed = (ids.zip outcomes).filterMap failedEntry
  accepted : ∀ (position : Nat) (id : String), ids[position]? = some id →
    outcomes[position]? = some .sent → Accepted ⟨id, clock position⟩ left

theorem foldl_push (entries : List (String × Outcome)) (result : BulkSendResult) :
    entries.foldl (fun result entry => result.push entry.1 entry.2) result =
      ⟨result.sent ++ entries.filterMap sentEntry,
        result.skipped ++ entries.filterMap skippedEntry,
        result.failed ++ entries.filterMap failedEntry⟩ := by
  induction entries generalizing result with
  | nil => simp
  | cons entry entries ih =>
      obtain ⟨id, outcome⟩ := entry
      rw [List.foldl_cons, ih]
      cases outcome with
      | sent =>
          simp [BulkSendResult.push, List.filterMap_cons, sentEntry, skippedEntry, failedEntry]
      | skipped reason =>
          simp [BulkSendResult.push, List.filterMap_cons, sentEntry, skippedEntry, failedEntry]
      | failed reason =>
          simp [BulkSendResult.push, List.filterMap_cons, sentEntry, skippedEntry, failedEntry]

section Batch

variable {service : Service} {clock : Nat → Time} {failures : Failures} {ids : List String}
  {outcomes : List Outcome} {world left : World}

theorem processed_sent
    (processed : Processed (handle service clock) failures.fates 0 ids world outcomes left)
    {position : Nat} {id : String} (here : ids[position]? = some id)
    (sent : outcomes[position]? = some .sent) : Accepted ⟨id, clock position⟩ left := by
  obtain ⟨before, next, later, ran, _, _, rest⟩ := processed.at_position here sent
  rw [Nat.zero_add] at ran
  have accepted := handle_sent.of_returned trivial (congrArg Ran.ending ran)
  rw [ran] at accepted
  exact rest.keeps (fun _ _ => handle_keeps _) (accepted rfl)

theorem accounted_of_processed
    (processed : Processed (handle service clock) failures.fates 0 ids world outcomes left) :
    ∃ result, bulkSend service clock failures ids world = (.returned result, left) ∧
      AccountedBy service clock failures ids outcomes result world left := by
  have returned : bulkSend service clock failures ids world = (.returned _, left) :=
    batchFrom_of_processed processed _
  rw [foldl_push] at returned
  refine ⟨_, returned, ?_⟩
  exact {
    processed
    each := processed.length_eq
    sent := List.nil_append _
    skipped := List.nil_append _
    failed := List.nil_append _
    accepted := fun _ _ => processed_sent processed }

end Batch

/-- The batch accounts for every position exactly if no lookup of a row fails; whatever else
fails is contained in its round. -/
theorem bulkSend_accounts_iff (service : Service) (clock : Nat → Time) (failures : Failures)
    (ids : List String) (world : World) :
    (∃ result outcomes left, bulkSend service clock failures ids world =
        (.returned result, left) ∧
      AccountedBy service clock failures ids outcomes result world left) ↔
      ∀ position < ids.length, lookupFails (failures position) = false := by
  constructor
  · intro ⟨result, _, left, returned, _⟩ position within
    by_contra fails
    rw [Bool.not_eq_false] at fails
    have throwing : ∀ id world, ∃ thrown left later,
        handle service clock (0 + position) id world (failures.fates (0 + position)) =
          ⟨.threw thrown, left, later⟩ := by
      intro id world
      rw [Nat.zero_add]
      exact handle_threw fails id world
    have lost : (bulkSend service clock failures ids world).1 ≠ .returned result :=
      batchFrom_of_throwing within throwing _ world result
    exact lost (congrArg Prod.fst returned)
  · intro found
    have returning : ∀ ahead < ids.length, ∀ id world, ∃ outcome left later,
        handle service clock (0 + ahead) id world (failures.fates (0 + ahead)) =
          ⟨.returned outcome, left, later⟩ := by
      intro ahead within id world
      rw [Nat.zero_add]
      exact handle_returned (found ahead within) id world
    obtain ⟨outcomes, left, processed⟩ := processed_of_returning returning world
    obtain ⟨result, returned, accounted⟩ := accounted_of_processed processed
    exact ⟨result, outcomes, left, returned, accounted⟩

/-! ## A lookup that fails -/

def sampleService : Service where
  brandId := "brand"
  actor := "user"
  paymentPublicUrl := "https://pay"
  mailFrom := ⟨"Billing", "billing@sample"⟩
  displayAmount amount _ := toString amount
  displayDate date := toString date
  renderHtml input := .ok input.body

def sampleInvoice (id : String) (status : InvoiceStatus) : InvoiceRow where
  id
  brandId := "brand"
  number := id
  status
  issuedAt := none
  currency := "USD"
  totalMinor := 500
  balanceMinor := 500
  dueDate := 9
  publicToken := id
  lineItemCount := 1
  customer := ⟨"Ann", some "ann@sample"⟩
  brand := ⟨"Brand", "#000000", none⟩

def sampleWorld : World where
  rows := {
    invoices := [sampleInvoice "first" .draft, sampleInvoice "second" .sent,
      sampleInvoice "third" .paid]
    settings := [⟨"brand", "Invoice", "Thank you.", .classic, "#171717"⟩]
    events := [] }
  others := []
  objects := []
  jobs := []
  accepted := []

def sampleIds : List String := ["first", "second", "third"]

def lostLookup : Failures
  | 1 => [some (false, .error "connection lost")]
  | _ => []

/-- The first invoice has been issued and mailed when the second lookup fails; the caller gets
the error and no result. -/
theorem lookup_failure_loses_batch :
    (bulkSend sampleService (fun _ => 3) lostLookup sampleIds sampleWorld).1 =
        .threw (.error "connection lost") ∧
      (bulkSend sampleService (fun _ => 3) lostLookup sampleIds sampleWorld).2.accepted.map
        Mail.invoiceId = ["first"] ∧
      ¬∃ result outcomes left,
        bulkSend sampleService (fun _ => 3) lostLookup sampleIds sampleWorld =
            (.returned result, left) ∧
          AccountedBy sampleService (fun _ => 3) lostLookup sampleIds outcomes result sampleWorld
            left := by
  have threw : (bulkSend sampleService (fun _ => 3) lostLookup sampleIds sampleWorld).1 =
      .threw (.error "connection lost") := by decide +kernel
  have mailed : (bulkSend sampleService (fun _ => 3) lostLookup sampleIds
      sampleWorld).2.accepted.map Mail.invoiceId = ["first"] := by decide +kernel
  refine ⟨threw, mailed, ?_⟩
  intro ⟨result, outcomes, left, returned, _⟩
  rw [returned] at threw
  cases threw

/-- The mail server refuses the first mail: the others are worked on all the same. -/
example :
    (bulkSend sampleService (fun _ => 3)
      (fun position => if position = 0 then
        [none, none, none, none, none, none, some (false, .other)] else [])
      sampleIds sampleWorld).1 =
      .returned ⟨["second"], [("third", "Already paid.")], [("first", mailRefused)]⟩ := by
  decide +kernel

end BulkSend

end MultiBrandInvoicing
