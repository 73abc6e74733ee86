import MultiBrandInvoicing.Ports.PaymentGateway
import MultiBrandInvoicing.Receipts.Emphasis
import MultiBrandInvoicing.Tables.Differences

/-!
# The audit of the brand settings

The saves of `apps/api/src/brands/brand-settings.service.ts` and what they record of the settings
row before and after.  `diffOf` compares the values of two rows with `===`, for which two lists
read from the database are never the same.
-/

set_option autoImplicit false

namespace MultiBrandInvoicing

namespace SettingsAudit

/-! ## The settings row -/

inductive PaymentPageLayout where
  | banner | centered | split
  deriving DecidableEq, Repr

inductive InvoicePdfLayout where
  | classic | modern | minimal
  deriving DecidableEq, Repr

inductive InvoicePdfPaymentTerms where
  | dueOnReceipt | net15 | net30 | net60
  deriving DecidableEq, Repr

def PaymentPageLayout.code : PaymentPageLayout → String
  | .banner => "BANNER"
  | .centered => "CENTERED"
  | .split => "SPLIT"

def emailReceiptLayoutCode : Receipts.EmailReceiptLayout → String
  | .classic => "CLASSIC"
  | .hero => "HERO"
  | .minimal => "MINIMAL"

def InvoicePdfLayout.code : InvoicePdfLayout → String
  | .classic => "CLASSIC"
  | .modern => "MODERN"
  | .minimal => "MINIMAL"

def InvoicePdfPaymentTerms.code : InvoicePdfPaymentTerms → String
  | .dueOnReceipt => "DUE_ON_RECEIPT"
  | .net15 => "NET_15"
  | .net30 => "NET_30"
  | .net60 => "NET_60"

structure BrandRow where
  id : String
  themeColor : String
  updatedAt : Time
  deriving DecidableEq, Repr

structure SettingsRow where
  brandId : String
  invoicePrefix : String
  nextSequence : Nat
  paymentTermsDays : Int
  lateFeeRateBp : Int
  defaultTaxRateId : Option String
  cardFeeRateBp : Int
  partialPaymentEnabled : Bool
  reminderSchedule : List Int
  cardEnabled : Bool
  applePayEnabled : Bool
  googlePayEnabled : Bool
  achEnabled : Bool
  checkEnabled : Bool
  accentColor : String
  paymentPageLayout : PaymentPageLayout
  emailReceiptLayout : Receipts.EmailReceiptLayout
  emailReceiptSubject : String
  emailReceiptBody : String
  paymentConfirmationSubject : String
  paymentConfirmationBody : String
  paymentFailedSubject : String
  paymentFailedBody : String
  invoicePdfLayout : InvoicePdfLayout
  invoicePdfShowCompanyAddress : Bool
  invoicePdfShowPaymentTerms : Bool
  invoicePdfShowTaxBreakdown : Bool
  invoicePdfShowNotes : Bool
  invoicePdfCompanyName : Option String
  invoicePdfCompanyAddress : Option String
  invoicePdfPaymentTerms : InvoicePdfPaymentTerms
  invoicePdfNotes : String
  createdAt : Time
  updatedAt : Time
  deriving DecidableEq, Repr

/-- The columns of the settings row, and the one of the brand's row that is audited with them. -/
inductive Column where
  | brandId | invoicePrefix | nextSequence | paymentTermsDays | lateFeeRateBp | defaultTaxRateId
  | cardFeeRateBp | partialPaymentEnabled | reminderSchedule | cardEnabled | applePayEnabled
  | googlePayEnabled | achEnabled | checkEnabled | accentColor | paymentPageLayout
  | emailReceiptLayout | emailReceiptSubject | emailReceiptBody | paymentConfirmationSubject
  | paymentConfirmationBody | paymentFailedSubject | paymentFailedBody | invoicePdfLayout
  | invoicePdfShowCompanyAddress | invoicePdfShowPaymentTerms | invoicePdfShowTaxBreakdown
  | invoicePdfShowNotes | invoicePdfCompanyName | invoicePdfCompanyAddress
  | invoicePdfPaymentTerms | invoicePdfNotes | createdAt | updatedAt
  | themeColor
  deriving DecidableEq, Repr

def settingsColumns : List Column :=
  [.brandId, .invoicePrefix, .nextSequence, .paymentTermsDays, .lateFeeRateBp, .defaultTaxRateId,
    .cardFeeRateBp, .partialPaymentEnabled, .reminderSchedule, .cardEnabled, .applePayEnabled,
    .googlePayEnabled, .achEnabled, .checkEnabled, .accentColor, .paymentPageLayout,
    .emailReceiptLayout, .emailReceiptSubject, .emailReceiptBody, .paymentConfirmationSubject,
    .paymentConfirmationBody, .paymentFailedSubject, .paymentFailedBody, .invoicePdfLayout,
    .invoicePdfShowCompanyAddress, .invoicePdfShowPaymentTerms, .invoicePdfShowTaxBreakdown,
    .invoicePdfShowNotes, .invoicePdfCompanyName, .invoicePdfCompanyAddress,
    .invoicePdfPaymentTerms, .invoicePdfNotes, .createdAt, .updatedAt]

/-! ## The values of the language -/

/-- Dates and lists are objects, known by the read that made them. -/
inductive Value where
  | null
  | boolean (value : Bool)
  | number (value : Int)
  | text (value : String)
  | date (read : Nat) (value : Time)
  | numbers (read : Nat) (items : List Int)
  deriving DecidableEq, Repr

def Value.content : Value → Value
  | .date _ value => .date 0 value
  | .numbers _ items => .numbers 0 items
  | value => value

/-- `===`: objects are the same if they are one object. -/
def strictlyEqual : Value → Value → Bool
  | .date first _, .date second _ => first = second
  | .numbers first _, .numbers second _ => first = second
  | first, second => first = second

def Value.isDate : Value → Bool
  | .date _ _ => true
  | _ => false

def nullable (value : Option String) : Value := (value.map Value.text).getD .null

def valueAt (read : Nat) (brand : BrandRow) (row : SettingsRow) : Column → Value
  | .brandId => .text row.brandId
  | .invoicePrefix => .text row.invoicePrefix
  | .nextSequence => .number row.nextSequence
  | .paymentTermsDays => .number row.paymentTermsDays
  | .lateFeeRateBp => .number row.lateFeeRateBp
  | .defaultTaxRateId => nullable row.defaultTaxRateId
  | .cardFeeRateBp => .number row.cardFeeRateBp
  | .partialPaymentEnabled => .boolean row.partialPaymentEnabled
  | .reminderSchedule => .numbers read row.reminderSchedule
  | .cardEnabled => .boolean row.cardEnabled
  | .applePayEnabled => .boolean row.applePayEnabled
  | .googlePayEnabled => .boolean row.googlePayEnabled
  | .achEnabled => .boolean row.achEnabled
  | .checkEnabled => .boolean row.checkEnabled
  | .accentColor => .text row.accentColor
  | .paymentPageLayout => .text row.paymentPageLayout.code
  | .emailReceiptLayout => .text (emailReceiptLayoutCode row.emailReceiptLayout)
  | .emailReceiptSubject => .text row.emailReceiptSubject
  | .emailReceiptBody => .text row.emailReceiptBody
  | .paymentConfirmationSubject => .text row.paymentConfirmationSubject
  | .paymentConfirmationBody => .text row.paymentConfirmationBody
  | .paymentFailedSubject => .text row.paymentFailedSubject
  | .paymentFailedBody => .text row.paymentFailedBody
  | .invoicePdfLayout => .text row.invoicePdfLayout.code
  | .invoicePdfShowCompanyAddress => .boolean row.invoicePdfShowCompanyAddress
  | .invoicePdfShowPaymentTerms => .boolean row.invoicePdfShowPaymentTerms
  | .invoicePdfShowTaxBreakdown => .boolean row.invoicePdfShowTaxBreakdown
  | .invoicePdfShowNotes => .boolean row.invoicePdfShowNotes
  | .invoicePdfCompanyName => nullable row.invoicePdfCompanyName
  | .invoicePdfCompanyAddress => nullable row.invoicePdfCompanyAddress
  | .invoicePdfPaymentTerms => .text row.invoicePdfPaymentTerms.code
  | .invoicePdfNotes => .text row.invoicePdfNotes
  | .createdAt => .date read row.createdAt
  | .updatedAt => .date read row.updatedAt
  | .themeColor => .text brand.themeColor

/-! ## The difference that is recorded -/

def nonContentColumns : List Column := [.createdAt, .updatedAt, .brandId, .nextSequence]

def maxAuditedValueLength : Nat := 200

/-- What the audit keeps of a value. -/
inductive Audited where
  | null
  | boolean (value : Bool)
  | number (value : Int)
  | text (value : String)
  deriving DecidableEq, Repr

/-- A long text is recorded as having changed. -/
def elided (text : String) : Audited :=
  if maxAuditedValueLength < Receipts.codeUnits text.toList then .text "<changed>" else .text text

def auditable : Value → Audited
  | .null => .null
  | .boolean value => .boolean value
  | .number value => .number value
  | .text value => elided value
  -- Dates are passed over before.
  | .date _ value => elided (toString value)
  | .numbers _ items => elided (",".intercalate (items.map toString))

structure Change where
  previous : Audited
  next : Audited
  deriving DecidableEq, Repr

def passesOver (column : Column) (previous next : Value) : Bool :=
  nonContentColumns.contains column || (previous.isDate || next.isDate) ||
    strictlyEqual previous next

def diffOf (columns : List Column) (before after : Column → Value) : List (Column × Change) :=
  (Records.differences passesOver columns before after).map fun entry =>
    (entry.1, ⟨auditable entry.2.1, auditable entry.2.2⟩)

def changesOf (before after : Column → Value) : List (Column × Change) :=
  diffOf settingsColumns before after ++ diffOf [.themeColor] before after

/-! ## The saves -/

structure PaymentMethodSettings where
  cardEnabled : Bool
  applePayEnabled : Bool
  googlePayEnabled : Bool
  achEnabled : Bool
  checkEnabled : Bool
  deriving DecidableEq, Repr

structure BrandElements where
  themeColor : String
  accentColor : String
  deriving DecidableEq, Repr

structure PaymentPageDisplay extends BrandElements where
  paymentPageLayout : PaymentPageLayout
  deriving DecidableEq, Repr

structure EmailReceiptSettings extends BrandElements where
  emailReceiptLayout : Receipts.EmailReceiptLayout
  emailReceiptSubject : String
  emailReceiptBody : String
  paymentConfirmationSubject : String
  paymentConfirmationBody : String
  paymentFailedSubject : String
  paymentFailedBody : String
  deriving DecidableEq, Repr

structure InvoicePdfSettings extends BrandElements where
  invoicePdfLayout : InvoicePdfLayout
  showCompanyAddress : Bool
  showPaymentTerms : Bool
  showTaxBreakdown : Bool
  showNotes : Bool
  companyName : Option String
  companyAddress : Option String
  paymentTerms : InvoicePdfPaymentTerms
  notes : String
  deriving DecidableEq, Repr

inductive Save where
  | paymentMethods (input : PaymentMethodSettings)
  | paymentPageDisplay (input : PaymentPageDisplay)
  | emailReceipt (input : EmailReceiptSettings)
  | invoicePdf (input : InvoicePdfSettings)
  deriving DecidableEq, Repr

def Save.action : Save → String
  | .paymentMethods _ => "BRAND_PAYMENT_METHODS_UPDATED"
  | .paymentPageDisplay _ => "BRAND_PAYMENT_PAGE_UPDATED"
  | .emailReceipt _ => "BRAND_EMAIL_RECEIPT_UPDATED"
  | .invoicePdf _ => "BRAND_INVOICE_PDF_UPDATED"

def PaymentMethodSettings.anyEnabled (input : PaymentMethodSettings) : Bool :=
  input.cardEnabled || input.applePayEnabled || input.googlePayEnabled || input.achEnabled ||
    input.checkEnabled

def Save.themeColor : Save → Option String
  | .paymentMethods _ => none
  | .paymentPageDisplay input => some input.themeColor
  | .emailReceipt input => some input.themeColor
  | .invoicePdf input => some input.themeColor

def Save.apply (row : SettingsRow) (now : Time) : Save → SettingsRow
  | .paymentMethods input =>
      { row with
        cardEnabled := input.cardEnabled
        applePayEnabled := input.applePayEnabled
        googlePayEnabled := input.googlePayEnabled
        achEnabled := input.achEnabled
        checkEnabled := input.checkEnabled
        updatedAt := now }
  | .paymentPageDisplay input =>
      { row with
        accentColor := input.accentColor
        paymentPageLayout := input.paymentPageLayout
        updatedAt := now }
  | .emailReceipt input =>
      { row with
        accentColor := input.accentColor
        emailReceiptLayout := input.emailReceiptLayout
        emailReceiptSubject := input.emailReceiptSubject
        emailReceiptBody := input.emailReceiptBody
        paymentConfirmationSubject := input.paymentConfirmationSubject
        paymentConfirmationBody := input.paymentConfirmationBody
        paymentFailedSubject := input.paymentFailedSubject
        paymentFailedBody := input.paymentFailedBody
        updatedAt := now }
  | .invoicePdf input =>
      { row with
        accentColor := input.accentColor
        invoicePdfLayout := input.invoicePdfLayout
        invoicePdfShowCompanyAddress := input.showCompanyAddress
        invoicePdfShowPaymentTerms := input.showPaymentTerms
        invoicePdfShowTaxBreakdown := input.showTaxBreakdown
        invoicePdfShowNotes := input.showNotes
        invoicePdfCompanyName := input.companyName
        invoicePdfCompanyAddress := input.companyAddress
        invoicePdfPaymentTerms := input.paymentTerms
        invoicePdfNotes := input.notes
        updatedAt := now }

/-- The brand's row is written only where its colour differs. -/
def Save.applyBrand (brand : BrandRow) (now : Time) (save : Save) : BrandRow :=
  match save.themeColor with
  | none => brand
  | some themeColor =>
      if themeColor = brand.themeColor then brand else { brand with themeColor, updatedAt := now }

structure Scope where
  merchantId : String
  userId : Option String
  sourceIp : Option String
  deriving DecidableEq, Repr

structure AuditEntry where
  merchantId : String
  brandId : String
  actorType : String
  actorId : Option String
  action : String
  objectType : String
  objectId : String
  sourceIp : Option String
  outcome : String
  changes : List (Column × Change)
  deriving DecidableEq, Repr

structure Store where
  brand : Option BrandRow
  settings : Option SettingsRow
  auditLog : List AuditEntry
  deriving DecidableEq, Repr

inductive Refusal where
  | notFound (message : String)
  | conflict (message : String)
  deriving DecidableEq, Repr

def record (scope : Scope) (brandId action : String) (changes : List (Column × Change)) :
    AuditEntry where
  merchantId := scope.merchantId
  brandId
  actorType := if scope.userId.isSome then "USER" else "SYSTEM"
  actorId := scope.userId
  action
  objectType := "BRAND_SETTINGS"
  objectId := brandId
  sourceIp := scope.sourceIp
  outcome := "SUCCESS"
  changes

def Save.isRefused : Save → Bool
  | .paymentMethods input => !input.anyEnabled
  | _ => false

/-- One save in its transaction.  The rows before come from one read, and the rows after from the
answers to the updates. -/
def save (scope : Scope) (brandId : String) (input : Save) (now : Time) (store : Store) :
    Except Refusal Store :=
  match store.brand with
  | none => .error (.notFound "brand not found")
  | some brand =>
      match store.settings with
      | none => .error (.notFound "brand settings not found")
      | some settings =>
          if input.isRefused then .error (.conflict "at least one payment method must stay enabled")
          else
            let nextBrand := input.applyBrand brand now
            let nextSettings := input.apply settings now
            let changes := changesOf (valueAt 0 brand settings) (valueAt 1 nextBrand nextSettings)
            .ok {
              brand := some nextBrand
              settings := some nextSettings
              auditLog := store.auditLog ++ [record scope brandId input.action changes] }

/-! ## Where the record is exact -/

/-- The changes name a column of content exactly if its content has become another. -/
def IsExact (before after : Column → Value) (changes : List (Column × Change)) : Prop :=
  ∀ column ∉ nonContentColumns,
    Records.ExactAt Value.content before after (changes.map Prod.fst) column

def Value.IsPlain (value : Value) : Prop := value.content = value ∧ value.isDate = false ∧
  ∀ other, strictlyEqual value other = decide (value = other)

theorem isPlain_nullable (value : Option String) : (nullable value).IsPlain := by
  cases value with
  | none => exact ⟨rfl, rfl, fun _ => rfl⟩
  | some value => exact ⟨rfl, rfl, fun _ => rfl⟩

theorem isPlain_valueAt {column : Column} (content : column ∉ nonContentColumns)
    (scalar : column ≠ .reminderSchedule) (read : Nat) (brand : BrandRow) (row : SettingsRow) :
    (valueAt read brand row column).IsPlain := by
  cases column
  case brandId => exact absurd (by decide) content
  case nextSequence => exact absurd (by decide) content
  case createdAt => exact absurd (by decide) content
  case updatedAt => exact absurd (by decide) content
  case reminderSchedule => exact absurd rfl scalar
  case defaultTaxRateId => exact isPlain_nullable _
  case invoicePdfCompanyName => exact isPlain_nullable _
  case invoicePdfCompanyAddress => exact isPlain_nullable _
  all_goals exact ⟨rfl, rfl, fun _ => rfl⟩

theorem mem_diffOf {columns : List Column} {before after : Column → Value} {column : Column} :
    column ∈ (diffOf columns before after).map Prod.fst ↔
      column ∈ columns ∧ passesOver column (before column) (after column) = false := by
  rw [← Records.mem_differences, diffOf, List.map_map]
  rfl

theorem mem_changesOf {before after : Column → Value} {column : Column} :
    column ∈ (changesOf before after).map Prod.fst ↔
      passesOver column (before column) (after column) = false := by
  have listed : column ∈ settingsColumns ∨ column ∈ [Column.themeColor] := by
    cases column <;> decide
  rw [changesOf, List.map_append, List.mem_append, mem_diffOf, mem_diffOf, ← or_and_right]
  exact and_iff_right listed

theorem passesOver_plain {column : Column} (content : column ∉ nonContentColumns)
    {previous next : Value} (first : previous.IsPlain) (second : next.IsPlain) :
    passesOver column previous next = true ↔ previous.content = next.content := by
  have kept : nonContentColumns.contains column = false := by simpa using content
  rw [passesOver, kept, first.2.1, second.2.1, first.2.2, first.1, second.1]
  simp

theorem changesOf_exactAt {column : Column} (content : column ∉ nonContentColumns)
    (scalar : column ≠ .reminderSchedule) (brand nextBrand : BrandRow)
    (settings nextSettings : SettingsRow) :
    Records.ExactAt Value.content (valueAt 0 brand settings) (valueAt 1 nextBrand nextSettings)
      ((changesOf (valueAt 0 brand settings) (valueAt 1 nextBrand nextSettings)).map Prod.fst)
      column := by
  have same := passesOver_plain content (isPlain_valueAt content scalar 0 brand settings)
    (isPlain_valueAt content scalar 1 nextBrand nextSettings)
  rw [Records.ExactAt, mem_changesOf, ← Bool.not_eq_true]
  exact not_congr same

/-! ## The schedule of the reminders -/

/-- The schedule is recorded at every save, as two reads make two lists. -/
theorem reminderSchedule_recorded (brand nextBrand : BrandRow)
    (settings nextSettings : SettingsRow) :
    .reminderSchedule ∈ (changesOf (valueAt 0 brand settings)
      (valueAt 1 nextBrand nextSettings)).map Prod.fst :=
  mem_changesOf.mpr rfl

theorem reminderSchedule_apply (input : Save) (row : SettingsRow) (now : Time) :
    (input.apply row now).reminderSchedule = row.reminderSchedule := by
  cases input with
  | paymentMethods => rfl
  | paymentPageDisplay => rfl
  | emailReceipt => rfl
  | invoicePdf => rfl

def Save.changes (input : Save) (brand : BrandRow) (settings : SettingsRow) (now : Time) :
    List (Column × Change) :=
  changesOf (valueAt 0 brand settings)
    (valueAt 1 (input.applyBrand brand now) (input.apply settings now))

theorem Save.changes_ne_nil (input : Save) (brand : BrandRow) (settings : SettingsRow)
    (now : Time) : input.changes brand settings now ≠ [] := by
  intro none_
  have recorded := reminderSchedule_recorded brand (input.applyBrand brand now) settings
    (input.apply settings now)
  rw [← Save.changes, none_] at recorded
  cases recorded

theorem Save.changes_not_exact (input : Save) (brand : BrandRow) (settings : SettingsRow)
    (now : Time) :
    ¬IsExact (valueAt 0 brand settings)
      (valueAt 1 (input.applyBrand brand now) (input.apply settings now))
      (input.changes brand settings now) := by
  intro exact_
  have recorded := reminderSchedule_recorded brand (input.applyBrand brand now) settings
    (input.apply settings now)
  have moved := (exact_ .reminderSchedule (by decide)).mp recorded
  have unmoved := reminderSchedule_apply input settings now
  simp [valueAt, Value.content, unmoved] at moved

theorem save_ok {scope : Scope} {brandId : String} {input : Save} {now : Time}
    {store saved : Store} (accepted : save scope brandId input now store = .ok saved) :
    ∃ brand settings, store.brand = some brand ∧ store.settings = some settings ∧
      saved = {
        brand := some (input.applyBrand brand now)
        settings := some (input.apply settings now)
        auditLog := store.auditLog ++ [record scope brandId input.action
          (input.changes brand settings now)] } := by
  unfold save at accepted
  cases foundBrand : store.brand with
  | none => simp [foundBrand] at accepted
  | some brand =>
      cases foundSettings : store.settings with
      | none => simp [foundBrand, foundSettings] at accepted
      | some settings =>
          simp only [foundBrand, foundSettings] at accepted
          split_ifs at accepted
          exact ⟨brand, settings, rfl, rfl, (Except.ok.inj accepted).symm⟩

/-- No accepted save records its changes exactly, and none records that nothing has changed. -/
theorem audit_never_exact {scope : Scope} {brandId : String} {input : Save} {now : Time}
    {store saved : Store} (accepted : save scope brandId input now store = .ok saved) :
    ∃ brand settings nextBrand nextSettings changes,
      store.brand = some brand ∧ store.settings = some settings ∧
      saved.brand = some nextBrand ∧ saved.settings = some nextSettings ∧
      saved.auditLog = store.auditLog ++ [record scope brandId input.action changes] ∧
      ¬IsExact (valueAt 0 brand settings) (valueAt 1 nextBrand nextSettings) changes ∧
      changes ≠ [] := by
  obtain ⟨brand, settings, foundBrand, foundSettings, rfl⟩ := save_ok accepted
  exact ⟨brand, settings, _, _, _, foundBrand, foundSettings, rfl, rfl, rfl,
    input.changes_not_exact brand settings now, input.changes_ne_nil brand settings now⟩

def sampleSettings : SettingsRow where
  brandId := "brand"
  invoicePrefix := "INV"
  nextSequence := 1
  paymentTermsDays := 30
  lateFeeRateBp := 0
  defaultTaxRateId := none
  cardFeeRateBp := 0
  partialPaymentEnabled := false
  reminderSchedule := [-7, 3]
  cardEnabled := true
  applePayEnabled := false
  googlePayEnabled := false
  achEnabled := false
  checkEnabled := false
  accentColor := "#171717"
  paymentPageLayout := .banner
  emailReceiptLayout := .classic
  emailReceiptSubject := "Invoice"
  emailReceiptBody := "Thank you."
  paymentConfirmationSubject := "Payment received"
  paymentConfirmationBody := "Thank you."
  paymentFailedSubject := "Payment failed"
  paymentFailedBody := "Please try again."
  invoicePdfLayout := .classic
  invoicePdfShowCompanyAddress := true
  invoicePdfShowPaymentTerms := true
  invoicePdfShowTaxBreakdown := true
  invoicePdfShowNotes := true
  invoicePdfCompanyName := none
  invoicePdfCompanyAddress := none
  invoicePdfPaymentTerms := .dueOnReceipt
  invoicePdfNotes := ""
  createdAt := 0
  updatedAt := 0

def sampleBrand : BrandRow := ⟨"brand", "#2D6A6A", 0⟩

def sampleStore : Store where
  brand := some sampleBrand
  settings := some sampleSettings
  auditLog := []

def sampleScope : Scope := ⟨"merchant", some "user", none⟩

def sampleSave : Save := .paymentMethods ⟨true, false, false, false, false⟩

/-- Saved again, they are recorded as a change of the reminders. -/
theorem unchanged_save_recorded :
    sampleSave.changes sampleBrand sampleSettings 5 =
        [(.reminderSchedule, ⟨.text "-7,3", .text "-7,3"⟩)] ∧
      ¬IsExact (valueAt 0 sampleBrand sampleSettings)
        (valueAt 1 (sampleSave.applyBrand sampleBrand 5) (sampleSave.apply sampleSettings 5))
        (sampleSave.changes sampleBrand sampleSettings 5) :=
  ⟨by decide +kernel, sampleSave.changes_not_exact sampleBrand sampleSettings 5⟩

theorem audit_never_exact_sample :
    ∃ saved, save sampleScope "brand" sampleSave 5 sampleStore = .ok saved ∧
      ∃ brand settings nextBrand nextSettings changes,
        sampleStore.brand = some brand ∧ sampleStore.settings = some settings ∧
        saved.brand = some nextBrand ∧ saved.settings = some nextSettings ∧
        saved.auditLog =
          sampleStore.auditLog ++ [record sampleScope "brand" sampleSave.action changes] ∧
        ¬IsExact (valueAt 0 brand settings) (valueAt 1 nextBrand nextSettings) changes ∧
        changes ≠ [] :=
  ⟨_, rfl, audit_never_exact rfl⟩

end SettingsAudit

end MultiBrandInvoicing
