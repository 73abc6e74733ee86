import MultiBrandInvoicing.Admin.SetupSteps
import MultiBrandInvoicing.Merchants.WebsiteDomains
import MultiBrandInvoicing.ReadCommitted.Alone

/-!
# The forms of the setup

The actions under `apps/admin/src/app/brands` submit what a step asks for.  Whatever else is going
on, the form that is shown is taken and leads to what is owed next, until the setup is done.
-/

set_option autoImplicit false

namespace MultiBrandInvoicing.Onboarding

open ReadCommitted Program Merchants CompanyDetails Roles WebsiteDomains Texts

/-! ## Requests to the API -/

inductive ApiError where
  | forbidden
  | invalid
  | refused (error : MerchantError)

/-- A route that asks for the right to write brands, with what its schema has made of a body. -/
def request {α β : Type} (user : CurrentUser) (body : Option α) (call : α → Tx β) (store : Store) :
    Except ApiError (β × Store) :=
  match checkAccess ⟨user.role, .brands, .write, user.assignedBrandIds, none⟩ with
  | .denied _ => .error .forbidden
  | .allowed =>
    match body with
    | none => .error .invalid
    | some accepted => ((call accepted).alone store).mapError .refused

/-- The fields of a new brand that the form does not fill with constants. -/
structure BrandFormInput where
  legalName : String
  displayName : String
  businessType : String
  invoicePrefix : String

/-- `BUSINESS_TYPES` with their texts. -/
def businessTypeOf (code : String) : Option BusinessType :=
  [.soleProprietorship, .llc, .corporation, .partnership, .nonprofit].find? fun type =>
    businessTypeCode type = code

/-- The characters of `/^[A-Z0-9-]+$/`. -/
def prefixMarks : List Char := "ABCDEFGHIJKLMNOPQRSTUVWXYZ0123456789-".toList

def hasLength (text : List Char) (longest : Nat) : Prop :=
  text ≠ [] ∧ Receipts.codeUnits text ≤ longest

instance (text : List Char) (longest : Nat) : Decidable (hasLength text longest) :=
  inferInstanceAs (Decidable (_ ∧ _))

/-- The other fields of the body are constants that the schema accepts. -/
def createBrandSchema (input : BrandFormInput) : Option CreateBrandInput := do
  let legalName := trim input.legalName.toList
  let displayName := trim input.displayName.toList
  let invoicePrefix := trim input.invoicePrefix.toList
  let businessType ← businessTypeOf input.businessType
  if hasLength legalName 200 ∧ hasLength displayName 120 ∧ hasLength invoicePrefix 12 ∧
      invoicePrefix.all prefixMarks.contains = true then
    some {
      legalName := String.ofList legalName
      displayName := String.ofList displayName
      businessType := businessType
      phone := none
      email := none
      mailingAddress := none
      billingAddress := none
      taxId := none
      currency := "USD"
      timezone := "America/New_York"
      themeColor := "#2D6A6A"
      invoicePrefix := String.ofList invoicePrefix }
  else none

/-! ## The forms -/

def defaultBrandBusinessType : String := "LLC"

/-- The characters that `/[^A-Za-z0-9]/g` leaves, with their capitals. -/
def letterPairs : List (Char × Char) :=
  "ABCDEFGHIJKLMNOPQRSTUVWXYZ0123456789abcdefghijklmnopqrstuvwxyz".toList.zip
    "ABCDEFGHIJKLMNOPQRSTUVWXYZ0123456789ABCDEFGHIJKLMNOPQRSTUVWXYZ".toList

def invoicePrefixFrom (legalName : String) : String :=
  let derived := (legalName.toList.filterMap fun char => List.lookup char letterPairs).take 3
  if derived = [] then "INV" else String.ofList derived

inductive FormError where
  | nameless
  | couldNotSave (error : ApiError)
  | couldNotCreate (name : String) (error : ApiError)
  | couldNotFinish (error : ApiError)

/-- A form that has been filled in, with the ids and times that the database will draw. -/
inductive Submission where
  | companyDetails (input : CompanyDetailsInput) (logo : Option String) (now : Time)
  | brandStructure (choice : BrandStructure) (id : String) (now : Time)
  | brands (names : List String) (draws : Nat → String × Time) (now : Time)

section Actions

variable (jsonText : JsonValue → String) (user : CurrentUser)

/-- A logo that cannot be stored is given up. -/
def saveCompanyDetailsAction (input : CompanyDetailsInput) (logo : Option String) (now : Time)
    (store : Store) : Except FormError String × Store :=
  match request user (some input) (MerchantService.setCompanyDetails jsonText · now) store with
  | .error error => (.error (.couldNotSave error), store)
  | .ok (_, after) =>
    match request user logo (MerchantService.setLogo jsonText · now) after with
    | .error _ => (.ok "/brands/structure", after)
    | .ok (_, last) => (.ok "/brands/structure", last)

def chooseBrandStructureAction (choice : BrandStructure) (id : String) (now : Time)
    (store : Store) : Except FormError String × Store :=
  match request user (some choice)
      (MerchantService.chooseBrandStructure jsonText · id now) store with
  | .error error => (.error (.couldNotSave error), store)
  | .ok (some brand, after) => (.ok ("/brands/created?id=" ++ brand.id), after)
  | .ok (none, after) => (.ok "/brands/multi", after)

/-- Brands that have been created stay where a later one is refused. -/
def createBrands (businessType : String) (draws : Nat → String × Time) :
    List String → Nat → Store → Except FormError Unit × Store
  | [], _, store => (.ok (), store)
  | name :: rest, index, store =>
    let input := createBrandSchema ⟨name, name, businessType, invoicePrefixFrom name⟩
    let drawn := draws index
    match request user input (BrandsService.create jsonText · drawn.1 drawn.2) store with
    | .error error => (.error (.couldNotCreate name error), store)
    | .ok (_, after) => createBrands businessType draws rest (index + 1) after

def entries (names : List String) : List String :=
  (names.map fun name => String.ofList (trim name.toList)).filter (· ≠ "")

def createBrandsAction (names : List String) (draws : Nat → String × Time) (now : Time)
    (store : Store) : Except FormError String × Store :=
  if entries names = [] then (.error .nameless, store)
  else
    let details := (getMerchantOnboarding user store).companyDetails
    let businessType := (details.map CompanyDetailsView.businessType).getD defaultBrandBusinessType
    match createBrands jsonText user businessType draws (entries names) 0 store with
    | (.error error, after) => (.error error, after)
    | (.ok (), after) =>
      match request user (some ())
          (fun _ => MerchantService.completeOnboarding jsonText (reaches user) now) after with
      | .error error => (.error (.couldNotFinish error), after)
      | .ok (_, last) => (.ok "/", last)

def submit (store : Store) : Submission → Except FormError String × Store
  | .companyDetails input logo now => saveCompanyDetailsAction jsonText user input logo now store
  | .brandStructure choice id now => chooseBrandStructureAction jsonText user choice id now store
  | .brands names draws now => createBrandsAction jsonText user names draws now store

end Actions

theorem request_allowed {user : CurrentUser} (may : can user.role .brands .write = true)
    {α β : Type} (body : Option α) (call : α → Tx β) (store : Store) :
    request user body call store =
      body.elim (.error .invalid) fun accepted =>
        ((call accepted).alone store).mapError .refused := by
  have allowed : checkAccess ⟨user.role, .brands, .write, user.assignedBrandIds, none⟩ = .allowed :=
    checkAccess_allowed.mpr ⟨may, fun _ named => nomatch named⟩
  unfold request
  rw [allowed]
  cases body <;> rfl

theorem request_of_write {user : CurrentUser} (may : can user.role .brands .write = true)
    {α β : Type} {body : Option α} {accepted : α} {call : α → Tx β}
    {value : β} {store after : Store} (taken : body = some accepted)
    (ran : (call accepted).alone store = .ok (value, after)) :
    request user body call store = .ok (value, after) := by
  rw [request_allowed may, taken, Option.elim_some, ran]
  rfl

/-! ## What the schema makes of a name -/

theorem businessTypeOf_code (type : BusinessType) :
    businessTypeOf (businessTypeCode type) = some type := by
  cases type <;> decide

theorem prefixMarks_plain {mark : Char} (member : prefixMarks.contains mark = true) :
    isTrimmed mark = false ∧ isAscii mark = true := by
  have all : (prefixMarks.all fun mark => !isTrimmed mark && isAscii mark) = true := by decide
  have plain := List.all_eq_true.mp all mark (List.contains_iff_mem.mp member)
  rwa [Bool.and_eq_true, Bool.not_eq_true'] at plain

theorem letterPairs_marks {char mark : Char} (found : List.lookup char letterPairs = some mark) :
    prefixMarks.contains mark = true := by
  have all : (letterPairs.all fun pair => prefixMarks.contains pair.2) = true := by
    decide +kernel
  obtain ⟨before, after, split_, -⟩ := List.lookup_eq_some_iff.mp found
  exact List.all_eq_true.mp all (char, mark) (by simp [split_])

/-- A prefix that is derived from a name is one to three marks. -/
theorem invoicePrefixFrom_marks (name : String) :
    (invoicePrefixFrom name).toList ≠ [] ∧ (invoicePrefixFrom name).toList.length ≤ 3 ∧
      (invoicePrefixFrom name).toList.all prefixMarks.contains = true := by
  unfold invoicePrefixFrom
  dsimp only
  split
  next => decide
  next derived =>
    rw [String.toList_ofList]
    refine ⟨derived, List.length_take_le _ _, ?_⟩
    rw [List.all_eq_true]
    intro mark member
    obtain ⟨char, -, found⟩ := List.mem_filterMap.mp (List.mem_of_mem_take member)
    exact letterPairs_marks found

/-- What is left of a name that the form has trimmed and that is not blank, if it is not too
long. -/
structure Takes (name : String) : Prop where
  named : name.toList ≠ []
  trimmed : trim name.toList = name.toList
  short : Receipts.codeUnits name.toList ≤ 120

theorem takes_of_entries {names : List String} {name : String} (member : name ∈ entries names)
    (short : Receipts.codeUnits name.toList ≤ 120) : Takes name := by
  obtain ⟨listed, filled⟩ := List.mem_filter.mp member
  obtain ⟨given, -, rfl⟩ := List.mem_map.mp listed
  refine ⟨?_, ?_, short⟩
  · intro blank
    rw [String.toList_ofList] at blank
    rw [blank] at filled
    exact absurd filled (by decide)
  · rw [String.toList_ofList, trim_trim]

theorem createBrandSchema_takes {name : String} (takes : Takes name) {code : String}
    {type : BusinessType} (known : businessTypeOf code = some type) :
    ∃ accepted, createBrandSchema ⟨name, name, code, invoicePrefixFrom name⟩ = some accepted := by
  obtain ⟨some_, few, marks⟩ := invoicePrefixFrom_marks name
  have plain : ∀ mark ∈ (invoicePrefixFrom name).toList,
      isTrimmed mark = false ∧ isAscii mark = true := by
    intro mark member
    exact prefixMarks_plain (List.all_eq_true.mp marks mark member)
  have kept := trim_eq_self fun mark member => (plain mark member).1
  have units := codeUnits_of_ascii fun mark member => (plain mark member).2
  have short := takes.short
  have accepts : hasLength name.toList 200 ∧ hasLength name.toList 120 ∧
      hasLength (invoicePrefixFrom name).toList 12 ∧
      (invoicePrefixFrom name).toList.all prefixMarks.contains = true :=
    ⟨⟨takes.named, by omega⟩, ⟨takes.named, short⟩, ⟨some_, by omega⟩, marks⟩
  simp only [createBrandSchema, known, takes.trimmed, kept, Option.bind_eq_bind,
    Option.bind_some, if_pos accepts]
  exact ⟨_, rfl⟩

theorem businessType_inherited {store : Store} (sound : Sound store) (user : CurrentUser) : ∃ type,
    businessTypeOf (((getMerchantOnboarding user store).companyDetails.map
      CompanyDetailsView.businessType).getD defaultBrandBusinessType) = some type := by
  change ∃ type, businessTypeOf (((companyDetailsOf store.merchant).map
    CompanyDetailsView.businessType).getD defaultBrandBusinessType) = some type
  cases staged : store.merchant.companyLegalName with
  | none =>
    rw [(companyDetailsOf_eq_none sound).mpr staged]
    exact ⟨.llc, by decide⟩
  | some name =>
    obtain ⟨written, typed⟩ := sound.named name staged
    obtain ⟨type, kept⟩ := Option.isSome_iff_exists.mp typed
    refine ⟨type, ?_⟩
    simp only [companyDetailsOf, staged, if_neg written, kept, Option.map_some, Option.getD_some]
    exact businessTypeOf_code type

/-! ## The forms on their own -/

section Forms

variable (jsonText : JsonValue → String)

theorem alone_focus_read {α : Type} (next : Merchants.Store → Merchants.Tx α) (store : Store) :
    (Program.focus (choicePart jsonText) (Program.read >>= next)).alone store =
      (Program.focus (choicePart jsonText) (next (chosenFrom jsonText store))).alone store :=
  rfl

theorem alone_chooseMulti {store : Store} (undecided : store.merchant.brandStructure = none)
    (id : String) (now : Time) :
    (MerchantService.chooseBrandStructure jsonText .multi id now).alone store =
      .ok (none, (Effect.brandStructure (.decide .multi none)).apply jsonText store) := by
  have chosen : (chosenFrom jsonText store).merchant.brandStructure = none := undecided
  rw [MerchantService.chooseBrandStructure, Merchants.MerchantService.chooseBrandStructure,
    alone_focus_read, chosen]
  rfl

/-- A brand that is there is adopted; else one is made of the details. -/
theorem alone_chooseSingle {store : Store} (sound : Sound store)
    (undecided : store.merchant.brandStructure = none)
    (ready : store.merchant.companyLegalName.isSome = true ∨ store.brands ≠ []) (id : String)
    (now : Time) :
    ∃ brand after, (MerchantService.chooseBrandStructure jsonText .single id now).alone store =
        .ok (some (Merchants.MerchantService.summary brand), after) ∧
      brand ∈ after.brands ∧ after.merchant.onboardingComplete = true ∧ Advances store after := by
  have chosen : (chosenFrom jsonText store).merchant.brandStructure = none := undecided
  rw [MerchantService.chooseBrandStructure, Merchants.MerchantService.chooseBrandStructure,
    alone_focus_read, chosen]
  dsimp only
  rw [Merchants.MerchantService.chooseSingle, alone_focus_read]
  cases found : Merchants.MerchantService.firstBrand? (chosenFrom jsonText store) with
  | some existing =>
    have listed : existing ∈ store.brands :=
      List.mem_insertionSort _ |>.mp (List.mem_of_mem_head? found)
    refine ⟨existing, (Effect.brandStructure (.decide .single (some true))).apply jsonText store,
      rfl, listed, rfl, ?_⟩
    exact advances_single jsonText sound (List.ne_nil_of_mem listed)
  | none =>
    have bare : store.brands = [] := Merchants.MerchantService.firstBrand?_eq_none.mp found
    have staged_ := ready.resolve_right fun some_ => some_ bare
    obtain ⟨name, named⟩ := Option.isSome_iff_exists.mp staged_
    obtain ⟨written, typed⟩ := sound.named name named
    obtain ⟨type, staged⟩ := Option.isSome_iff_exists.mp typed
    obtain ⟨brand, made⟩ : ∃ brand, Merchants.MerchantService.brandOf
        (chosenFrom jsonText store).merchant id now = some brand := by
      simp only [Merchants.MerchantService.brandOf, chosenFrom, named, staged, if_neg written]
      exact ⟨_, rfl⟩
    have created := advances_chosenBrand jsonText sound brand
    have some_ : store.brands ++ [brand] ≠ [] := by simp
    refine ⟨brand, (Effect.brandStructure (.decide .single (some true))).apply jsonText
      ((Effect.brandStructure (.createBrand brand)).apply jsonText store), ?_,
      List.mem_append_right _ (List.mem_singleton_self brand), rfl,
      created.andThen fun sound => advances_single jsonText sound some_⟩
    dsimp only
    rw [made]
    rfl

theorem createBrands_takes {user : CurrentUser} (may : can user.role .brands .write = true)
    {code : String} {type : BusinessType} (known : businessTypeOf code = some type)
    (draws : Nat → String × Time) :
    ∀ (names : List String) (index : Nat) (store : Store), (∀ name ∈ names, Takes name) →
      ∃ made : List Merchants.BrandRow, made.length = names.length ∧
        createBrands jsonText user code draws names index store =
          (.ok (), { store with brands := store.brands ++ made })
  | [], _, store, _ => ⟨[], rfl, by rw [List.append_nil]; rfl⟩
  | name :: rest, index, store, takes => by
    obtain ⟨input, accepted⟩ := createBrandSchema_takes (takes name (List.mem_cons_self ..)) known
    let row := BrandsService.rowOf jsonText input (draws index).1 (draws index).2
    have created : request user (createBrandSchema ⟨name, name, code, invoicePrefixFrom name⟩)
        (BrandsService.create jsonText · (draws index).1 (draws index).2) store =
          .ok (row, { store with brands := store.brands ++ [row] }) :=
      request_of_write may accepted rfl
    obtain ⟨made, long, ran⟩ := createBrands_takes may known draws rest (index + 1)
      { store with brands := store.brands ++ [row] }
      fun name member => takes name (List.mem_cons_of_mem _ member)
    refine ⟨row :: made, congrArg (· + 1) long, ?_⟩
    unfold createBrands
    simp only [created, ran, List.append_assoc, List.singleton_append]

end Forms

/-! ## The form that is shown -/

section Shown

variable (jsonText : JsonValue → String)

/-- The form of a step has been filled in, with names that are no longer than a display name may
be. -/
def Submission.Answers : Submission → Option OnboardingStep → Prop
  | .companyDetails _ _ _, step => step = some .companyDetails
  | .brandStructure _ _ _, step => step = some .brandStructure
  | .brands names _ _, step => step = some .multiBrandSetup ∧ entries names ≠ [] ∧
      ∀ name ∈ entries names, Receipts.codeUnits name.toList ≤ 120

/-- The page that a form leads to is the one of the step that is owed then, or shows the brand of
a setup that is done. -/
def LeadsOn (user : CurrentUser) (location : String) (after : Store) : Prop :=
  location = routeForStep (stepOf user after) ∨
    stepOf user after = none ∧
      ∃ brand ∈ after.brands, location = "/brands/created?id=" ++ brand.id

def Submission.Taken (submission : Submission) (user : CurrentUser) (store : Store) : Prop :=
  ∃ location after, submit jsonText user store submission = (.ok location, after) ∧
    Advances store after ∧ formsLeft (stepOf user after) < formsLeft (stepOf user store) ∧
    LeadsOn user location after

variable {user : CurrentUser} (may : can user.role .brands .write = true)
  (changed : user.mustResetPassword = false) {store : Store} (sound : Sound store)

include may changed sound

omit changed in
theorem saveCompanyDetails_stages (input : CompanyDetailsInput) (logo : Option String)
    (now : Time) :
    ∃ last, saveCompanyDetailsAction jsonText user input logo now store =
        (.ok "/brands/structure", last) ∧ Advances store last ∧
      last.merchant.onboardingComplete = store.merchant.onboardingComplete ∧
      last.merchant.brandStructure = store.merchant.brandStructure ∧
      last.merchant.companyLegalName = some input.legalName := by
  let after := (Effect.companyDetails input now).apply jsonText store
  have staged : request user (some input) (MerchantService.setCompanyDetails jsonText · now) store =
      .ok ((), after) := request_of_write may rfl rfl
  have advances : Advances store after := advances_companyDetails jsonText sound input now
  cases logo with
  | none =>
    have refused : request user none (MerchantService.setLogo jsonText · now) after =
        .error .invalid := request_allowed may none _ after
    refine ⟨after, ?_, advances, rfl, rfl, rfl⟩
    unfold saveCompanyDetailsAction
    simp only [staged, refused]
  | some key =>
    let last := (Effect.companyLogo key now).apply jsonText after
    have stored : request user (some key) (MerchantService.setLogo jsonText · now) after =
        .ok ((), last) := request_of_write may rfl rfl
    refine ⟨last, ?_, ?_, rfl, rfl, rfl⟩
    · unfold saveCompanyDetailsAction
      simp only [staged, stored]
    · exact advances.andThen fun sound => advances_companyLogo jsonText sound key now

theorem taken_companyDetails (input : CompanyDetailsInput) (logo : Option String) (now : Time)
    (shown : stepOf user store = some .companyDetails) :
    (Submission.companyDetails input logo now).Taken jsonText user store := by
  obtain ⟨incomplete, undecided⟩ := of_companyDetails may changed shown
  obtain ⟨last, saved, advances, complete, structure_, named⟩ :=
    saveCompanyDetails_stages jsonText may sound input logo now
  have owed : stepOf user last = some .brandStructure :=
    stepOf_ready may changed advances.1 (complete.trans incomplete) (structure_.trans undecided)
      (Option.isSome_of_eq_some named)
  refine ⟨"/brands/structure", last, saved, advances, ?_, .inl ?_⟩
  · rw [owed, shown]
    decide
  · rw [owed]
    rfl

theorem taken_brandStructure (choice : BrandStructure) (id : String) (now : Time)
    (shown : stepOf user store = some .brandStructure) :
    (Submission.brandStructure choice id now).Taken jsonText user store := by
  obtain ⟨incomplete, undecided, ready⟩ := of_brandStructure may changed sound shown
  cases choice with
  | multi =>
    let after := (Effect.brandStructure (.decide .multi none)).apply jsonText store
    have chosen : request user (some .multi)
        (MerchantService.chooseBrandStructure jsonText · id now) store = .ok (none, after) :=
      request_of_write may rfl (alone_chooseMulti jsonText undecided id now)
    have owed : stepOf user after = some .multiBrandSetup :=
      stepOf_multi may changed incomplete rfl
    refine ⟨"/brands/multi", after, ?_, advances_multi jsonText sound, ?_, .inl ?_⟩
    · unfold submit chooseBrandStructureAction
      simp only [chosen]
    · rw [owed, shown]
      decide
    · rw [owed]
      rfl
  | single =>
    obtain ⟨brand, after, ran, listed, complete, advances⟩ :=
      alone_chooseSingle jsonText sound undecided ready id now
    have chosen : request user (some .single)
        (MerchantService.chooseBrandStructure jsonText · id now) store =
          .ok (some (Merchants.MerchantService.summary brand), after) :=
      request_of_write may rfl ran
    have owed := stepOf_complete may changed complete
    refine ⟨"/brands/created?id=" ++ brand.id, after, ?_, advances, ?_, .inr ⟨owed, brand, listed,
      rfl⟩⟩
    · unfold submit chooseBrandStructureAction
      simp only [chosen]
      rfl
    · rw [owed, shown]
      decide

theorem taken_brands (names : List String) (draws : Nat → String × Time) (now : Time)
    (shown : stepOf user store = some .multiBrandSetup) (some_ : entries names ≠ [])
    (short : ∀ name ∈ entries names, Receipts.codeUnits name.toList ≤ 120) :
    (Submission.brands names draws now).Taken jsonText user store := by
  obtain ⟨incomplete, decided⟩ := of_multiBrandSetup may changed sound shown
  obtain ⟨type, known⟩ := businessType_inherited sound user
  obtain ⟨made, long, created⟩ := createBrands_takes jsonText may known draws (entries names) 0
    store fun name member => takes_of_entries member (short name member)
  have new : made ≠ [] := by
    intro none_
    rw [none_] at long
    exact some_ (List.length_eq_zero_iff.mp long.symm)
  let after : Store := { store with brands := store.brands ++ made }
  let last := (Effect.complete now).apply jsonText after
  have seen : ¬after.brands.countP (reaches user) < 1 := by
    obtain ⟨brand, listed⟩ := List.exists_mem_of_ne_nil made new
    have reached : reaches user brand = true := by
      rw [reaches, coversAllBrands_of_write may, Bool.true_or]
    have visible := List.mem_append_right store.brands listed
    exact Nat.not_lt.mpr (List.countP_pos_iff.mpr ⟨brand, visible, reached⟩)
  have finished : request user (some ())
      (fun _ => MerchantService.completeOnboarding jsonText (reaches user) now) after =
        .ok ((), last) := by
    apply request_of_write may rfl
    change (Program.alone (if _ then _ else if _ then _ else _) _) = _
    rw [if_neg (not_not_intro decided), if_neg seen]
    rfl
  have advances : Advances store last :=
    (advances_brands sound new).andThen fun sound => advances_complete jsonText sound
      (fun none_ => new (List.append_eq_nil_iff.mp none_).2) now
  have owed : stepOf user last = none := stepOf_complete may changed rfl
  refine ⟨"/", last, ?_, advances, ?_, .inl ?_⟩
  · simp only [submit, createBrandsAction, if_neg some_, created]
    simp only [finished, after]
  · rw [owed, shown]
    decide
  · rw [owed]
    rfl

end Shown

/-! ## The setup of a merchant -/

section Setup

variable {ι : Type} [DecidableEq ι] (jsonText : JsonValue → String)

/-- However the calls on a merchant interleave, the step that a user is shown never goes back.  At
any time the form that is shown to one who may write brands is taken and leads to the page of the
step that is owed next, until the setup is done. -/
theorem setup_progresses {store : Store} (sound : Sound store) (calls : ι → Call)
    (earlier : List (ReadCommitted.Action ι)) {user : CurrentUser}
    (may : can user.role .brands .write = true) (changed : user.mustResetPassword = false) :
    let now_ := committedAfter jsonText calls store earlier
    (∀ (other : CurrentUser) (later : List (ReadCommitted.Action ι)),
        formsLeft (stepOf other (committedAfter jsonText calls store (earlier ++ later))) ≤
          formsLeft (stepOf other now_)) ∧
      formsLeft (stepOf user now_) ≤ 3 ∧
      ∀ submission : Submission, submission.Answers (stepOf user now_) →
        submission.Taken jsonText user now_ := by
  have soundNow := run_advances jsonText sound calls [] earlier |>.1
  rw [List.nil_append] at soundNow
  refine ⟨?_, ?_, ?_⟩
  · intro other later
    have advances := run_advances jsonText sound calls earlier later
    exact formsLeft_mono (later_of_forward soundNow advances other) other
  · rw [stepOf_of_write may changed]
    split
    · exact Nat.zero_le _
    · unfold resolveSetupStep
      split <;> (try split) <;> decide
  · intro submission answers
    cases submission with
    | companyDetails input logo now =>
      exact taken_companyDetails jsonText may changed soundNow input logo now answers
    | brandStructure choice id now =>
      exact taken_brandStructure jsonText may changed soundNow choice id now answers
    | brands names draws now =>
      obtain ⟨shown, some_, short⟩ := answers
      exact taken_brands jsonText may changed soundNow names draws now shown some_ short

end Setup

/-! ## A setup with several brands -/

def sampleSignedUp : Store where
  merchant := { sampleStore.merchant with
    companyLegalName := none
    companyBusinessType := none }
  brands := []

def sampleOwner : CurrentUser := ⟨.merchantOwner, [], false⟩

/-- The details are saved in one window while another chooses several brands. -/
def sampleCalls : Bool → Call
  | false => .companyDetails sampleInput 5
  | true => .brandStructure .multi "b1" 6

def sampleWindows : List (ReadCommitted.Action Bool) :=
  [.advance true, .advance false, .advance true, .advance false, .advance true, .advance false,
    .advance true]

def sampleNames : Submission :=
  .brands ["Acme", " ", " Beta "] (fun index => (toString index, 7)) 8

theorem setup_progresses_sample :
    sampleNames.Taken (fun _ => "") sampleOwner
      (committedAfter (fun _ => "") sampleCalls sampleSignedUp sampleWindows) := by
  have sound : Sound sampleSignedUp := by
    constructor
    · intro single
      cases single
    · intro complete
      cases complete
    · intro name named
      cases named
  refine (setup_progresses (fun _ => "") sound sampleCalls sampleWindows (by decide)
    rfl).2.2 sampleNames ⟨?_, ?_, ?_⟩
  · decide +kernel
  · decide +kernel
  · decide +kernel

end MultiBrandInvoicing.Onboarding
