import MultiBrandInvoicing.Merchants.CompanyDetails
import MultiBrandInvoicing.ReadCommitted.Focus

/-!
# The onboarding of a merchant

All the calls that write the row of a merchant or add a brand to it: those of
`apps/api/src/merchant/merchant.service.ts` and `create` of
`apps/api/src/brands/brands.service.ts`.  Beside one another in any order of their statements they
keep the rows sound and take nothing back that an earlier one has staged or decided.
-/

set_option autoImplicit false

namespace MultiBrandInvoicing.Onboarding

open ReadCommitted Program Merchants CompanyDetails

structure Store where
  merchant : MerchantRow
  brands : List Merchants.BrandRow
  deriving DecidableEq

inductive Effect where
  | companyDetails (input : CompanyDetailsInput) (now : Time)
  | companyLogo (key : String) (now : Time)
  | createBrand (row : Merchants.BrandRow)
  | brandStructure (effect : MerchantEffect)
  | complete (now : Time)

abbrev Tx := Program Store Merchants.RowKey Effect MerchantError

section Rows

-- The text of a column of JSON.
variable (jsonText : JsonValue → String)

/-- `address ?? undefined`, where the null of JSON reads as null. -/
def addressText (column : Option JsonValue) : Option String :=
  match readJson column with
  | .null => none
  | value => some (jsonText value)

def chosenFrom (store : Store) : Merchants.Store where
  merchant := {
    companyLegalName := store.merchant.companyLegalName
    companyBusinessType := store.merchant.companyBusinessType
    companyPhone := store.merchant.companyPhone
    companyEmail := store.merchant.companyEmail
    companyMailingAddress := addressText jsonText store.merchant.companyMailingAddress
    companyBillingAddress := addressText jsonText store.merchant.companyBillingAddress
    companyTaxId := store.merchant.companyTaxId
    companyLogoKey := store.merchant.companyLogoKey
    brandStructure := store.merchant.brandStructure
    onboardingComplete := store.merchant.onboardingComplete }
  brands := store.brands

/-- Of the merchant it writes what has been decided. -/
def choicePart :
    Focus Store Merchants.RowKey Effect Merchants.Store Merchants.RowKey MerchantEffect where
  get := chosenFrom jsonText
  put part store :=
    { merchant := { store.merchant with
        brandStructure := part.merchant.brandStructure
        onboardingComplete := part.merchant.onboardingComplete }
      brands := part.brands }
  row := id
  label := .brandStructure

namespace Effect

def rows : Effect → List Merchants.RowKey
  | companyDetails _ _ => [.merchant]
  | companyLogo _ _ => [.merchant]
  | createBrand row => [.brand row.id]
  | brandStructure effect => effect.rows
  | complete _ => [.merchant]

def apply : Effect → Store → Store
  | companyDetails input now, store =>
    { store with
      merchant := (CompanyDetails.setCompanyDetails input now ⟨store.merchant, 0⟩).merchant }
  | companyLogo key now, store =>
    { store with merchant := { store.merchant with companyLogoKey := some key, updatedAt := now } }
  | createBrand row, store => { store with brands := store.brands ++ [row] }
  | brandStructure effect, store =>
    (choicePart jsonText).put (effect.apply ((choicePart jsonText).get store)) store
  | complete now, store =>
    { store with merchant := { store.merchant with onboardingComplete := true, updatedAt := now } }

end Effect

def perform (effect : Effect) : Tx Bool :=
  writeRows effect effect.rows (fun _ => true) (effect.apply jsonText)

/-! ## The calls -/

namespace MerchantService

def setCompanyDetails (input : CompanyDetailsInput) (now : Time) : Tx Unit := do
  let _ ← perform jsonText (.companyDetails input now)
  pure ()

/-- Once the file has been checked and stored under the key. -/
def setLogo (key : String) (now : Time) : Tx Unit := do
  let _ ← perform jsonText (.companyLogo key now)
  pure ()

def chooseBrandStructure (choice : BrandStructure) (id : String) (now : Time) :
    Tx (Option CreatedBrandSummary) :=
  (Merchants.MerchantService.chooseBrandStructure choice id now).focus (choicePart jsonText)

/-- The two queries are two statements; the second counts the brands that the scope reaches. -/
def completeOnboarding (reaches : Merchants.BrandRow → Bool) (now : Time) : Tx Unit := do
  let found ← read
  let counted ← read
  if found.merchant.brandStructure ≠ some .multi then
    .throw (.badRequest "onboarding is not in multi-brand setup")
  else if counted.brands.countP reaches < 1 then
    .throw (.badRequest "add at least one brand before finishing setup")
  else do
    let _ ← perform jsonText (.complete now)
    pure ()

end MerchantService

structure CreateBrandInput where
  legalName : String
  displayName : String
  businessType : BusinessType
  phone : Option String
  email : Option String
  mailingAddress : Option Address
  billingAddress : Option Address
  taxId : Option String
  currency : String
  timezone : String
  themeColor : String
  invoicePrefix : String

namespace BrandsService

def rowOf (input : CreateBrandInput) (id : String) (now : Time) : Merchants.BrandRow where
  id := id
  legalName := input.legalName
  displayName := input.displayName
  businessType := some input.businessType
  phone := input.phone
  email := input.email
  mailingAddress := input.mailingAddress.map fun address => jsonText (.address address)
  billingAddress := input.billingAddress.map fun address => jsonText (.address address)
  taxId := input.taxId
  logoKey := none
  currency := input.currency
  timezone := input.timezone
  themeColor := input.themeColor
  invoicePrefix := input.invoicePrefix
  createdAt := now

def create (input : CreateBrandInput) (id : String) (now : Time) : Tx Merchants.BrandRow := do
  let row := rowOf jsonText input id now
  let _ ← perform jsonText (.createBrand row)
  pure row

end BrandsService

/-- The calls that the shown step depends on; what else writes a brand changes nothing of it that
the step is told from. -/
inductive Call where
  | companyDetails (input : CompanyDetailsInput) (now : Time)
  | logo (key : String) (now : Time)
  | createBrand (input : CreateBrandInput) (id : String) (now : Time)
  | brandStructure (choice : BrandStructure) (id : String) (now : Time)
  | complete (reaches : Merchants.BrandRow → Bool) (now : Time)

def Call.program : Call → Tx Unit
  | .companyDetails input now => MerchantService.setCompanyDetails jsonText input now
  | .logo key now => MerchantService.setLogo jsonText key now
  | .createBrand input id now => BrandsService.create jsonText input id now >>= fun _ => pure ()
  | .brandStructure choice id now =>
    MerchantService.chooseBrandStructure jsonText choice id now >>= fun _ => pure ()
  | .complete reaches now => MerchantService.completeOnboarding jsonText reaches now

end Rows

/-! ## What every call keeps -/

/-- One brand is never decided on without its onboarding being complete, a merchant that is
complete has a brand, and a name is staged with a business type. -/
structure Sound (store : Store) : Prop where
  single : store.merchant.brandStructure = some .single → store.merchant.onboardingComplete = true
  complete : store.merchant.onboardingComplete = true → store.brands ≠ []
  named : ∀ name, store.merchant.companyLegalName = some name →
    name ≠ "" ∧ store.merchant.companyBusinessType.isSome = true

structure Forward (before after : Store) : Prop where
  named : before.merchant.companyLegalName.isSome = true →
    after.merchant.companyLegalName.isSome = true
  decided : before.merchant.brandStructure.isSome = true →
    after.merchant.brandStructure.isSome = true
  complete : before.merchant.onboardingComplete = true →
    after.merchant.onboardingComplete = true
  brands : before.brands <+: after.brands

theorem Forward.refl (store : Store) : Forward store store := ⟨id, id, id, List.prefix_rfl⟩

theorem Forward.trans {first second third : Store} (one : Forward first second)
    (two : Forward second third) : Forward first third :=
  ⟨two.named ∘ one.named, two.decided ∘ one.decided, two.complete ∘ one.complete,
    one.brands.trans two.brands⟩

theorem Forward.brands_ne_nil {before after : Store} (forward : Forward before after)
    (some_ : before.brands ≠ []) : after.brands ≠ [] := by
  intro none_
  have begins := forward.brands
  rw [none_] at begins
  exact some_ (List.prefix_nil.mp begins)

/-- The change keeps the rows sound and goes forward. -/
def Advances (store after : Store) : Prop := Sound after ∧ Forward store after

theorem Advances.andThen {store middle after : Store} (first : Advances store middle)
    (second : Sound middle → Advances middle after) : Advances store after := by
  obtain ⟨sound, forward⟩ := second first.1
  exact ⟨sound, first.2.trans forward⟩

section Effects

variable (jsonText : JsonValue → String) {store : Store}

theorem advances_companyDetails (sound : Sound store) (input : CompanyDetailsInput) (now : Time) :
    Advances store ((Effect.companyDetails input now).apply jsonText store) := by
  refine ⟨⟨sound.single, sound.complete, ?_⟩, fun _ => rfl, id, id, List.prefix_rfl⟩
  intro name named
  rw [← Option.some.inj named]
  exact ⟨input.named, rfl⟩

theorem advances_companyLogo (sound : Sound store) (key : String) (now : Time) :
    Advances store ((Effect.companyLogo key now).apply jsonText store) :=
  ⟨⟨sound.single, sound.complete, sound.named⟩, id, id, id, List.prefix_rfl⟩

theorem advances_brands (sound : Sound store) {made : List Merchants.BrandRow}
    (some_ : made ≠ []) : Advances store { store with brands := store.brands ++ made } := by
  refine ⟨⟨sound.single, ?_, sound.named⟩, id, id, id, List.prefix_append _ _⟩
  intro _ none_
  exact some_ (List.append_eq_nil_iff.mp none_).2

theorem advances_createBrand (sound : Sound store) (row : Merchants.BrandRow) :
    Advances store ((Effect.createBrand row).apply jsonText store) :=
  advances_brands sound (List.cons_ne_nil row [])

theorem advances_chosenBrand (sound : Sound store) (row : Merchants.BrandRow) :
    Advances store ((Effect.brandStructure (.createBrand row)).apply jsonText store) :=
  advances_createBrand jsonText sound row

theorem advances_single (sound : Sound store) (some_ : store.brands ≠ []) :
    Advances store
      ((Effect.brandStructure (.decide .single (some true))).apply jsonText store) :=
  ⟨⟨fun _ => rfl, fun _ => some_, sound.named⟩, id, fun _ => rfl, fun _ => rfl, List.prefix_rfl⟩

theorem advances_multi (sound : Sound store) :
    Advances store ((Effect.brandStructure (.decide .multi none)).apply jsonText store) := by
  refine ⟨⟨?_, sound.complete, sound.named⟩, id, fun _ => rfl, id, List.prefix_rfl⟩
  intro single
  cases single

theorem advances_complete (sound : Sound store) (some_ : store.brands ≠ []) (now : Time) :
    Advances store ((Effect.complete now).apply jsonText store) :=
  ⟨⟨fun _ => rfl, fun _ => some_, sound.named⟩, id, id, fun _ => rfl, List.prefix_rfl⟩

end Effects

/-! ## The texts of the calls -/

def rely : Rely Store Merchants.RowKey Unit where
  holds := Sound
  leads := Forward
  cell := fun _ _ => ()

def conduct : Conduct Store Effect MerchantError Unit where
  leaves := fun _ => Forward
  tells := fun _ _ _ => True
  ends := fun _ _ => True

def Settles {α : Type} (_ : α) (_ : Journal Store Effect) (pending : Store → Store)
    (_ : List Merchants.RowKey) (knows : Store → Prop) : Prop :=
  ∀ store, Sound store → knows store → Advances store (pending store)

theorem stable_brands {rows : List Merchants.RowKey} :
    rely.Stable rows fun store => store.brands ≠ [] := by
  intro before after _ forward _ some_
  exact forward.brands_ne_nil some_

section Texts

variable {α : Type} {journal : Journal Store Effect} {pending : Store → Store}
  {rows : List Merchants.RowKey} {knows : Store → Prop}

abbrev Goes (program : Tx α) (journal : Journal Store Effect) (pending : Store → Store)
    (rows : List Merchants.RowKey) (knows : Store → Prop) : Prop :=
  program.Follows rely conduct Settles journal pending rows knows

variable (jsonText : JsonValue → String)

theorem goes_perform {effect : Effect} {next : Bool → Tx α} (stable : rely.Stable rows knows)
    (rest : Goes (next true) (.wrote effect :: journal) (effect.apply jsonText ∘ pending)
      (effect.rows ++ rows) knows) :
    Goes (perform jsonText effect >>= next) journal pending rows knows := by
  intro store holds known
  refine ⟨fun _ => ⟨knows, stable.locked _, known, rest⟩, ?_⟩
  intro missed
  cases missed

theorem goes_decide {effect : MerchantEffect} {next : Bool → Merchants.Tx α}
    (stable : rely.Stable rows knows)
    (rest : Goes ((next true).focus (choicePart jsonText))
      (.wrote (.brandStructure effect) :: journal)
      ((Effect.brandStructure effect).apply jsonText ∘ pending)
      (effect.rows.map id ++ rows) knows) :
    Goes ((Merchants.perform effect >>= next).focus (choicePart jsonText)) journal pending rows
      knows := by
  intro store holds known
  refine ⟨fun _ => ⟨knows, stable.locked _, known, rest⟩, ?_⟩
  intro missed
  cases missed

theorem choicePart_get (store : Store) :
    (choicePart jsonText).get store = chosenFrom jsonText store := rfl

theorem goes_write {effect : Effect} {value : α}
    (advances : ∀ store, Sound store → Advances store (effect.apply jsonText store)) :
    Goes (perform jsonText effect >>= fun _ => pure value) journal id [] fun _ => True :=
  goes_perform jsonText Rely.stable_true fun store sound _ => advances store sound

theorem goes_chooseSingle (merchant : Merchant) (brandId : String) (now : Time) :
    Goes ((Merchants.MerchantService.chooseSingle merchant brandId now).focus
      (choicePart jsonText)) journal id [] fun _ => True := by
  intro second sound _
  cases found : Merchants.MerchantService.firstBrand? (chosenFrom jsonText second) with
  | some existing =>
    -- The brand that has been found stays, whatever the others commit.
    have some_ : second.brands ≠ [] := by
      intro none_
      rw [Merchants.MerchantService.firstBrand?_eq_none.mpr none_] at found
      cases found
    refine ⟨fun store => store.brands ≠ [], stable_brands, some_, ?_⟩
    simp only [choicePart_get, id, Program.bind, found]
    exact goes_decide jsonText stable_brands fun store sound known =>
      advances_single jsonText sound known
  | none =>
    refine ⟨fun _ => True, Rely.stable_true, trivial, ?_⟩
    simp only [choicePart_get, id, Program.bind, found]
    cases made : Merchants.MerchantService.brandOf merchant brandId now with
    | none => exact trivial
    | some brand =>
      refine goes_decide jsonText Rely.stable_true (goes_decide jsonText Rely.stable_true ?_)
      intro store sound _
      refine (advances_chosenBrand jsonText sound brand).andThen fun sound => ?_
      have some_ : store.brands ++ [brand] ≠ [] := by simp
      exact advances_single jsonText sound some_

theorem goes_chooseBrandStructure (choice : BrandStructure) (brandId : String) (now : Time) :
    Goes (MerchantService.chooseBrandStructure jsonText choice brandId now) journal id [] fun _ =>
      True := by
  have idle : ∀ store, Sound store → True → Advances store (id store) :=
    fun store sound _ => ⟨sound, Forward.refl store⟩
  intro first sound _
  refine ⟨fun _ => True, Rely.stable_true, trivial, ?_⟩
  cases decided : first.merchant.brandStructure with
  | some stored =>
    cases stored with
    | single =>
      simp only [choicePart_get, id, Program.bind, chosenFrom, decided]
      exact fun second sound _ => ⟨fun _ => True, Rely.stable_true, trivial, idle⟩
    | multi =>
      simp only [choicePart_get, id, Program.bind, chosenFrom, decided]
      exact idle
  | none =>
    simp only [choicePart_get, id, Program.bind, chosenFrom, decided]
    cases choice with
    | multi =>
      exact goes_decide jsonText Rely.stable_true fun store sound _ =>
        advances_multi jsonText sound
    | single => exact goes_chooseSingle jsonText _ brandId now

theorem goes_completeOnboarding (reaches : Merchants.BrandRow → Bool) (now : Time) :
    Goes (MerchantService.completeOnboarding jsonText reaches now) journal id [] fun _ => True := by
  intro first sound _
  refine ⟨fun _ => True, Rely.stable_true, trivial, ?_⟩
  intro second sound _
  by_cases few : second.brands.countP reaches < 1
  · refine ⟨fun _ => True, Rely.stable_true, trivial, ?_⟩
    simp only [id, Program.bind, if_pos few]
    split <;> exact trivial
  · have some_ : second.brands ≠ [] := by
      intro none_
      rw [none_, List.countP_nil] at few
      exact few Nat.one_pos
    refine ⟨fun store => store.brands ≠ [], stable_brands, some_, ?_⟩
    simp only [id, Program.bind, if_neg few]
    split
    · exact trivial
    · exact goes_perform jsonText stable_brands fun store sound known =>
        advances_complete jsonText sound known now

theorem goes_discard {program : Tx α} (goes : Goes program journal pending rows knows) :
    Goes (program >>= fun _ => pure ()) journal pending rows knows :=
  goes.bind fun _ _ _ _ _ settles => settles

theorem call_follows (call : Call) :
    (call.program jsonText).Follows rely conduct (conduct.finishes rely) [] id [] fun _ =>
      True := by
  have goes : Goes (call.program jsonText) [] id [] fun _ => True := by
    cases call with
    | companyDetails input now =>
      exact goes_write jsonText fun store sound => advances_companyDetails jsonText sound input now
    | logo key now =>
      exact goes_write jsonText fun store sound => advances_companyLogo jsonText sound key now
    | createBrand input id now =>
      exact goes_discard (goes_write jsonText fun store sound =>
        advances_createBrand jsonText sound (BrandsService.rowOf jsonText input id now))
    | brandStructure choice id now =>
      exact goes_discard (goes_chooseBrandStructure jsonText choice id now)
    | complete reaches now => exact goes_completeOnboarding jsonText reaches now
  refine goes.mono ?_
  intro value journal pending rows knows settles store sound known
  obtain ⟨sound, forward⟩ := settles store sound known
  exact ⟨⟨sound, forward, fun _ _ => rfl, forward⟩, trivial⟩

end Texts

/-! ## Calls beside one another -/

section Runs

variable {ι : Type} [DecidableEq ι] (jsonText : JsonValue → String)

abbrev OnboardingRun (ι : Type) := Journaled ι Store Merchants.RowKey Effect MerchantError Unit

def onboardingStart (calls : ι → Call) (store : Store) : OnboardingRun ι :=
  Journaled.start store fun session => (calls session).program jsonText

def committedAfter (calls : ι → Call) (store : Store)
    (schedule : List (ReadCommitted.Action ι)) : Store :=
  (schedule.foldl Journaled.step (onboardingStart jsonText calls store)).config.committed

theorem forward_along {state : OnboardingRun ι} (along : state.Along rely fun _ => conduct)
    (schedule : List (ReadCommitted.Action ι)) :
    let last := schedule.foldl Journaled.step state
    last.Along rely (fun _ => conduct) ∧ Forward state.config.committed last.config.committed := by
  have always := Journaled.always_of_every_shift
    (fun committed _ => Forward state.config.committed committed) ?_ schedule along (Forward.refl _)
  · exact always.last
  · intro between action committed journal _ forward shift
    cases shift with
    | commit after commits leaves => exact forward.trans leaves
    | _ => exact forward

/-- In every interleaving the rows stay sound, and what is committed later goes forward from
what was committed earlier. -/
theorem run_advances {store : Store} (sound : Sound store) (calls : ι → Call)
    (earlier later : List (ReadCommitted.Action ι)) :
    Advances (committedAfter jsonText calls store earlier)
      (committedAfter jsonText calls store (earlier ++ later)) := by
  have starts : (onboardingStart jsonText calls store).Along rely fun _ => conduct :=
    Journaled.start_along sound fun session => call_follows jsonText (calls session)
  obtain ⟨between, -⟩ := forward_along starts earlier
  obtain ⟨last, forward⟩ := forward_along between later
  rw [committedAfter, committedAfter, List.foldl_append]
  exact ⟨last.holds, forward⟩

end Runs

end MultiBrandInvoicing.Onboarding
