import MultiBrandInvoicing.Merchants.BrandStructure

/-!
# Choices beside one another

`chooseBrandStructure` looks before it decides, and nothing holds what it has seen.  As long as
what a call has seen is still so when it commits, the choice is made once.
-/

set_option autoImplicit false

namespace MultiBrandInvoicing

namespace Merchants

open ReadCommitted Program MerchantService

structure Choice where
  choice : BrandStructure
  id : String
  now : Time

def Choice.program (call : Choice) : Tx (Option CreatedBrandSummary) :=
  chooseBrandStructure call.choice call.id call.now

def Decides (choice : BrandStructure) (views : List Store) (before after : Store) : Prop :=
  after = before ∨
    (∃ first, views.getLast? = some first ∧ first.merchant.brandStructure = none) ∧
      after.merchant.brandStructure = some choice ∧
      (after.brands = before.brands ∨
        choice = .single ∧ (∃ view, views.head? = some view ∧ view.brands = []) ∧
          after.brands.length = before.brands.length + 1)

def choiceConduct (choice : BrandStructure) :
    Conduct Store MerchantEffect MerchantError (Option CreatedBrandSummary) where
  leaves := fun journal => Decides choice journal.opening
  tells := fun _ _ _ => True
  ends := fun _ _ => True

def choiceRely : Rely Store RowKey Unit where
  holds := fun _ => True
  leads := fun _ _ => True
  cell := fun _ _ => ()

section Texts

variable {choice : BrandStructure} {journal : Journal Store MerchantEffect}
  {pending : Store → Store} {rows : List RowKey}

theorem choice_done (value : Option CreatedBrandSummary)
    (leaves : ∀ store, Decides choice journal.opening store (pending store)) :
    Program.Follows choiceRely (choiceConduct choice)
      ((choiceConduct choice).finishes choiceRely)
      (.done value : Tx (Option CreatedBrandSummary)) journal pending rows fun _ => True :=
  fun store _ _ => ⟨⟨trivial, trivial, fun _ _ => rfl, leaves store⟩, trivial⟩

theorem choice_perform {effect : MerchantEffect} {next : Bool → Tx (Option CreatedBrandSummary)}
    (rest : (next true).Follows choiceRely (choiceConduct choice)
      ((choiceConduct choice).finishes choiceRely) (.wrote effect :: journal)
      (effect.apply ∘ pending) (effect.rows ++ rows) fun _ => True) :
    (perform effect >>= next).Follows choiceRely (choiceConduct choice)
      ((choiceConduct choice).finishes choiceRely) journal pending rows fun _ => True :=
  fun _ _ _ => ⟨fun _ => ⟨_, Rely.stable_true, trivial, rest⟩, nofun⟩

theorem choice_read {next : Store → Tx (Option CreatedBrandSummary)}
    (rest : ∀ store, (next (pending store)).Follows choiceRely (choiceConduct choice)
      ((choiceConduct choice).finishes choiceRely) (.found store :: journal) pending rows
      fun _ => True) :
    (read >>= next).Follows choiceRely (choiceConduct choice)
      ((choiceConduct choice).finishes choiceRely) journal pending rows fun _ => True :=
  fun store _ _ => ⟨_, Rely.stable_true, trivial, rest store⟩

theorem chooseSingle_follows {first : Store} (brandId : String) (now : Time)
    (undecided : first.merchant.brandStructure = none) :
    (chooseSingle first.merchant brandId now).Follows choiceRely (choiceConduct .single)
      ((choiceConduct .single).finishes choiceRely) [.found first] id [] fun _ => True := by
  unfold chooseSingle
  refine choice_read fun second => ?_
  have opened : ∃ view, [second, first].getLast? = some view ∧
      view.merchant.brandStructure = none := ⟨first, rfl, undecided⟩
  simp only [id]
  cases found : firstBrand? second with
  | some existingBrand =>
      exact choice_perform (choice_done _ fun store => .inr ⟨opened, rfl, .inl rfl⟩)
  | none =>
      have empty : ∃ view, [second, first].head? = some view ∧ view.brands = [] :=
        ⟨second, rfl, firstBrand?_eq_none.mp found⟩
      cases made : brandOf first.merchant brandId now with
      | none => exact trivial
      | some brand =>
          refine choice_perform (choice_perform (choice_done _ fun store => ?_))
          exact .inr ⟨opened, rfl, .inr ⟨rfl, empty, List.length_append⟩⟩

theorem choice_follows (call : Choice) :
    call.program.Follows choiceRely (choiceConduct call.choice)
      ((choiceConduct call.choice).finishes choiceRely) [] id [] fun _ => True := by
  obtain ⟨choice, brandId, now⟩ := call
  unfold Choice.program chooseBrandStructure
  refine choice_read fun first => ?_
  simp only [id]
  cases decided : first.merchant.brandStructure with
  | some stored =>
      cases stored with
      | single => exact choice_read fun second => choice_done _ fun store => .inl rfl
      | multi => exact choice_done _ fun store => .inl rfl
  | none =>
      cases choice with
      | single => exact chooseSingle_follows brandId now decided
      | multi =>
          refine choice_perform (choice_done _ fun store => ?_)
          exact .inr ⟨⟨first, rfl, decided⟩, rfl, .inl rfl⟩

end Texts

/-! ## Any number of calls beside one another -/

section Runs

variable {ι : Type} [DecidableEq ι]

abbrev ChoiceState (ι : Type) :=
  Journaled ι Store RowKey MerchantEffect MerchantError (Option CreatedBrandSummary)

def choiceStart (calls : ι → Choice) (store : Store) : ChoiceState ι :=
  Journaled.start store fun session => (calls session).program

/-- A call that has found nothing decided still finds nothing else decided, and, where it has
found no brand to adopt, still finds none. -/
def StillOpen (choice : BrandStructure) (views : List Store) (store : Store) : Prop :=
  ∀ first ∈ views.getLast?, first.merchant.brandStructure = none →
    (store.merchant.brandStructure = none ∨ store.merchant.brandStructure = some choice) ∧
      (choice = .single → ∀ view ∈ views.head?, view.brands = [] → store.brands = [])

instance (choice : BrandStructure) (views : List Store) (store : Store) :
    Decidable (StillOpen choice views store) :=
  inferInstanceAs (Decidable
    (∀ first ∈ views.getLast?, _ → _ ∧ (_ → ∀ view ∈ views.head?, _ → _)))

def CommitsStillOpen (calls : ι → Choice) (state : ChoiceState ι) (action : Action ι) : Prop :=
  (state.commits? action).isSome = true →
    StillOpen (calls action.session).choice (state.journal action.session).opening
      state.config.committed

instance (calls : ι → Choice) (state : ChoiceState ι) (action : Action ι) :
    Decidable (CommitsStillOpen calls state action) :=
  inferInstanceAs (Decidable (_ → _))

theorem Decides.keeps {choice : BrandStructure} {views : List Store} {before after : Store}
    (decides : Decides choice views before after) (open_ : StillOpen choice views before) :
    (∀ decision, before.merchant.brandStructure = some decision →
        after.merchant.brandStructure = some decision) ∧
      (after.brands.length ≤ before.brands.length ∨ after.brands.length ≤ 1) := by
  rcases decides with rfl | ⟨⟨first, opened, undecided⟩, decided, brands⟩
  · exact ⟨fun _ stored => stored, .inl le_rfl⟩
  · obtain ⟨stored, empty⟩ := open_ first opened undecided
    constructor
    · intro decision already
      rw [already] at stored
      rcases stored with none_ | same
      · cases none_
      · exact decided.trans same.symm
    · rcases brands with same | ⟨rfl, ⟨view, last, none_⟩, more⟩
      · exact .inl (by rw [same])
      · have here := empty rfl view last none_
        exact .inr (by simp [more, here])

omit [DecidableEq ι] in
theorem choices_along (calls : ι → Choice) (store : Store) :
    (choiceStart calls store).Along choiceRely
      fun session => choiceConduct (calls session).choice :=
  Journaled.start_along trivial fun session => choice_follows (calls session)

/-- What every commit that meets the condition keeps of the rows, a run of such commits keeps. -/
theorem choices_keep (Inv : Store → Prop) {calls : ι → Choice}
    (keeps : ∀ choice views before after, Decides choice views before after →
      StillOpen choice views before → Inv before → Inv after)
    {schedule : List (Action ι)} {state : ChoiceState ι}
    (along : state.Along choiceRely fun session => choiceConduct (calls session).choice)
    (holds : Inv state.config.committed)
    (open_ : Runs.Throughout Journaled.step (CommitsStillOpen calls) schedule state) :
    (schedule.foldl Journaled.step state).Along choiceRely
        (fun session => choiceConduct (calls session).choice) ∧
      Inv (schedule.foldl Journaled.step state).config.committed := by
  have always := Journaled.always_of_shifts (fun committed _ => Inv committed)
    (fun state action committed journal _ holds meets shift => ?_) along holds open_
  · exact always.last
  · cases shift with
    | commit after commits leaves =>
        exact keeps _ _ _ _ leaves (meets (by rw [commits]; rfl)) holds
    | _ => exact holds

/-- In every interleaving whose calls commit while the choice is still open to them, the calls
make at most one brand, and what is decided stays decided. -/
theorem structure_chosen_once (calls : ι → Choice) (store : Store) (schedule : List (Action ι))
    (open_ : Runs.Throughout Journaled.step (CommitsStillOpen calls) schedule
      (choiceStart calls store)) :
    ∀ earlier later, schedule = earlier ++ later →
      (earlier.foldl Journaled.step (choiceStart calls store)).config.committed.brands.length ≤
          store.brands.length + 1 ∧
        ∀ decision,
          (earlier.foldl Journaled.step
            (choiceStart calls store)).config.committed.merchant.brandStructure = some decision →
          ((earlier ++ later).foldl Journaled.step
            (choiceStart calls store)).config.committed.merchant.brandStructure =
              some decision := by
  rintro earlier later rfl
  obtain ⟨first, second⟩ := Runs.throughout_append.mp open_
  have counted := choices_keep
    (fun rows => rows.brands.length ≤ store.brands.length + 1)
    (fun _ _ _ _ decides still bound => ?_) (choices_along calls store) (by simp [choiceStart,
      Journaled.start, Config.start]) first
  · refine ⟨counted.2, fun decision decided => ?_⟩
    rw [List.foldl_append]
    exact (choices_keep (fun rows => rows.merchant.brandStructure = some decision)
      (fun _ _ _ _ decides still => (decides.keeps still).1 decision) counted.1 decided second).2
  · rcases (decides.keeps still).2 with same | one
    · exact same.trans bound
    · omega

def sampleMerchant : Store where
  merchant := { companyLegalName := some "Acme", companyBusinessType := some .llc }
  brands := []

def sampleDoubleClick : Bool → Choice
  | true => ⟨.single, "first", 1⟩
  | false => ⟨.single, "second", 2⟩

def sampleBothLook : List (Action Bool) :=
  [.advance true, .advance true, .advance false, .advance false] ++
    List.replicate 3 (.advance true) ++ List.replicate 3 (.advance false)

theorem double_click_makes_two :
    ¬∀ earlier later, sampleBothLook = earlier ++ later →
      (earlier.foldl Journaled.step
          (choiceStart sampleDoubleClick sampleMerchant)).config.committed.brands.length ≤
          sampleMerchant.brands.length + 1 ∧
        ∀ decision,
          (earlier.foldl Journaled.step
            (choiceStart sampleDoubleClick
              sampleMerchant)).config.committed.merchant.brandStructure = some decision →
          ((earlier ++ later).foldl Journaled.step
            (choiceStart sampleDoubleClick
              sampleMerchant)).config.committed.merchant.brandStructure = some decision := by
  intro once
  have two := (once sampleBothLook [] (by simp)).1
  revert two
  decide

def sampleClicksInTurn : List (Action Bool) :=
  List.replicate 5 (.advance true) ++ List.replicate 3 (.advance false)

theorem structure_chosen_once_sample :
    (sampleClicksInTurn.foldl Journaled.step
      (choiceStart sampleDoubleClick sampleMerchant)).config.committed.brands.length ≤ 1 :=
  (structure_chosen_once sampleDoubleClick sampleMerchant sampleClicksInTurn (by decide)
    sampleClicksInTurn [] (by simp)).1

end Runs

end Merchants

end MultiBrandInvoicing
