import Mathlib.Data.List.AList
import MultiBrandInvoicing.Integrations.PendingAssignments
import MultiBrandInvoicing.Mirroring.InvoicePulls
import MultiBrandInvoicing.Mirroring.ContactPulls
import MultiBrandInvoicing.Transitions.Runs

/-!
# Calls that assign one pending record

`assignPendingRecord` reads the pending row, pulls the record into the brand and marks the row
assigned, in three steps with those of other calls and of the record's deliveries between them.
A delivery looks for rows of the record first and writes the pending row later; it opens a row
that is assigned again.  The pull of a brand that has no connection any more returns without
one, and the call does not read what the pull returns.
-/

set_option autoImplicit false

namespace MultiBrandInvoicing

open ZohoPullService ZohoWebhookService

namespace BrandAssignments

/-- The pull of one kind of record into the row that a brand may have for it. -/
structure Importer (ρ α : Type) where
  pull : Option ρ → α → Except ServiceError Bool × Option ρ
  keeps : ∀ row answers, row.isSome = true → (pull row answers).2.isSome = true
  leaves : ∀ row answers, (pull row answers).1.isOk = true → (pull row answers).2.isSome = true

theorem pullOneCustomer_row {ν : Type} (numbers : ZohoNumbers ν) (row : Option CustomerRow)
    (answers : ContactAnswers)
    (kept : row.isSome = true ∨ (pullOneCustomer numbers row answers).1.isOk = true) :
    (pullOneCustomer numbers row answers).2.isSome = true := by
  unfold pullOneCustomer at kept ⊢
  cases fetched : answers.fetched with
  | error message => simpa [fetched, Except.isOk, Except.toBool] using kept
  | ok contact =>
      simp only [fetched] at kept ⊢
      split
      next echo =>
        cases row with
        | some row => rfl
        | none => cases echo
      next fresh =>
        rw [if_neg fresh] at kept
        cases failure : answers.failure with
        | some message => simpa [failure, Except.isOk, Except.toBool] using kept
        | none => rfl

def contactImporter {ν : Type} (numbers : ZohoNumbers ν) : Importer CustomerRow ContactAnswers where
  pull := pullOneCustomer numbers
  keeps := fun row answers stored => pullOneCustomer_row numbers row answers (.inl stored)
  leaves := fun row answers returned => pullOneCustomer_row numbers row answers (.inr returned)

def invoiceImporter {ν : Type} (numbers : ZohoNumbers ν) (localCustomerId : String → String)
    (creation : InvoiceCreation) : Importer InvoiceRecord (ZohoInvoice ν × PullAnswers ν) where
  pull := fun row answers =>
    pullInvoice numbers localCustomerId creation row answers.1 answers.2
  keeps := by
    intro row answers stored
    cases row with
    | none => cases stored
    | some record => rfl
  leaves := by
    intro row answers returned
    cases row with
    | some record => rfl
    | none =>
        simp only [pullInvoice] at returned ⊢
        cases created : createPulled numbers localCustomerId creation answers.1 answers.2 with
        | ok record => rfl
        | error error =>
            rw [created] at returned
            cases returned

/-- A call has found the row pending, or its pull into the brand has returned. -/
inductive Call where
  | idle
  | checked (brandId : String)
  | returned (brandId : String)
  deriving DecidableEq

def Call.brand : Call → Option String
  | .idle => none
  | .checked brandId => some brandId
  | .returned brandId => some brandId

structure RemoteRecord where
  organizationId : String
  objectType : ZohoWebhookObjectType
  remoteId : String

/-- The record's pending row, its row in each brand, the brands that calls imported it into,
the calls, and the deliveries that found no row of it. -/
structure World (ρ κ δ : Type) where
  pending : Option PendingBrandAssignment
  rows : AList fun _ : String => ρ
  imports : List String
  calls : κ → Call
  missing : δ → Bool

/-- A pull without answers is one that found no connection. -/
inductive Action (α κ δ : Type) where
  | check (call : κ) (brandId : String) (candidates : List CandidateBrand)
  | pull (call : κ) (answers : Option α)
  | mark (call : κ)
  | fail (call : κ)
  | look (delivery : δ)
  | route (delivery : δ) (candidates : List CandidateBrand) (answers : Option α)
  | otherPull (brandId : String) (answers : α)

section Steps

variable {ρ α κ δ : Type} (importer : Importer ρ α) (remote : RemoteRecord)

section World

variable (world : World ρ κ δ)

def World.moved [DecidableEq κ] (call : κ) (stage : Call) : World ρ κ δ :=
  { world with calls := Function.update world.calls call stage }

def World.pulled (brandId : String) (answers : α) : World ρ κ δ :=
  match (importer.pull (world.rows.lookup brandId) answers).2 with
  | none => world
  | some row => { world with rows := world.rows.insert brandId row }

def World.imported (brandId : String) : World ρ κ δ :=
  { world with imports := brandId :: world.imports }

end World

/-- What its stage does not allow changes nothing.  A delivery with one candidate pulls the
record into it, unless it is dropped; one with several writes the pending row. -/
def World.step [DecidableEq κ] [DecidableEq δ] (world : World ρ κ δ) :
    Action α κ δ → World ρ κ δ
  | .check call brandId candidates =>
      match world.calls call, checkAssignment world.pending (fun _ => candidates) brandId with
      | .idle, .ok _ => world.moved call (.checked brandId)
      | _, _ => world
  | .pull call answers =>
      match world.calls call, answers with
      | .checked brandId, none => world.moved call (.returned brandId)
      | .checked brandId, some answers =>
          match (importer.pull (world.rows.lookup brandId) answers).1 with
          | .ok true =>
              ((world.pulled importer brandId answers).imported brandId).moved call
                (.returned brandId)
          | .ok false => (world.pulled importer brandId answers).moved call (.returned brandId)
          | .error _ => (world.pulled importer brandId answers).moved call .idle
      | _, _ => world
  | .mark call =>
      match world.calls call with
      | .returned brandId =>
          { world with pending := world.pending.map (markAssigned brandId) }.moved call .idle
      | _ => world
  | .fail call => world.moved call .idle
  | .look delivery =>
      { world with
        missing := Function.update world.missing delivery world.rows.entries.isEmpty }
  | .route delivery candidates answers =>
      if world.missing delivery then
        let done := { world with missing := Function.update world.missing delivery false }
        match candidates, answers with
        | [], _ => done
        | [_], none => done
        | [candidate], some answers => done.pulled importer candidate.brandId answers
        | _, _ =>
            { done with
              pending := recordForManualReview remote.objectType remote.organizationId
                remote.remoteId .newRecordMultiBrand candidates world.pending }
      else world
  | .otherPull brandId answers => world.pulled importer brandId answers

/-! ## One brand -/

variable {importer remote}

section Property

def Holds (rows : AList fun _ : String => ρ) (brandId : String) : Prop :=
  (rows.lookup brandId).isSome = true

def AssignedHolds (pending : Option PendingBrandAssignment) (rows : AList fun _ : String => ρ) :
    Prop :=
  ∀ row, pending = some row → row.status = .assigned →
    ∃ brandId, row.assignedBrandId = some brandId ∧ Holds rows brandId

/-- Every call under way is for the brand, and so is every import a call has made. -/
structure Unrivalled (calls : κ → Call) (imports : List String) (brandId : String) : Prop where
  calls : ∀ call other, (calls call).brand = some other → other = brandId
  imports : ∀ other ∈ imports, other = brandId

variable (world : World ρ κ δ)

/-- The calls have imported the record into one brand at most, and the brand of an assigned
row has the record. -/
structure OneBrand : Prop where
  single : ∀ first ∈ world.imports, ∀ second ∈ world.imports, first = second
  assigned : AssignedHolds world.pending world.rows

/-- A call passes its check without a rival, and a pull that finds no connection is one into
a brand that has the record. -/
def Careful : Action α κ δ → Prop
  | .check call brandId candidates => world.calls call = .idle →
      (checkAssignment world.pending (fun _ => candidates) brandId).isOk = true →
        Unrivalled world.calls world.imports brandId
  | .pull call none => ∀ brandId, world.calls call = .checked brandId → Holds world.rows brandId
  | _ => True

structure Start : Prop where
  calls : ∀ call, world.calls call = .idle
  imports : world.imports = []
  assigned : AssignedHolds world.pending world.rows

structure Kept : Prop where
  single : ∀ first ∈ world.imports, ∀ second ∈ world.imports, first = second
  assigned : AssignedHolds world.pending world.rows
  unrivalled : ∀ call brandId, (world.calls call).brand = some brandId →
    Unrivalled world.calls world.imports brandId
  returned : ∀ call brandId, world.calls call = .returned brandId → Holds world.rows brandId

end Property

variable {world : World ρ κ δ}

theorem Start.kept (start : Start world) : Kept world where
  single := by
    rw [start.imports]
    exact nofun
  assigned := start.assigned
  unrivalled := by
    intro call brandId under
    rw [start.calls call] at under
    cases under
  returned := by
    intro call brandId returned
    rw [start.calls call] at returned
    cases returned

theorem Kept.oneBrand (kept : Kept world) : OneBrand world := ⟨kept.single, kept.assigned⟩

theorem moved_calls [DecidableEq κ] (call : κ) (stage : Call) :
    (world.moved call stage).calls = Function.update world.calls call stage := rfl

theorem Kept.moved [DecidableEq κ] (kept : Kept world) {call : κ} {stage : Call}
    (unrivalled : ∀ brandId, stage.brand = some brandId →
      Unrivalled world.calls world.imports brandId)
    (returned : ∀ brandId, stage = .returned brandId → Holds world.rows brandId) :
    Kept (world.moved call stage) where
  single := kept.single
  assigned := kept.assigned
  unrivalled := by
    -- Whichever call is for the brand, the old calls and the new stage agree with it.
    have agree : ∀ moving brandId, ((world.moved call stage).calls moving).brand = some brandId →
        Unrivalled world.calls world.imports brandId := by
      intro moving brandId under
      by_cases same : moving = call
      · subst same
        rw [moved_calls, Function.update_self] at under
        exact unrivalled brandId under
      · rw [moved_calls, Function.update_of_ne same] at under
        exact kept.unrivalled moving brandId under
    intro moving brandId under
    refine ⟨fun other rival its => ?_, (agree moving brandId under).imports⟩
    by_cases same : other = call
    · subst same
      by_cases own : moving = other
      · subst own
        rw [its] at under
        exact Option.some.inj under
      · rw [moved_calls, Function.update_of_ne own] at under
        exact ((agree other rival its).calls moving brandId under).symm
    · rw [moved_calls, Function.update_of_ne same] at its
      exact (agree moving brandId under).calls other rival its
  returned := by
    intro moving brandId ended
    by_cases same : moving = call
    · subst same
      rw [moved_calls, Function.update_self] at ended
      exact returned brandId ended
    · rw [moved_calls, Function.update_of_ne same] at ended
      exact kept.returned moving brandId ended

theorem Kept.grown (kept : Kept world) {rows : AList fun _ : String => ρ}
    (grows : ∀ brandId, Holds world.rows brandId → Holds rows brandId) :
    Kept { world with rows } where
  single := kept.single
  assigned := by
    intro row found assigned
    obtain ⟨brandId, named, holds⟩ := kept.assigned row found assigned
    exact ⟨brandId, named, grows brandId holds⟩
  unrivalled := kept.unrivalled
  returned := fun call brandId returned => grows brandId (kept.returned call brandId returned)

theorem insert_grows (rows : AList fun _ : String => ρ) (brandId : String) (row : ρ)
    (other : String) (holds : Holds rows other) : Holds (rows.insert brandId row) other := by
  unfold Holds at holds ⊢
  by_cases same : other = brandId
  · subst same
    rw [AList.lookup_insert]
    rfl
  · rw [AList.lookup_insert_ne same]
    exact holds

theorem Kept.pulled (kept : Kept world) (brandId : String) (answers : α) :
    Kept (world.pulled importer brandId answers) := by
  unfold World.pulled
  split
  next => exact kept
  next row _ => exact kept.grown (insert_grows world.rows brandId row)

theorem pulled_calls (brandId : String) (answers : α) :
    (world.pulled importer brandId answers).calls = world.calls := by
  unfold World.pulled
  split
  next => rfl
  next => rfl

theorem pulled_imports (brandId : String) (answers : α) :
    (world.pulled importer brandId answers).imports = world.imports := by
  unfold World.pulled
  split
  next => rfl
  next => rfl

/-- The brand of a pull that returns has the record. -/
theorem pulled_holds {brandId : String} {answers : α}
    (returned : (importer.pull (world.rows.lookup brandId) answers).1.isOk = true) :
    Holds (world.pulled importer brandId answers).rows brandId := by
  have stored := importer.leaves (world.rows.lookup brandId) answers returned
  unfold World.pulled
  cases row : (importer.pull (world.rows.lookup brandId) answers).2 with
  | none =>
      rw [row] at stored
      cases stored
  | some row =>
      simp only [Holds, AList.lookup_insert]
      rfl

theorem Unrivalled.imported {brandId : String}
    (unrivalled : Unrivalled world.calls world.imports brandId) :
    Unrivalled world.calls (world.imported brandId).imports brandId where
  calls := unrivalled.calls
  imports := by
    intro other member
    rcases List.mem_cons.mp member with rfl | before
    · rfl
    · exact unrivalled.imports other before

theorem Kept.imported (kept : Kept world) {brandId : String}
    (unrivalled : Unrivalled world.calls world.imports brandId) :
    Kept (world.imported brandId) where
  single := by
    intro first firstMember second secondMember
    rw [unrivalled.imported.imports first firstMember,
      unrivalled.imported.imports second secondMember]
  assigned := kept.assigned
  unrivalled := by
    intro call other under
    have same := unrivalled.calls call other under
    subst same
    exact unrivalled.imported
  returned := kept.returned

theorem Kept.mark (kept : Kept world) {brandId : String} (holds : Holds world.rows brandId) :
    Kept { world with pending := world.pending.map (markAssigned brandId) } where
  single := kept.single
  assigned := by
    intro row found _
    obtain ⟨before, _, rfl⟩ := Option.map_eq_some_iff.mp found
    exact ⟨brandId, rfl, holds⟩
  unrivalled := kept.unrivalled
  returned := kept.returned

theorem Kept.review (kept : Kept world) (candidates : List CandidateBrand) :
    Kept { world with
      pending := recordForManualReview remote.objectType remote.organizationId remote.remoteId
        .newRecordMultiBrand candidates world.pending } where
  single := kept.single
  assigned := by
    intro row found assigned
    rcases recordForManualReview_pending found with before | reopened
    · exact kept.assigned row before assigned
    · rw [reopened] at assigned
      cases assigned
  unrivalled := kept.unrivalled
  returned := kept.returned

theorem Kept.looked (kept : Kept world) (missing : δ → Bool) : Kept { world with missing } :=
  ⟨kept.single, kept.assigned, kept.unrivalled, kept.returned⟩

variable [DecidableEq κ] [DecidableEq δ]

theorem Kept.pull (kept : Kept world) (call : κ) (answers : Option α)
    (careful : Careful world (.pull call answers)) :
    Kept (world.step importer remote (.pull call answers)) := by
  cases stage : world.calls call with
  | idle => simpa only [World.step, stage] using kept
  | returned brandId => simpa only [World.step, stage] using kept
  | checked brandId =>
      have unrivalled : Unrivalled world.calls world.imports brandId := by
        refine kept.unrivalled call brandId ?_
        rw [stage]
        rfl
      cases answers with
      | none =>
          have holds := careful brandId stage
          simp only [World.step, stage]
          exact kept.moved (fun _ under => Option.some.inj under ▸ unrivalled)
            (fun _ same => Call.returned.inj same ▸ holds)
      | some answers =>
          have pulled : Kept (world.pulled importer brandId answers) :=
            kept.pulled brandId answers
          have alone : Unrivalled (world.pulled importer brandId answers).calls
              (world.pulled importer brandId answers).imports brandId := by
            rw [pulled_calls, pulled_imports]
            exact unrivalled
          simp only [World.step, stage]
          split
          next outcome =>
            have holds : Holds (world.pulled importer brandId answers).rows brandId :=
              pulled_holds (by rw [outcome]; rfl)
            exact (pulled.imported alone).moved
              (fun _ under => Option.some.inj under ▸ alone.imported)
              (fun _ same => Call.returned.inj same ▸ holds)
          next outcome =>
            have holds : Holds (world.pulled importer brandId answers).rows brandId :=
              pulled_holds (by rw [outcome]; rfl)
            exact pulled.moved (fun _ under => Option.some.inj under ▸ alone)
              (fun _ same => Call.returned.inj same ▸ holds)
          next => exact pulled.moved nofun nofun

theorem Kept.route (kept : Kept world) (delivery : δ) (candidates : List CandidateBrand)
    (answers : Option α) :
    Kept (world.step importer remote (.route delivery candidates answers)) := by
  simp only [World.step]
  split
  next =>
    have done := kept.looked (Function.update world.missing delivery false)
    split
    next => exact done
    next => exact done
    next candidate answers => exact done.pulled candidate.brandId answers
    next => exact done.review candidates
  next => exact kept

theorem Kept.step (kept : Kept world) {action : Action α κ δ} (careful : Careful world action) :
    Kept (world.step importer remote action) := by
  cases action with
  | check call brandId candidates =>
      simp only [World.step]
      split
      next row idle passed =>
        have unrivalled : Unrivalled world.calls world.imports brandId :=
          careful idle (by rw [passed]; rfl)
        exact kept.moved (fun _ under => Option.some.inj under ▸ unrivalled) nofun
      next => exact kept
  | pull call answers => exact kept.pull call answers careful
  | mark call =>
      simp only [World.step]
      split
      next brandId returned =>
        have holds := kept.returned call brandId returned
        exact (kept.mark holds).moved nofun nofun
      next => exact kept
  | fail call => exact kept.moved nofun nofun
  | look delivery => exact kept.looked _
  | route delivery candidates answers => exact kept.route delivery candidates answers
  | otherPull brandId answers => exact kept.pulled brandId answers

/-- In every interleaving of calls and deliveries, as long as its steps are careful, the record
is imported into one brand at most by calls, and the brand of an assigned row has it. -/
theorem imports_into_one_brand (start : Start world) {actions : List (Action α κ δ)}
    (careful : Runs.Throughout (World.step importer remote) Careful actions world) :
    Runs.Always (World.step importer remote) OneBrand actions world :=
  (Runs.always_of_throughout (fun _ _ kept careful => kept.step careful) start.kept
    careful).mono fun _ kept => kept.oneBrand

end Steps

/-! ## Two calls beside each other -/

def sampleContact : ZohoContactDetail where
  customerSubType := some "business"
  contactName := "Acme"
  companyName := some "Acme"
  firstName := none
  lastName := none
  email := none
  phone := none
  status := some "active"
  billingAddress := none
  shippingAddress := none
  contactPersons := none
  lastModifiedTime := some "1"

def sampleImport : ContactAnswers := ⟨.ok sampleContact, none⟩

def sampleRemote : RemoteRecord := ⟨"organization", .customer, "contact"⟩

def sampleCandidates : List CandidateBrand := [⟨"first", "merchant"⟩, ⟨"second", "merchant"⟩]

def samplePendingWorld : World CustomerRow Bool Unit where
  pending := some {
    merchantId := "merchant"
    organizationId := "organization"
    objectType := .customer
    remoteId := "contact"
    reason := .newRecordMultiBrand
    status := .pending
    assignedBrandId := none }
  rows := ∅
  imports := []
  calls := fun _ => .idle
  missing := fun _ => false

abbrev sampleStep : World CustomerRow Bool Unit → Action ContactAnswers Bool Unit →
    World CustomerRow Bool Unit :=
  World.step (contactImporter sampleDecimals) sampleRemote

theorem samplePendingWorld_start : Start samplePendingWorld where
  calls := fun _ => rfl
  imports := rfl
  assigned := by
    rintro row ⟨⟩ assigned
    cases assigned

/-- A delivery that looked before the import opens the row again behind the call. -/
def sampleReopened : List (Action ContactAnswers Bool Unit) :=
  [.look (), .check true "first" sampleCandidates, .pull true (some sampleImport), .mark true,
    .route () sampleCandidates none]

theorem imports_into_one_brand_sample :
    Runs.Always sampleStep OneBrand sampleReopened samplePendingWorld := by
  refine imports_into_one_brand samplePendingWorld_start
    ⟨trivial, fun _ _ => ⟨?_, ?_⟩, trivial, trivial, trivial, trivial⟩
  · rintro call other ⟨⟩
  · rintro other ⟨⟩

def sampleOverlapping : List (Action ContactAnswers Bool Unit) :=
  [.check true "first" sampleCandidates, .check false "second" sampleCandidates,
    .pull true (some sampleImport), .pull false (some sampleImport)]

def sampleDisconnected : List (Action ContactAnswers Bool Unit) :=
  [.check true "first" sampleCandidates, .pull true none, .mark true]

/-- Two calls that have both found the row pending import the record into both brands, and a
call whose brand has lost its connection assigns the row to a brand without the record. -/
theorem overlapping_calls_import_twice :
    ¬Runs.Always sampleStep OneBrand sampleOverlapping samplePendingWorld ∧
      ¬Runs.Always sampleStep OneBrand sampleDisconnected samplePendingWorld := by
  constructor
  · intro always
    have both : (sampleOverlapping.foldl sampleStep samplePendingWorld).imports =
        ["second", "first"] := by decide +kernel
    have single := always.last.single
    rw [both] at single
    exact absurd (single "second" (by decide) "first" (by decide)) (by decide)
  · intro always
    have marked : (sampleDisconnected.foldl sampleStep samplePendingWorld).pending =
        samplePendingWorld.pending.map (markAssigned "first") := by decide +kernel
    have empty : (sampleDisconnected.foldl sampleStep samplePendingWorld).rows.lookup "first" =
        none := by decide +kernel
    obtain ⟨brandId, named, holds⟩ := always.last.assigned _ marked rfl
    cases named
    rw [Holds, empty] at holds
    cases holds

end BrandAssignments

end MultiBrandInvoicing
