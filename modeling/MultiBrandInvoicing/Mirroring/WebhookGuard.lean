import MultiBrandInvoicing.Mirroring.EchoVersions

/-!
# Webhooks dropped as echoes

One record of Zoho with the row of one brand that may be linked to it.  A push marks its row
for thirty seconds before it writes to Zoho; a delivery that finds the row marked is dropped
(`route` in `zoho-webhook.service.ts`, `markSyncAction` in `redis.service.ts`).  A delivery
that finds no row marks the remote id instead and imports the record, and a second one that
finds this mark is dropped too.  Pushes, pulls, deliveries and edits in Zoho take their steps
in any order; a mark knows nothing of versions.
-/

set_option autoImplicit false

namespace MultiBrandInvoicing

namespace WebhookGuard

open EchoVersions (isEcho isEcho_iff)

structure LinkedRow (ρ : Type) where
  id : ρ
  zohoSyncedVersion : Option Time

/-- A push has marked its row, or has written to Zoho with the version it will store. -/
inductive Push (ρ : Type) where
  | idle
  | marked (id : ρ)
  | written (id : ρ) (version : Option Time)

/-- A pull; `imports` is that of a delivery that found no row. -/
inductive Pull where
  | idle
  | started
  | fetched (imports : Bool) (lastModified : Option Time)
  | passed (imports : Bool) (lastModified : Option Time)
  deriving DecidableEq

inductive Delivery (ρ : Type) where
  | idle
  | found (id : ρ)
  | missing

structure World (ρ ι κ δ : Type) where
  now : Time
  lastModified : Time
  row : Option (LinkedRow ρ)
  pushMark : ρ → Time
  importMark : Time
  pushes : ι → Push ρ
  pulls : κ → Pull
  deliveries : δ → Delivery ρ

inductive Action (ρ ι κ δ : Type) where
  | tick (elapsed : Nat)
  | edit (lastModified : Time)
  | mark (push : ι) (id : ρ)
  | write (push : ι) (lastModified : Time) (version : Option Time)
  | store (push : ι)
  | abandon (push : ι)
  | fetch (pull : κ) (dated : Bool)
  | check (pull : κ)
  | apply (pull : κ) (id : ρ)
  | fail (pull : κ)
  | look (delivery : δ)
  | guard (delivery : δ) (pull : κ)

def markTtl : Int := 30 * 1000

variable {ρ ι κ δ : Type}

def Push.row : Push ρ → Option ρ
  | .idle => none
  | .marked id => some id
  | .written id _ => some id

def Pull.isImport : Pull → Bool
  | .started => true
  | .fetched imports _ => imports
  | .passed imports _ => imports
  | .idle => false

section World

variable (world : World ρ ι κ δ)

def World.Other (id : ρ) : Prop := ∃ row, world.row = some row ∧ row.id ≠ id

instance [DecidableEq ρ] (id : ρ) : Decidable (world.Other id) :=
  match taken : world.row with
  | none => .isFalse (by simp [World.Other, taken])
  | some row => decidable_of_iff (row.id ≠ id) (by simp [World.Other, taken])

def World.moved [DecidableEq ι] (push : ι) (stage : Push ρ) : World ρ ι κ δ :=
  { world with pushes := Function.update world.pushes push stage }

def World.pulled [DecidableEq κ] (pull : κ) (stage : Pull) : World ρ ι κ δ :=
  { world with pulls := Function.update world.pulls pull stage }

def World.delivered [DecidableEq δ] (delivery : δ) (stage : Delivery ρ) : World ρ ι κ δ :=
  { world with deliveries := Function.update world.deliveries delivery stage }

/-- The delivery is dropped where its mark is live; else it pulls, and without a row it
leaves a mark first. -/
def World.guarded [DecidableEq κ] [DecidableEq δ] (delivery : δ) (pull : κ) : World ρ ι κ δ :=
  match world.deliveries delivery, world.pulls pull with
  | .found _, _ => world.delivered delivery .idle
  | .missing, .idle =>
      if world.now < world.importMark then world.delivered delivery .idle
      else ({ world with importMark := world.now + markTtl }.pulled pull .started).delivered
        delivery .idle
  | _, _ => world

end World

/-- What its stage does not allow changes nothing.  A push of a row that is not the linked
one cannot write this record, and the unique index refuses to link a second row. -/
def World.step [DecidableEq ρ] [DecidableEq ι] [DecidableEq κ] [DecidableEq δ]
    (world : World ρ ι κ δ) : Action ρ ι κ δ → World ρ ι κ δ
  | .tick elapsed => { world with now := world.now + elapsed }
  | .edit lastModified => { world with lastModified }
  | .mark push id =>
      match world.pushes push with
      | .idle =>
          { world with
            pushMark := Function.update world.pushMark id (world.now + markTtl) }.moved push
              (.marked id)
      | _ => world
  | .write push lastModified version =>
      match world.pushes push with
      | .marked id =>
          if world.Other id then world
          else { world with lastModified }.moved push (.written id version)
      | _ => world
  | .store push =>
      match world.pushes push with
      | .written id version =>
          if world.Other id then world.moved push .idle
          else { world with row := some ⟨id, version⟩ }.moved push .idle
      | _ => world
  | .abandon push => world.moved push .idle
  | .fetch pull dated =>
      let shown := if dated then some world.lastModified else none
      match world.pulls pull with
      | .idle => world.pulled pull (.fetched false shown)
      | .started => world.pulled pull (.fetched true shown)
      | _ => world
  | .check pull =>
      match world.pulls pull with
      | .fetched imports lastModified =>
          if isEcho lastModified (world.row.bind LinkedRow.zohoSyncedVersion) then
            world.pulled pull .idle
          else world.pulled pull (.passed imports lastModified)
      | _ => world
  | .apply pull id =>
      match world.pulls pull with
      | .passed _ lastModified =>
          if world.Other id then world
          else { world with row := some ⟨id, lastModified⟩ }.pulled pull .idle
      | _ => world
  | .fail pull => world.pulled pull .idle
  | .look delivery =>
      match world.deliveries delivery, world.row with
      | .idle, some row => world.delivered delivery (.found row.id)
      | .idle, none => world.delivered delivery .missing
      | _, _ => world
  | .guard delivery pull => world.guarded delivery pull

/-! ## What may be dropped -/

section Drops

variable (world : World ρ ι κ δ)

/-- A pull now would be skipped by the version test. -/
def UpToDate : Prop :=
  isEcho (some world.lastModified) (world.row.bind LinkedRow.zohoSyncedVersion) = true

instance : Decidable (UpToDate world) := inferInstanceAs (Decidable (_ = _))

def ImportUnderWay : Prop := ∃ pull, (world.pulls pull).isImport = true

def PushUnderWay (id : ρ) : Prop := ∃ push, (world.pushes push).row = some id

/-- A delivery is dropped only where a pull would be skipped, or while an import runs. -/
def DropsNothing : Action ρ ι κ δ → Prop
  | .guard delivery _ =>
      match world.deliveries delivery with
      | .idle => True
      | .found id => world.now < world.pushMark id → UpToDate world ∨ ImportUnderWay world
      | .missing => world.now < world.importMark → UpToDate world ∨ ImportUnderWay world
  | _ => True

def OtherPush (push : ι) (id : ρ) : Prop :=
  ∃ other, other ≠ push ∧ (world.pushes other).row = some id

def OtherImport (pull : κ) : Prop := ∃ other, other ≠ pull ∧ (world.pulls other).isImport = true

/-- While a row is marked and no push of it is under way, nothing leaves it behind Zoho: no
edit, no version of a push or of a pull that is not the present one, and no push that fails.
A delivery comes to a marked row when no push is under way; one that found no row comes to a
marked id before there is a row, or when the row is up to date; and an import does not fail
under its mark. -/
def Careful : Action ρ ι κ δ → Prop
  | .edit _ => ∀ row, world.row = some row → world.now < world.pushMark row.id →
      PushUnderWay world row.id
  | .store push => ∀ id version, world.pushes push = .written id version →
      world.now < world.pushMark id →
        OtherPush world push id ∨ isEcho (some world.lastModified) version = true
  | .abandon push => ∀ id, (world.pushes push).row = some id → world.now < world.pushMark id →
      OtherPush world push id ∨ UpToDate world
  | .apply pull id => ∀ imports lastModified, world.pulls pull = .passed imports lastModified →
      world.now < world.pushMark id →
        PushUnderWay world id ∨ isEcho (some world.lastModified) lastModified = true
  | .fail pull => (world.pulls pull).isImport = true → world.now < world.importMark →
      world.row = none → OtherImport world pull
  | .guard delivery _ =>
      match world.deliveries delivery with
      | .idle => True
      | .found id => world.now < world.pushMark id → ¬PushUnderWay world id
      | .missing => world.now < world.importMark → world.row = none ∨ UpToDate world
  | _ => True

/-- A live mark on the row stands for a push under way or for a row that is up to date, and a
live mark on the remote id, as long as there is no row, for an import under way. -/
structure Guarded : Prop where
  linked : ∀ row, world.row = some row → world.now < world.pushMark row.id →
    PushUnderWay world row.id ∨ UpToDate world
  importing : world.now < world.importMark → world.row = none → ImportUnderWay world
  found : ∀ delivery id, world.deliveries delivery = .found id →
    ∃ row, world.row = some row ∧ row.id = id

structure Start : Prop where
  pushMark : ∀ id, world.pushMark id ≤ world.now
  importMark : world.importMark ≤ world.now
  deliveries : ∀ delivery, world.deliveries delivery = .idle

end Drops

variable {world : World ρ ι κ δ}

theorem Start.guarded (start : Start world) : Guarded world where
  linked := fun row _ live => absurd (start.pushMark row.id) (not_le.mpr live)
  importing := fun live => absurd start.importMark (not_le.mpr live)
  found := by
    intro delivery id found
    rw [start.deliveries delivery] at found
    cases found

/-- What the invariant allows to be dropped is what may be dropped. -/
theorem Guarded.dropsNothing (guarded : Guarded world) {action : Action ρ ι κ δ}
    (careful : Careful world action) : DropsNothing world action := by
  cases action with
  | guard delivery pull =>
      simp only [DropsNothing, Careful] at careful ⊢
      cases stage : world.deliveries delivery with
      | idle => trivial
      | found id =>
          intro live
          simp only [stage] at careful
          obtain ⟨row, linked, rfl⟩ := guarded.found delivery id stage
          exact .inl ((guarded.linked row linked live).resolve_left (careful live))
      | missing =>
          intro live
          simp only [stage] at careful
          rcases careful live with none | fresh
          · exact .inr (guarded.importing live none)
          · exact .inl fresh
  | _ => trivial

theorem not_other {id : ρ} (alone : ¬world.Other id) {row : LinkedRow ρ}
    (linked : world.row = some row) : row.id = id := by
  by_contra apart
  exact alone ⟨row, linked, apart⟩

theorem Guarded.found_written (guarded : Guarded world) {id : ρ} {version : Option Time}
    (alone : ¬world.Other id) (delivery : δ) (other : ρ)
    (here : world.deliveries delivery = .found other) :
    ∃ row : LinkedRow ρ, some ⟨id, version⟩ = some row ∧ row.id = other := by
  obtain ⟨row, linked, rfl⟩ := guarded.found delivery other here
  exact ⟨⟨id, version⟩, rfl, (not_other alone linked).symm⟩

theorem Guarded.written (guarded : Guarded world) {id : ρ} {version : Option Time}
    (alone : ¬world.Other id)
    (fresh : world.now < world.pushMark id →
      PushUnderWay world id ∨ isEcho (some world.lastModified) version = true) :
    Guarded { world with row := some ⟨id, version⟩ } where
  linked := by
    rintro row ⟨⟩ live
    exact fresh live
  importing := nofun
  found := guarded.found_written alone

theorem Guarded.edit (guarded : Guarded world) {lastModified : Time}
    (under : ∀ row, world.row = some row → world.now < world.pushMark row.id →
      PushUnderWay world row.id) : Guarded { world with lastModified } where
  linked := fun row linked live => .inl (under row linked live)
  importing := guarded.importing
  found := guarded.found

section Pushes

variable [DecidableEq ι]

theorem moved_pushes (push : ι) (stage : Push ρ) :
    (world.moved push stage).pushes = Function.update world.pushes push stage := rfl

theorem pushUnderWay_moved {push : ι} {id : ρ} {stage : Push ρ}
    (under : PushUnderWay world id) (apart : (world.pushes push).row ≠ some id) :
    PushUnderWay (world.moved push stage) id := by
  obtain ⟨other, way⟩ := under
  have elsewhere : other ≠ push := by
    rintro rfl
    exact apart way
  refine ⟨other, ?_⟩
  rw [moved_pushes, Function.update_of_ne elsewhere]
  exact way

theorem otherPush_moved {push : ι} {id : ρ} {stage : Push ρ} (other : OtherPush world push id) :
    PushUnderWay (world.moved push stage) id := by
  obtain ⟨other, elsewhere, way⟩ := other
  refine ⟨other, ?_⟩
  rw [moved_pushes, Function.update_of_ne elsewhere]
  exact way

theorem pushUnderWay_self {push : ι} {id : ρ} {stage : Push ρ} (way : stage.row = some id) :
    PushUnderWay (world.moved push stage) id := by
  refine ⟨push, ?_⟩
  rw [moved_pushes, Function.update_self]
  exact way

theorem Guarded.moved (guarded : Guarded world) {push : ι} {stage : Push ρ}
    (leaves : ∀ row, world.row = some row → (world.pushes push).row = some row.id →
      world.now < world.pushMark row.id →
        stage.row = some row.id ∨ OtherPush world push row.id ∨ UpToDate world) :
    Guarded (world.moved push stage) where
  linked := by
    intro row linked live
    rcases guarded.linked row linked live with under | fresh
    · by_cases own : (world.pushes push).row = some row.id
      · rcases leaves row linked own live with stays | other | fresh
        · exact .inl (pushUnderWay_self stays)
        · exact .inl (otherPush_moved other)
        · exact .inr fresh
      · exact .inl (pushUnderWay_moved under own)
    · exact .inr fresh
  importing := guarded.importing
  found := guarded.found

theorem Guarded.mark [DecidableEq ρ] (guarded : Guarded world) {push : ι} {id : ρ} {until_ : Time}
    (idle : world.pushes push = .idle) :
    Guarded ({ world with pushMark := Function.update world.pushMark id until_ }.moved push
      (.marked id)) where
  linked := by
    intro row linked live
    by_cases own : row.id = id
    · rw [own]
      exact .inl (pushUnderWay_self rfl)
    · have before : world.now < world.pushMark row.id := by
        have same : Function.update world.pushMark id until_ row.id = world.pushMark row.id :=
          Function.update_of_ne own _ _
        exact lt_of_lt_of_eq live same
      rcases guarded.linked row linked before with under | fresh
      · have apart : (world.pushes push).row ≠ some row.id := by
          rw [idle]
          exact nofun
        have still : PushUnderWay (world.moved push (.marked id)) row.id :=
          pushUnderWay_moved under apart
        exact .inl still
      · exact .inr fresh
  importing := guarded.importing
  found := guarded.found

theorem Guarded.write (guarded : Guarded world) {push : ι} {id : ρ} {lastModified : Time}
    {version : Option Time} (alone : ¬world.Other id) :
    Guarded ({ world with lastModified }.moved push (.written id version)) where
  linked := by
    intro row linked _
    rw [not_other alone linked]
    exact .inl (pushUnderWay_self rfl)
  importing := guarded.importing
  found := guarded.found

end Pushes

theorem pulled_pulls [DecidableEq κ] (pull : κ) (stage : Pull) :
    (world.pulled pull stage).pulls = Function.update world.pulls pull stage := rfl

theorem Guarded.pulled [DecidableEq κ] (guarded : Guarded world) {pull : κ} {stage : Pull}
    (keeps : world.now < world.importMark → world.row = none →
      (world.pulls pull).isImport = true → stage.isImport = true ∨ OtherImport world pull) :
    Guarded (world.pulled pull stage) where
  linked := guarded.linked
  importing := by
    intro live none
    obtain ⟨other, way⟩ := guarded.importing live none
    by_cases same : other = pull
    · subst same
      rcases keeps live none way with stays | ⟨third, elsewhere, way⟩
      · refine ⟨other, ?_⟩
        rw [pulled_pulls, Function.update_self]
        exact stays
      · refine ⟨third, ?_⟩
        rw [pulled_pulls, Function.update_of_ne elsewhere]
        exact way
    · refine ⟨other, ?_⟩
      rw [pulled_pulls, Function.update_of_ne same]
      exact way
  found := guarded.found

theorem delivered_deliveries [DecidableEq δ] (delivery : δ) (stage : Delivery ρ) :
    (world.delivered delivery stage).deliveries =
      Function.update world.deliveries delivery stage := rfl

theorem Guarded.delivered [DecidableEq δ] (guarded : Guarded world) {delivery : δ}
    {stage : Delivery ρ}
    (found : ∀ id, stage = .found id → ∃ row, world.row = some row ∧ row.id = id) :
    Guarded (world.delivered delivery stage) where
  linked := guarded.linked
  importing := guarded.importing
  found := by
    intro other id here
    by_cases same : other = delivery
    · subst same
      rw [delivered_deliveries, Function.update_self] at here
      exact found id here
    · rw [delivered_deliveries, Function.update_of_ne same] at here
      exact guarded.found other id here

section Steps

variable [DecidableEq ρ] [DecidableEq ι] [DecidableEq κ] [DecidableEq δ]

theorem Guarded.store (guarded : Guarded world) {push : ι}
    (careful : Careful world (.store push)) : Guarded (world.step (.store push)) := by
  simp only [World.step]
  split
  next id version written =>
    split
    next other =>
      obtain ⟨another, linked, apart⟩ := other
      refine guarded.moved fun row same own _ => ?_
      rw [linked] at same
      cases same
      rw [written] at own
      exact absurd (Option.some.inj own).symm apart
    next alone =>
      refine ⟨?_, nofun, guarded.found_written alone⟩
      rintro row ⟨⟩ live
      rcases careful id version written live with other | fresh
      · exact .inl (otherPush_moved other)
      · exact .inr fresh
  next => exact guarded

theorem Guarded.apply (guarded : Guarded world) {pull : κ} {id : ρ}
    (careful : Careful world (.apply pull id)) : Guarded (world.step (.apply pull id)) := by
  simp only [World.step]
  split
  next imports lastModified passed =>
    split
    next other => exact guarded
    next alone =>
      have written := guarded.written alone (careful imports lastModified passed)
      exact written.pulled fun _ none => nomatch none
  next => exact guarded

theorem Guarded.guard (guarded : Guarded world) (delivery : δ) (pull : κ) :
    Guarded (world.step (.guard delivery pull)) := by
  simp only [World.step, World.guarded]
  split
  next id stage found => exact guarded.delivered nofun
  next stage none idle =>
    split
    next live => exact guarded.delivered nofun
    next stale =>
      have marked : Guarded
          ({ world with importMark := world.now + markTtl }.pulled pull .started) := by
        refine ⟨guarded.linked, fun _ _ => ⟨pull, ?_⟩, guarded.found⟩
        rw [pulled_pulls, Function.update_self]
        rfl
      exact marked.delivered nofun
  next => exact guarded

theorem Guarded.step (guarded : Guarded world) {action : Action ρ ι κ δ}
    (careful : Careful world action) : Guarded (world.step action) := by
  cases action with
  | tick elapsed =>
      have later : world.now ≤ world.now + elapsed :=
        Int.le_add_of_nonneg_right (Int.natCast_nonneg elapsed)
      exact ⟨fun row linked live => guarded.linked row linked (later.trans_lt live),
        fun live => guarded.importing (later.trans_lt live), guarded.found⟩
  | edit lastModified => exact guarded.edit careful
  | mark push id =>
      simp only [World.step]
      split
      next idle => exact guarded.mark idle
      next => exact guarded
  | write push lastModified version =>
      simp only [World.step]
      split
      next id _ =>
        split
        next => exact guarded
        next alone => exact guarded.write alone
      next => exact guarded
  | store push => exact guarded.store careful
  | abandon push =>
      exact guarded.moved fun row _ own live => .inr (careful row.id own live)
  | fetch pull dated =>
      simp only [World.step]
      split
      next idle =>
        refine guarded.pulled fun _ _ imports => ?_
        rw [idle] at imports
        cases imports
      next => exact guarded.pulled fun _ _ _ => .inl rfl
      next => exact guarded
  | check pull =>
      simp only [World.step]
      split
      next imports lastModified fetched =>
        split
        next echo =>
          refine guarded.pulled fun _ none _ => ?_
          obtain ⟨_, _, stored, _⟩ := isEcho_iff.mp echo
          rw [none] at stored
          cases stored
        next =>
          refine guarded.pulled fun _ _ under => .inl ?_
          rw [fetched] at under
          exact under
      next => exact guarded
  | apply pull id => exact guarded.apply careful
  | fail pull => exact guarded.pulled fun live none imports => .inr (careful imports live none)
  | look delivery =>
      simp only [World.step]
      split
      next row idle linked =>
        refine guarded.delivered fun id found => ⟨row, linked, ?_⟩
        cases found
        rfl
      next => exact guarded.delivered nofun
      next => exact guarded
  | guard delivery pull => exact guarded.guard delivery pull

end Steps

/-- In every interleaving of pushes, pulls, deliveries and edits in Zoho, as long as its steps
are careful, every delivery that is dropped is one whose pull would be skipped, or comes
while an import is under way. -/
theorem drops_lose_nothing [DecidableEq ρ] [DecidableEq ι] [DecidableEq κ] [DecidableEq δ]
    (start : Start world) {actions : List (Action ρ ι κ δ)}
    (careful : Runs.Throughout World.step Careful actions world) :
    Runs.Throughout World.step DropsNothing actions world := by
  have guarded : Runs.Always World.step Guarded actions world :=
    Runs.always_of_throughout (fun _ _ guarded careful => guarded.step careful) start.guarded
      careful
  refine (guarded.throughout.and careful).mono ?_
  rintro world action ⟨guarded, careful⟩
  exact guarded.dropsNothing careful

/-! ## An edit under a live mark -/

def sampleLinkedWorld : World Unit Unit Unit Unit where
  now := 0
  lastModified := 10
  row := some { id := (), zohoSyncedVersion := some 10 }
  pushMark := fun _ => 0
  importMark := 0
  pushes := fun _ => .idle
  pulls := fun _ => .idle
  deliveries := fun _ => .idle

theorem sampleLinkedWorld_start : Start sampleLinkedWorld := ⟨fun _ => le_rfl, le_rfl, fun _ => rfl⟩

def samplePush : List (Action Unit Unit Unit Unit) :=
  [.mark () (), .write () 11 (some 11), .store ()]

def sampleDelivery : List (Action Unit Unit Unit Unit) := [.look (), .guard () ()]

theorem drops_lose_nothing_sample :
    Runs.Throughout World.step DropsNothing (samplePush ++ sampleDelivery) sampleLinkedWorld := by
  refine drops_lose_nothing sampleLinkedWorld_start ⟨trivial, trivial, ?_, trivial, ?_, trivial⟩
  · rintro id version ⟨⟩ _
    exact .inr (by decide)
  · rintro _ ⟨push, way⟩
    cases way

/-- Five seconds after the push someone edits the record in Zoho, and the delivery of that
edit is dropped. -/
theorem edit_after_push_dropped :
    ¬Runs.Throughout World.step DropsNothing
      (samplePush ++ [.tick 5000, .edit 16] ++ sampleDelivery) sampleLinkedWorld := by
  rintro ⟨_, _, _, _, _, _, known, _⟩
  have live : (5000 : Time) < 30000 := by decide
  rcases known live with fresh | ⟨pull, way⟩
  · exact absurd fresh (by decide)
  · cases way

end WebhookGuard

end MultiBrandInvoicing
