import MultiBrandInvoicing.Mirroring.EchoVersions
import MultiBrandInvoicing.Mirroring.SequentialPulls

/-!
# Pulls of one record beside each other

A pull fetches the record, compares its time with the stored version and writes the header
with that time: three steps, with those of other pulls and with edits in Zoho between them.
The comparison and the write are two transactions, and the write compares nothing.
-/

set_option autoImplicit false

namespace MultiBrandInvoicing

open ZohoPullService

namespace ConcurrentPulls

open EchoVersions (isEcho isEcho_iff)
open SequentialPulls (stamp Record Guarded)

structure Snapshot (η : Type) where
  header : η
  lastModified : Option Time

structure Row (η : Type) where
  header : η
  zohoSyncedVersion : Option Time

/-- Where one pull stands.  `skipped` and `stored` are the ends of a pull that returns. -/
inductive Stage (η : Type) where
  | idle
  | fetched (snapshot : Snapshot η)
  | passed (snapshot : Snapshot η)
  | skipped (snapshot : Snapshot η)
  | stored (snapshot : Snapshot η)
  | failed

structure World (κ η : Type) where
  header : η
  lastModified : Time
  row : Row η
  pulls : κ → Stage η

inductive Action (κ η : Type) where
  | edit (header : η) (lastModified : Time)
  | fetch (pull : κ) (dated : Bool)
  | check (pull : κ)
  | upsert (pull : κ)
  | fail (pull : κ)

variable {κ η : Type}

def World.moved [DecidableEq κ] (world : World κ η) (pull : κ) (stage : Stage η) : World κ η :=
  { world with pulls := Function.update world.pulls pull stage }

def World.step [DecidableEq κ] (world : World κ η) : Action κ η → World κ η
  | .edit header lastModified => { world with header, lastModified }
  | .fetch pull dated =>
      match world.pulls pull with
      | .idle => world.moved pull (.fetched
          ⟨world.header, if dated then some world.lastModified else none⟩)
      | _ => world
  | .check pull =>
      match world.pulls pull with
      | .fetched snapshot =>
          if isEcho snapshot.lastModified world.row.zohoSyncedVersion then
            world.moved pull (.skipped snapshot)
          else world.moved pull (.passed snapshot)
      | _ => world
  | .upsert pull =>
      match world.pulls pull with
      | .passed snapshot =>
          { world with row := ⟨snapshot.header, snapshot.lastModified⟩ }.moved pull
            (.stored snapshot)
      | _ => world
  | .fail pull =>
      match world.pulls pull with
      | .fetched _ => world.moved pull .failed
      | .passed _ => world.moved pull .failed
      | _ => world

def Stage.snapshot : Stage η → Option (Snapshot η)
  | .fetched snapshot => some snapshot
  | .passed snapshot => some snapshot
  | .skipped snapshot => some snapshot
  | .stored snapshot => some snapshot
  | _ => none

def Stage.returned : Stage η → Option (Snapshot η)
  | .skipped snapshot => some snapshot
  | .stored snapshot => some snapshot
  | _ => none

theorem Stage.returned_snapshot {stage : Stage η} {snapshot : Snapshot η}
    (returned : stage.returned = some snapshot) : stage.snapshot = some snapshot := by
  cases stage with
  | skipped => exact returned
  | stored => exact returned
  | idle => cases returned
  | fetched => cases returned
  | passed => cases returned
  | failed => cases returned

def NeverBack [DecidableEq κ] (world : World κ η) (action : Action κ η) : Prop :=
  stamp world.row.zohoSyncedVersion ≤ stamp (world.step action).row.zohoSyncedVersion

/-- Of the snapshots that pulls have returned with, the newest is the one in the row. -/
def Newest (world : World κ η) : Prop :=
  ∀ pull newest, (world.pulls pull).returned = some newest →
    (∀ other snapshot, (world.pulls other).returned = some snapshot →
      stamp snapshot.lastModified ≤ stamp newest.lastModified) →
    world.row.header = newest.header ∧ world.row.zohoSyncedVersion = newest.lastModified

/-- Edits have times that increase, what is fetched has one, and a pull that writes has not
been overtaken: since its check nothing newer than its snapshot was stored. -/
def Careful (world : World κ η) : Action κ η → Prop
  | .edit _ lastModified => world.lastModified < lastModified
  | .fetch _ dated => dated = true
  | .upsert pull => ∀ snapshot, world.pulls pull = .passed snapshot →
      stamp world.row.zohoSyncedVersion ≤ stamp snapshot.lastModified
  | _ => True

/-- No pull has begun.  A version the row has is not ahead of Zoho, and if it is the present
one, the row has what Zoho has. -/
structure Start (world : World κ η) : Prop where
  idle : ∀ pull, world.pulls pull = .idle
  behind : ∀ version, world.row.zohoSyncedVersion = some version → version ≤ world.lastModified
  same : world.row.zohoSyncedVersion = some world.lastModified → world.row.header = world.header

/-- What is known of a snapshot: its time, at which Zoho had its header, and that it is not
older than the version of the start. -/
structure Known (content : Time → η) (start : Option Time) (now : Time) (snapshot : Snapshot η) :
    Prop where
  dated : ∃ time, snapshot.lastModified = some time ∧ snapshot.header = content time ∧ time ≤ now
  since : stamp start ≤ stamp snapshot.lastModified

/-- A version in the row is the time of the header beside it, comes from a pull that returned
or from the start, and is as new as every snapshot a pull returned with. -/
structure Tracked (content : Time → η) (start : Option Time) (world : World κ η) : Prop where
  header : world.header = content world.lastModified
  since : stamp start ≤ stamp (some world.lastModified)
  known : ∀ pull snapshot, (world.pulls pull).snapshot = some snapshot →
    Known content start world.lastModified snapshot
  row : ∀ version, world.row.zohoSyncedVersion = some version →
    world.row.header = content version ∧ version ≤ world.lastModified
  origin : world.row.zohoSyncedVersion = start ∨ ∃ pull snapshot,
    (world.pulls pull).returned = some snapshot ∧
      snapshot.lastModified = world.row.zohoSyncedVersion
  behind : ∀ pull snapshot, (world.pulls pull).returned = some snapshot →
    stamp snapshot.lastModified ≤ stamp world.row.zohoSyncedVersion

theorem stamp_le_some {version : Option Time} {time : Time} :
    stamp version ≤ stamp (some time) ↔ ∀ known, version = some known → known ≤ time := by
  cases version with
  | none =>
      refine ⟨fun _ known absent => ?_, fun _ => bot_le⟩
      cases absent
  | some version =>
      constructor
      · rintro below known ⟨⟩
        exact WithBot.coe_le_coe.mp below
      · exact fun below => WithBot.coe_le_coe.mpr (below version rfl)

theorem isEcho_stamp {lastModified version : Option Time}
    (echo : isEcho lastModified version = true) :
    stamp lastModified ≤ stamp version := by
  obtain ⟨stored, remote, rfl, rfl, older⟩ := isEcho_iff.mp echo
  exact WithBot.coe_le_coe.mpr older

theorem Start.tracked {world : World κ η} (start : Start world) :
    ∃ content, Tracked content world.row.zohoSyncedVersion world := by
  refine ⟨fun time =>
    if world.row.zohoSyncedVersion = some time then world.row.header else world.header, ?_⟩
  refine ⟨?_, stamp_le_some.mpr start.behind, ?_, ?_, .inl rfl, ?_⟩
  · split
    case isTrue present => exact (start.same present).symm
    case isFalse => rfl
  · intro pull snapshot got
    rw [start.idle pull] at got
    cases got
  · intro version stored
    exact ⟨(if_pos stored).symm, start.behind version stored⟩
  · intro pull snapshot returned
    rw [start.idle pull] at returned
    cases returned

/-- The newest snapshot returned with has the version of the row, hence its header. -/
theorem Tracked.newest {content : Time → η} {start : Option Time} {world : World κ η}
    (tracked : Tracked content start world) : Newest world := by
  intro pull newest returned others
  have known := tracked.known pull newest (Stage.returned_snapshot returned)
  obtain ⟨time, dated, shown, _⟩ := known.dated
  have above : stamp world.row.zohoSyncedVersion ≤ stamp newest.lastModified := by
    rcases tracked.origin with begun | ⟨other, snapshot, ended, same⟩
    · rw [begun]
      exact known.since
    · rw [← same]
      exact others other snapshot ended
  have stamps : stamp world.row.zohoSyncedVersion = stamp newest.lastModified :=
    le_antisymm above (tracked.behind pull newest returned)
  have version : world.row.zohoSyncedVersion = newest.lastModified := stamps
  refine ⟨?_, version⟩
  rw [dated] at version
  rw [shown]
  exact (tracked.row time version).1

section Steps

variable [DecidableEq κ] {content : Time → η} {start : Option Time} {world : World κ η}

theorem moved_pulls (pull other : κ) (stage : Stage η) :
    (world.moved pull stage).pulls other = if other = pull then stage else world.pulls other := by
  by_cases same : other = pull
  · subst same
    simp [World.moved]
  · simp [World.moved, same]

theorem Tracked.moved (tracked : Tracked content start world) {pull : κ} {stage : Stage η}
    (unreturned : (world.pulls pull).returned = none)
    (known : ∀ snapshot, stage.snapshot = some snapshot →
      Known content start world.lastModified snapshot)
    (behind : ∀ snapshot, stage.returned = some snapshot →
      stamp snapshot.lastModified ≤ stamp world.row.zohoSyncedVersion) :
    Tracked content start (world.moved pull stage) := by
  refine ⟨tracked.header, tracked.since, ?_, tracked.row, ?_, ?_⟩
  · intro other snapshot got
    rw [moved_pulls] at got
    split at got
    · exact known snapshot got
    · exact tracked.known other snapshot got
  · rcases tracked.origin with begun | ⟨other, snapshot, ended, same⟩
    · exact .inl begun
    · refine .inr ⟨other, snapshot, ?_, same⟩
      have apart : other ≠ pull := by
        rintro rfl
        rw [unreturned] at ended
        cases ended
      rw [moved_pulls, if_neg apart]
      exact ended
  · intro other snapshot ended
    rw [moved_pulls] at ended
    split at ended
    · exact behind snapshot ended
    · exact tracked.behind other snapshot ended

theorem Known.edit {now later : Time} {snapshot : Snapshot η} {header : η}
    (known : Known content start now snapshot) (increases : now < later) :
    Known (Function.update content later header) start later snapshot := by
  obtain ⟨time, dated, shown, past⟩ := known.dated
  have apart : time ≠ later := ne_of_lt (past.trans_lt increases)
  refine ⟨⟨time, dated, ?_, past.trans increases.le⟩, known.since⟩
  rw [Function.update_of_ne apart]
  exact shown

theorem Tracked.edit (tracked : Tracked content start world) (header : η) {lastModified : Time}
    (increases : world.lastModified < lastModified) :
    Tracked (Function.update content lastModified header) start
      (world.step (.edit header lastModified)) := by
  refine ⟨?_, ?_, ?_, ?_, tracked.origin, tracked.behind⟩
  · exact (Function.update_self lastModified header content).symm
  · exact tracked.since.trans (WithBot.coe_le_coe.mpr increases.le)
  · exact fun pull snapshot got => (tracked.known pull snapshot got).edit increases
  · intro version stored
    obtain ⟨shown, past⟩ := tracked.row version stored
    have apart : version ≠ lastModified := ne_of_lt (past.trans_lt increases)
    refine ⟨?_, past.trans increases.le⟩
    rw [Function.update_of_ne apart]
    exact shown

theorem Tracked.upsert (tracked : Tracked content start world) {pull : κ} {snapshot : Snapshot η}
    (passed : world.pulls pull = .passed snapshot)
    (ahead : stamp world.row.zohoSyncedVersion ≤ stamp snapshot.lastModified) :
    Tracked content start
      ({ world with row := ⟨snapshot.header, snapshot.lastModified⟩ }.moved pull
        (.stored snapshot)) := by
  have known := tracked.known pull snapshot (by rw [passed]; rfl)
  obtain ⟨time, dated, shown, past⟩ := known.dated
  refine ⟨tracked.header, tracked.since, ?_, ?_, ?_, ?_⟩
  · intro other got_ got
    rw [moved_pulls] at got
    split at got
    · cases got
      exact known
    · exact tracked.known other got_ got
  · intro version stored
    have same : snapshot.lastModified = some version := stored
    rw [dated] at same
    cases same
    exact ⟨shown, past⟩
  · refine .inr ⟨pull, snapshot, ?_, rfl⟩
    rw [moved_pulls, if_pos rfl]
    rfl
  · intro other ended_ ended
    rw [moved_pulls] at ended
    split at ended
    · cases ended
      exact le_rfl
    · exact (tracked.behind other ended_ ended).trans ahead

theorem Tracked.step (tracked : Tracked content start world) {action : Action κ η}
    (careful : Careful world action) :
    ∃ content, Tracked content start (world.step action) := by
  cases action with
  | edit header lastModified => exact ⟨_, tracked.edit header careful⟩
  | fetch pull dated =>
      refine ⟨content, ?_⟩
      simp only [World.step]
      split
      next idle =>
        have dated : dated = true := careful
        subst dated
        refine tracked.moved (by rw [idle]; rfl) (fun snapshot got => ?_) (by simp [Stage.returned])
        cases got
        exact ⟨⟨world.lastModified, rfl, tracked.header, le_rfl⟩, tracked.since⟩
      next => exact tracked
  | check pull =>
      refine ⟨content, ?_⟩
      simp only [World.step]
      split
      next snapshot fetched =>
        have known := tracked.known pull snapshot (by rw [fetched]; rfl)
        have unreturned : (world.pulls pull).returned = none := by
          rw [fetched]
          rfl
        split
        next echo =>
          refine tracked.moved unreturned (fun other got => ?_) fun other ended => ?_
          · cases got
            exact known
          · cases ended
            exact isEcho_stamp echo
        next =>
          refine tracked.moved unreturned (fun other got => ?_) (by simp [Stage.returned])
          cases got
          exact known
      next => exact tracked
  | upsert pull =>
      refine ⟨content, ?_⟩
      simp only [World.step]
      split
      next snapshot passed => exact tracked.upsert passed (careful snapshot passed)
      next => exact tracked
  | fail pull =>
      refine ⟨content, ?_⟩
      simp only [World.step]
      split
      next snapshot fetched =>
        exact tracked.moved (by rw [fetched]; rfl) (by simp [Stage.snapshot])
          (by simp [Stage.returned])
      next snapshot passed =>
        exact tracked.moved (by rw [passed]; rfl) (by simp [Stage.snapshot])
          (by simp [Stage.returned])
      next => exact tracked

theorem neverBack_of_careful {action : Action κ η} (careful : Careful world action) :
    NeverBack world action := by
  unfold NeverBack
  cases action with
  | edit header lastModified => exact le_rfl
  | fetch pull dated =>
      simp only [World.step]
      split <;> exact le_rfl
  | check pull =>
      simp only [World.step]
      split
      next =>
        split <;> exact le_rfl
      next => exact le_rfl
  | upsert pull =>
      simp only [World.step]
      split
      next snapshot passed => exact careful snapshot passed
      next => exact le_rfl
  | fail pull =>
      simp only [World.step]
      split <;> exact le_rfl

end Steps

/-- In every interleaving of edits and of any number of pulls, as long as its steps are
careful, the stored version never decreases, and in every state the row has the header and
the version of the newest snapshot that a pull has returned with. -/
theorem pulls_never_go_back [DecidableEq κ] {world : World κ η} (start : Start world)
    {actions : List (Action κ η)} (careful : Runs.Throughout World.step Careful actions world) :
    Runs.Throughout World.step NeverBack actions world ∧
      Runs.Always World.step Newest actions world := by
  refine ⟨careful.mono fun _ _ careful => neverBack_of_careful careful, ?_⟩
  have tracked : Runs.Always World.step
      (fun later => ∃ content, Tracked content world.row.zohoSyncedVersion later)
      actions world := by
    refine Runs.always_of_throughout ?_ start.tracked careful
    rintro _ _ ⟨_, tracked⟩ careful
    exact tracked.step careful
  refine tracked.mono ?_
  rintro _ ⟨_, tracked⟩
  exact tracked.newest

/-! ## One pull alone -/

section Alone

variable {ρ α ι : Type} (record : Record ρ α ι η)

def rowOf (row : ρ) : Row η := ⟨record.header row, record.version row⟩

def snapshotOf (attempt : α) : Snapshot η :=
  ⟨record.brings (record.snapshot attempt), record.lastModified (record.snapshot attempt)⟩

/-- With nothing between its check and its write, a pull does what the pull of the record
does when it returns. -/
theorem pull_alone [DecidableEq κ] {record : Record ρ α ι η} (guarded : Guarded record)
    {world : World κ η} {pull : κ} {row : ρ} {attempt : α}
    (fetched : world.pulls pull = .fetched (snapshotOf record attempt))
    (same : world.row = rowOf record row)
    (dated : (record.lastModified (record.snapshot attempt)).isSome = true)
    (ok : (record.pull row attempt).1.isOk = true) :
    ((world.step (.check pull)).step (.upsert pull)).row =
      rowOf record (record.pull row attempt).2 := by
  have test : isEcho (snapshotOf record attempt).lastModified world.row.zohoSyncedVersion = true ↔
      stamp (record.lastModified (record.snapshot attempt)) ≤ stamp (record.version row) := by
    obtain ⟨remote, known⟩ := Option.isSome_iff_exists.mp dated
    rw [same]
    simp only [snapshotOf, rowOf, known]
    cases record.version row with
    | none =>
        refine ⟨fun echo => ?_, fun below => absurd below (WithBot.not_coe_le_bot remote)⟩
        cases echo
    | some version => exact decide_eq_true_iff.trans WithBot.coe_le_coe.symm
  rcases le_or_gt (stamp (record.lastModified (record.snapshot attempt)))
    (stamp (record.version row)) with stale | newer
  · have echo := test.mpr stale
    rw [guarded.stale row attempt dated stale]
    simp only [World.step, fetched, echo, if_true, World.moved, Function.update_self]
    exact same
  · have fresh : ¬isEcho (snapshotOf record attempt).lastModified
        world.row.zohoSyncedVersion = true := fun echo => absurd (test.mp echo) (not_le.mpr newer)
    obtain ⟨header, version⟩ := guarded.newer row attempt dated newer ok
    simp only [World.step, fetched, if_neg fresh, World.moved, Function.update_self]
    rw [rowOf, header, version]
    rfl

end Alone

/-! ## A pull that is overtaken -/

def sampleWorld : World Bool String where
  header := "first"
  lastModified := 1
  row := { header := "", zohoSyncedVersion := none }
  pulls := fun _ => .idle

theorem sampleWorld_start : Start sampleWorld where
  idle := fun _ => rfl
  behind := by
    intro version stored
    cases stored
  same := by
    intro stored
    cases stored

def sampleFetches : List (Action Bool String) :=
  [.fetch false true, .edit "second" 2, .fetch true true]

def sampleInTurn : List (Action Bool String) :=
  sampleFetches ++ [.check false, .upsert false, .check true, .upsert true]

theorem pulls_never_go_back_sample : Newest (sampleInTurn.foldl World.step sampleWorld) := by
  refine (pulls_never_go_back sampleWorld_start ?_).2.last
  have increases : (1 : Time) < 2 := by decide
  refine ⟨rfl, increases, rfl, trivial, ?_, trivial, ?_, trivial⟩
  · rintro snapshot ⟨⟩
    exact bot_le
  · rintro snapshot ⟨⟩
    exact WithBot.coe_le_coe.mpr increases.le

def sampleOverlap : List (Action Bool String) :=
  sampleFetches ++ [.check false, .check true, .upsert true]

def sampleOvertaken : World Bool String := sampleOverlap.foldl World.step sampleWorld

theorem overtaken_pull_goes_back :
    ¬NeverBack sampleOvertaken (.upsert false) ∧
      let final := sampleOvertaken.step (.upsert false)
      (final.pulls false).returned.map Snapshot.lastModified = some (some 1) ∧
        (final.pulls true).returned.map Snapshot.lastModified = some (some 2) ∧
        final.row.zohoSyncedVersion = some 1 ∧ final.row.header = "first" := by
  refine ⟨?_, rfl, rfl, rfl, rfl⟩
  unfold NeverBack
  decide

end ConcurrentPulls

end MultiBrandInvoicing
