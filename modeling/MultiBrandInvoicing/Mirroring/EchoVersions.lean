import Mathlib.Logic.Function.Basic
import MultiBrandInvoicing.Integrations.ZohoPull
import MultiBrandInvoicing.Transitions.Runs

/-!
# Versions that stand for our own writes

A push stores the `last_modified_time` of the record it has written, a pull that of the
snapshot it has applied, and a pull skips what is no newer (`isOwnPushEcho`).  Here one
record is pushed, pulled and edited directly in Zoho, request by request and in any order.
The requests are those of `upsertCustomer`, `pushInvoice` and `resolveWriteVersion` in
`zoho-books.adapter.ts` and of the pulls of `zoho-pull.service.ts`; Zoho stamps a record
with its clock when it changes.
-/

set_option autoImplicit false

namespace MultiBrandInvoicing

namespace EchoVersions

/-- The record in Zoho.  `foreign` has the times of the edits made there, of fields the
pull reads, oldest first. -/
structure RemoteRecord where
  clock : Time
  lastModified : Time
  foreign : List Time

/-- The local row: the stored version, and how many of the foreign edits the snapshot shows
that was applied to it last. -/
structure LocalRow where
  zohoSyncedVersion : Option Time
  seen : Nat

/-- Where a push stands: a write whose response says draft has to be marked as sent, and
one without a version to be read back. -/
inductive PushStage where
  | idle
  | drafted
  | unread
  | resolved (version : Option Time)

/-- What a pull has fetched: the time of the last change, if Zoho gives one, and how many
foreign edits it shows. -/
structure Snapshot where
  lastModified : Option Time
  edits : Nat

inductive PullStage where
  | idle
  | listed (snapshot : Snapshot)
  | applying (snapshot : Snapshot)

structure World (ι κ : Type) where
  remote : RemoteRecord
  row : LocalRow
  pushes : ι → PushStage
  pulls : κ → PullStage

inductive Action (ι κ : Type) where
  | tick (elapsed : Nat)
  | edit
  | write (push : ι) (changes reports draft : Bool)
  | markSent (push : ι)
  | void (push : ι)
  | readBack (push : ι) (answers : Bool)
  | store (push : ι)
  | abandon (push : ι)
  | fetch (pull : κ) (dated : Bool)
  | check (pull : κ)
  | apply (pull : κ)
  | fail (pull : κ)

def isEcho (lastModified syncedVersion : Option Time) : Bool :=
  match syncedVersion, lastModified with
  | some version, some remote => remote ≤ version
  | _, _ => false

/-- `isEcho` is the test of the code on what it parses. -/
theorem isOwnPushEcho_eq {ν : Type} (numbers : ZohoNumbers ν) (text : Option String)
    (syncedVersion : Option Time) :
    ZohoPullService.isOwnPushEcho numbers text syncedVersion =
      isEcho (ZohoPullService.parseZohoTimestamp numbers text) syncedVersion := rfl

theorem isEcho_iff {lastModified syncedVersion : Option Time} :
    isEcho lastModified syncedVersion = true ↔
      ∃ version remote, syncedVersion = some version ∧ lastModified = some remote ∧
        remote ≤ version := by
  cases syncedVersion <;> cases lastModified <;> simp [isEcho]

def resolveWriteVersion : Option Time → PushStage
  | some direct => .resolved (some direct)
  | none => .unread

def RemoteRecord.touch (remote : RemoteRecord) : RemoteRecord :=
  { remote with lastModified := remote.clock }

variable {ι κ : Type}

def World.push [DecidableEq ι] (world : World ι κ) (push : ι) (stage : PushStage) : World ι κ :=
  { world with pushes := Function.update world.pushes push stage }

def World.pull [DecidableEq κ] (world : World ι κ) (pull : κ) (stage : PullStage) : World ι κ :=
  { world with pulls := Function.update world.pulls pull stage }

/-- One request, or one write to the local row.  What its stage does not allow changes
nothing. -/
def World.step [DecidableEq ι] [DecidableEq κ] (world : World ι κ) : Action ι κ → World ι κ
  | .tick elapsed => { world with remote.clock := world.remote.clock + elapsed }
  | .edit =>
      { world with remote :=
        { world.remote.touch with foreign := world.remote.foreign ++ [world.remote.clock] } }
  | .write push changes reports draft =>
      match world.pushes push with
      | .idle =>
          let remote := if changes then world.remote.touch else world.remote
          -- marking the invoice as sent is a write of its own, so the version is dropped
          let fromWrite :=
            if draft then none else if reports then some remote.lastModified else none
          { world with remote }.push push
            (if draft then .drafted else resolveWriteVersion fromWrite)
      | _ => world
  | .markSent push =>
      match world.pushes push with
      | .drafted => { world with remote := world.remote.touch }.push push (resolveWriteVersion none)
      | _ => world
  | .void push =>
      match world.pushes push with
      | .idle => { world with remote := world.remote.touch }.push push (resolveWriteVersion none)
      | _ => world
  | .readBack push answers =>
      match world.pushes push with
      | .unread =>
          world.push push (.resolved (if answers then some world.remote.lastModified else none))
      | _ => world
  | .store push =>
      match world.pushes push with
      | .resolved version =>
          { world with row.zohoSyncedVersion := version }.push push .idle
      | _ => world
  | .abandon push => world.push push .idle
  | .fetch pull dated =>
      match world.pulls pull with
      | .idle => world.pull pull (.listed {
          lastModified := if dated then some world.remote.lastModified else none
          edits := world.remote.foreign.length })
      | _ => world
  | .check pull =>
      match world.pulls pull with
      | .listed snapshot =>
          if isEcho snapshot.lastModified world.row.zohoSyncedVersion then world.pull pull .idle
          else world.pull pull (.applying snapshot)
      | _ => world
  | .apply pull =>
      match world.pulls pull with
      | .applying snapshot =>
          { world with row := ⟨snapshot.lastModified, snapshot.edits⟩ }.pull pull .idle
      | _ => world
  | .fail pull => world.pull pull .idle

/-! ## What a skip may rest on -/

/-- A pull that is skipped as an echo shows no foreign edit that is not reflected here. -/
def SkipKnown (world : World ι κ) : Action ι κ → Prop
  | .check pull =>
      match world.pulls pull with
      | .listed snapshot =>
          isEcho snapshot.lastModified world.row.zohoSyncedVersion = true →
            snapshot.edits ≤ world.row.seen
      | _ => True
  | _ => True

instance (world : World ι κ) : DecidablePred (SkipKnown world) := fun action => by
  unfold SkipKnown
  split
  · split <;> infer_instance
  · infer_instance

/-- A foreign edit falls into a later second than the stored version and than what a pull
under way has fetched; a push stores no version that an edit not yet pulled is no later
than. -/
def Careful (world : World ι κ) : Action ι κ → Prop
  | .edit =>
      (∀ version, world.row.zohoSyncedVersion = some version → version < world.remote.clock) ∧
        ∀ pull snapshot remote,
          world.pulls pull = .listed snapshot ∨ world.pulls pull = .applying snapshot →
            snapshot.lastModified = some remote → remote < world.remote.clock
  | .store push => ∀ version, world.pushes push = .resolved (some version) →
      ∀ time ∈ world.remote.foreign.drop world.row.seen, version < time
  | _ => True

/-- Before the first push and the first pull. -/
structure Unsynced (world : World ι κ) : Prop where
  version : world.row.zohoSyncedVersion = none
  pulls : ∀ pull, world.pulls pull = .idle
  past : ∀ time ∈ world.remote.foreign, time ≤ world.remote.lastModified
  clock : world.remote.lastModified ≤ world.remote.clock

structure Cuts (foreign : List Time) (snapshot : Snapshot) : Prop where
  within : snapshot.edits ≤ foreign.length
  shown : ∀ remote, snapshot.lastModified = some remote →
    ∀ time ∈ foreign.take snapshot.edits, time ≤ remote
  later : ∀ remote, snapshot.lastModified = some remote →
    ∀ time ∈ foreign.drop snapshot.edits, remote < time

/-- Every edit that is not reflected is later than the stored version. -/
structure Tracked (world : World ι κ) : Prop where
  clock : world.remote.lastModified ≤ world.remote.clock
  past : ∀ time ∈ world.remote.foreign, time ≤ world.remote.lastModified
  hidden : ∀ version, world.row.zohoSyncedVersion = some version →
    ∀ time ∈ world.remote.foreign.drop world.row.seen, version < time
  cuts : ∀ pull snapshot,
    world.pulls pull = .listed snapshot ∨ world.pulls pull = .applying snapshot →
      Cuts world.remote.foreign snapshot

theorem Unsynced.tracked {world : World ι κ} (unsynced : Unsynced world) : Tracked world where
  clock := unsynced.clock
  past := unsynced.past
  hidden := by simp [unsynced.version]
  cuts := by simp [unsynced.pulls]

theorem Cuts.edit {foreign : List Time} {snapshot : Snapshot} (cuts : Cuts foreign snapshot)
    {clock : Time} (later : ∀ remote, snapshot.lastModified = some remote → remote < clock) :
    Cuts (foreign ++ [clock]) snapshot where
  within := by
    have within := cuts.within
    simp only [List.length_append, List.length_singleton]
    omega
  shown := by
    rw [List.take_append_of_le_length cuts.within]
    exact cuts.shown
  later := by
    intro remote dated time member
    rw [List.drop_append_of_le_length cuts.within] at member
    rcases List.mem_append.mp member with earlier | last
    · exact cuts.later remote dated time earlier
    · rw [List.mem_singleton.mp last]
      exact later remote dated

section Steps

variable {world : World ι κ}

theorem Tracked.touch (tracked : Tracked world) {remote : RemoteRecord}
    (foreign : remote.foreign = world.remote.foreign)
    (modified : world.remote.lastModified ≤ remote.lastModified)
    (clock : remote.lastModified ≤ remote.clock) : Tracked { world with remote } where
  clock := clock
  past := by
    intro time member
    rw [foreign] at member
    exact (tracked.past time member).trans modified
  hidden := by
    simp only [foreign]
    exact tracked.hidden
  cuts := by
    simp only [foreign]
    exact tracked.cuts

theorem Tracked.push [DecidableEq ι] (tracked : Tracked world) (push : ι) (stage : PushStage) :
    Tracked (world.push push stage) := ⟨tracked.clock, tracked.past, tracked.hidden, tracked.cuts⟩

theorem Tracked.pull [DecidableEq κ] (tracked : Tracked world) (pull : κ) {stage : PullStage}
    (cuts : ∀ snapshot, stage = .listed snapshot ∨ stage = .applying snapshot →
      Cuts world.remote.foreign snapshot) : Tracked (world.pull pull stage) where
  clock := tracked.clock
  past := tracked.past
  hidden := tracked.hidden
  cuts := by
    intro other snapshot under
    by_cases same : other = pull
    · subst same
      simp only [World.pull, Function.update_self] at under
      exact cuts snapshot under
    · simp only [World.pull, Function.update_of_ne same] at under
      exact tracked.cuts other snapshot under

theorem Tracked.snapshot (tracked : Tracked world) (lastModified : Option Time)
    (dated : ∀ remote, lastModified = some remote → remote = world.remote.lastModified) :
    Cuts world.remote.foreign ⟨lastModified, world.remote.foreign.length⟩ where
  within := le_rfl
  shown := by
    intro remote given time member
    rw [dated remote given]
    exact tracked.past time (List.mem_of_mem_take member)
  later := by simp

/-- Where every hidden edit is later than the version, a skip hides none. -/
theorem Tracked.skipKnown (tracked : Tracked world) (action : Action ι κ) :
    SkipKnown world action := by
  cases action with
  | check pull =>
      simp only [SkipKnown]
      split
      next snapshot listed =>
        intro echo
        obtain ⟨version, remote, stored, dated, older⟩ := isEcho_iff.mp echo
        by_contra unseen
        have cuts := tracked.cuts pull snapshot (.inl listed)
        have within := cuts.within
        have here : world.row.seen < world.remote.foreign.length := by omega
        -- the first edit that is not reflected is both in the snapshot and later than it
        have shown : world.remote.foreign[world.row.seen] ≤ remote :=
          cuts.shown remote dated _ (List.mem_take_iff_getElem.mpr ⟨world.row.seen, by omega, rfl⟩)
        have hidden : version < world.remote.foreign[world.row.seen] :=
          tracked.hidden version stored _ (List.mem_drop_iff_getElem.mpr ⟨0, by omega, rfl⟩)
        exact absurd (hidden.trans_le (shown.trans older)) (lt_irrefl version)
      next => trivial
  | _ => trivial

variable [DecidableEq ι] [DecidableEq κ]

/-- A foreign edit in a later second is hidden by no version and by no pull under way. -/
theorem Tracked.edit (tracked : Tracked world) (careful : Careful world .edit) :
    Tracked (world.step .edit) := by
  obtain ⟨stored, fetched⟩ := careful
  refine ⟨le_rfl, ?_, ?_, ?_⟩
  · intro time member
    rcases List.mem_append.mp member with earlier | last
    · exact (tracked.past time earlier).trans tracked.clock
    · exact le_of_eq (List.mem_singleton.mp last)
  · intro version same time member
    rcases List.mem_append.mp (List.drop_append.symm ▸ member) with earlier | last
    · exact tracked.hidden version same time earlier
    · rw [List.mem_singleton.mp (List.mem_of_mem_drop last)]
      exact stored version same
  · intro pull snapshot under
    exact (tracked.cuts pull snapshot under).edit fun remote dated =>
      fetched pull snapshot remote under dated

theorem Tracked.step (tracked : Tracked world) {action : Action ι κ}
    (careful : Careful world action) : Tracked (world.step action) := by
  have touched : Tracked { world with remote := world.remote.touch } :=
    tracked.touch rfl tracked.clock le_rfl
  cases action with
  | tick elapsed =>
      have moved : world.remote.lastModified ≤ world.remote.clock + elapsed :=
        tracked.clock.trans (Int.le_add_of_nonneg_right (Int.natCast_nonneg elapsed))
      exact tracked.touch rfl le_rfl moved
  | edit => exact tracked.edit careful
  | write push changes reports draft =>
      simp only [World.step]
      split
      · cases changes
        · exact tracked.push push _
        · exact touched.push push _
      · exact tracked
  | markSent push =>
      simp only [World.step]
      split
      · exact touched.push push _
      · exact tracked
  | void push =>
      simp only [World.step]
      split
      · exact touched.push push _
      · exact tracked
  | readBack push answers =>
      simp only [World.step]
      split
      · exact tracked.push push _
      · exact tracked
  | store push =>
      simp only [World.step]
      split
      next version resolved =>
        have stored : Tracked { world with row.zohoSyncedVersion := version } :=
          ⟨tracked.clock, tracked.past,
            fun taken same => careful taken (resolved.trans (congrArg _ same)), tracked.cuts⟩
        exact stored.push push .idle
      next => exact tracked
  | abandon push => exact tracked.push push .idle
  | fetch pull dated =>
      simp only [World.step]
      split
      · refine tracked.pull pull fun snapshot under => ?_
        have same := under.resolve_right (by simp)
        cases same
        exact tracked.snapshot _ (by cases dated <;> simp)
      · exact tracked
  | check pull =>
      simp only [World.step]
      split
      next snapshot listed =>
        split
        · exact tracked.pull pull (by simp)
        · refine tracked.pull pull fun other under => ?_
          cases under.resolve_left (by simp)
          exact tracked.cuts pull snapshot (.inl listed)
      next => exact tracked
  | apply pull =>
      simp only [World.step]
      split
      next snapshot applying =>
        have cuts := tracked.cuts pull snapshot (.inr applying)
        have applied : Tracked { world with row := ⟨snapshot.lastModified, snapshot.edits⟩ } :=
          ⟨tracked.clock, tracked.past, cuts.later, tracked.cuts⟩
        exact applied.pull pull (by simp)
      next => exact tracked
  | fail pull => exact tracked.pull pull (by simp)

end Steps

/-- In every interleaving of the requests of pushes and pulls with edits made directly in
Zoho, as long as its steps are careful, a pull is skipped as an echo only where every
foreign edit it shows is reflected here. -/
theorem skips_hide_nothing [DecidableEq ι] [DecidableEq κ] {world : World ι κ}
    (unsynced : Unsynced world) {actions : List (Action ι κ)}
    (careful : Runs.Throughout World.step Careful actions world) :
    Runs.Throughout World.step SkipKnown actions world := by
  have tracked : Runs.Always World.step Tracked actions world :=
    Runs.always_of_throughout (fun _ _ tracked careful => tracked.step careful)
      unsynced.tracked careful
  exact tracked.throughout.mono fun _ action tracked => tracked.skipKnown action

/-- A version that is stored over an edit not pulled yet hides it, unless the record has
been modified since. -/
theorem careless_store_hides [DecidableEq ι] [DecidableEq κ] {world : World ι κ} {push : ι}
    {pull : κ} {version : Time} (resolved : world.pushes push = .resolved (some version))
    (idle : world.pulls pull = .idle) (unmodified : world.remote.lastModified ≤ version)
    (unpulled : world.row.seen < world.remote.foreign.length) :
    ¬Runs.Throughout World.step SkipKnown [.store push, .fetch pull true, .check pull] world := by
  rintro ⟨_, _, known, _⟩
  simp only [World.step, resolved, World.push, idle, World.pull, SkipKnown, Function.update_self,
    isEcho, if_true, decide_eq_true_eq] at known
  have known := known unmodified
  omega

def sampleWorld : World Unit Unit where
  remote := { clock := 10, lastModified := 10, foreign := [] }
  row := { zohoSyncedVersion := none, seen := 0 }
  pushes := fun _ => .idle
  pulls := fun _ => .idle

def sampleReadBack : List (Action Unit Unit) :=
  [.write () true true true, .tick 1, .markSent (), .tick 1, .edit, .readBack () true, .store (),
    .fetch () true, .check ()]

def samplePulledEdit : List (Action Unit Unit) :=
  [.tick 1, .edit, .fetch () true, .check (), .apply (), .tick 1, .write () true true false,
    .store (), .fetch () true, .check ()]

theorem skips_hide_nothing_sample :
    Runs.Throughout World.step SkipKnown samplePulledEdit sampleWorld := by
  refine skips_hide_nothing ⟨rfl, fun _ => rfl, by decide, by decide⟩ ?_
  refine ⟨trivial, ⟨by simp [World.step, sampleWorld], ?_⟩, trivial, trivial, trivial, trivial,
    trivial, ?_, trivial, trivial, trivial⟩
  · rintro pull snapshot remote (listed | applying)
    · cases listed
    · cases applying
  · intro version resolved time member
    cases member

/-- The read-back is taken after someone's edit, or the write lands after one that is not
pulled yet: either way the pull that would have brought the edit is skipped. -/
theorem readBack_hides_edit :
    ¬Runs.Throughout World.step SkipKnown sampleReadBack sampleWorld ∧
      ¬Runs.Throughout World.step SkipKnown
        [.tick 1, .edit, .tick 1, .write () true true false, .store (), .fetch () true, .check ()]
        sampleWorld := by
  constructor <;> decide

end EchoVersions

end MultiBrandInvoicing
