import Mathlib.Logic.Function.Basic
import MultiBrandInvoicing.Integrations.ZohoPresence
import MultiBrandInvoicing.Paging.GrowingLists
import MultiBrandInvoicing.Transitions.Runs

/-!
# A presence scan beside the pushes of a brand

A scan fetches the pages of Zoho's list one by one, reads the local rows when the last page
is in, and then writes those it found missing and those it found again.  Meanwhile pushes
create records in Zoho and store their ids, and people add, remove and deactivate records
there.  Invoices and customers go through the same steps with their own tests.
-/

set_option autoImplicit false

namespace MultiBrandInvoicing

namespace Presence

/-- What a reconciliation does with a row.  A record is live while the list shows it so;
`missing` and `back` select the rows the pass marks and restores. -/
structure Reconciliation (ρ : Type) where
  zohoId : ρ → Option Nat
  createdAt : ρ → Time
  link : Nat → ρ → ρ
  newStatus : String
  live : ZohoListItem → Bool
  missing : Time → List ZohoListItem → ρ → Bool
  back : Time → List ZohoListItem → ρ → Bool
  mark : Time → ρ → ρ
  restore : ρ → ρ
  marked : ρ → Bool
  zohoId_link : ∀ id row, zohoId (link id row) = some id
  zohoId_mark : ∀ now row, zohoId (mark now row) = zohoId row
  zohoId_restore : ∀ row, zohoId (restore row) = zohoId row
  marked_link : ∀ id row, marked (link id row) = marked row
  marked_restore : ∀ row, marked (restore row) = false
  live_new : ∀ id, live ⟨id, some newStatus⟩ = true
  missing_cases : ∀ now seen row, missing now seen row = true → ∃ id, zohoId row = some id ∧
    (∀ item ∈ seen, item.id = id → live item = false) ∧
      ((∃ item ∈ seen, item.id = id) ∨ createdAt row ≤ ZohoPullService.createdBefore now)

open ZohoPullService in
/-- A missing invoice is flagged and its payment link deactivated. -/
def invoices : Reconciliation InvoicePresence where
  zohoId := fun row => row.zohoInvoiceId
  createdAt := fun row => row.createdAt
  link := fun id row => { row with zohoInvoiceId := some id }
  newStatus := "draft"
  live := fun _ => true
  missing := nowMissing
  back := fun _ => reappeared
  mark := flagMissing
  restore := clearMissing
  marked := fun row => row.zohoMissingSince.isSome
  zohoId_link := fun _ _ => rfl
  zohoId_mark := fun _ _ => rfl
  zohoId_restore := fun _ => rfl
  marked_link := fun _ _ => rfl
  marked_restore := fun _ => rfl
  live_new := fun _ => rfl
  missing_cases := fun now seen row missing => by
    obtain ⟨id, linked, absent, old⟩ := nowMissing_cases missing
    exact ⟨id, linked, fun item member same => absurd same (absent item member), .inr old⟩

open ZohoPullService in
/-- A customer whose contact is missing or inactive is archived. -/
def customers : Reconciliation CustomerPresence where
  zohoId := fun row => row.zohoContactId
  createdAt := fun row => row.createdAt
  link := fun id row => { row with zohoContactId := some id }
  newStatus := "active"
  live := fun item => decide (mapContactStatus item.status = .active)
  missing := toArchive
  back := toActivate
  mark := fun _ => setStatus .archived
  restore := setStatus .active
  marked := fun row => decide (row.status = .archived)
  zohoId_link := fun _ _ => rfl
  zohoId_mark := fun _ _ => rfl
  zohoId_restore := fun _ => rfl
  marked_link := fun _ _ => rfl
  marked_restore := fun _ => rfl
  live_new := fun _ => rfl
  missing_cases := fun now seen row archived => by
    obtain ⟨id, linked, inactive, known⟩ := toArchive_cases archived
    exact ⟨id, linked, fun item member same => decide_eq_false (inactive item member same), known⟩

/-- A push has created a record in Zoho and not stored its id yet. -/
inductive Push (ι : Type) where
  | idle
  | created (row : ι) (id : Nat)
  deriving DecidableEq

/-- `before` are the ids Zoho had when the first page was fetched; the scan itself does not
use them. -/
inductive Scan (ι : Type) where
  | idle
  | listing (before : List Nat) (pages : Nat) (seen : List ZohoListItem)
  | listed (before : List Nat) (seen : List ZohoListItem)
  | decided (missing back : ι → Bool)
  | marked (back : ι → Bool)

/-- `left` are the ids that were not live in Zoho at some time since they were stored. -/
structure World (ι κ ρ : Type) where
  clock : Time
  nextId : Nat
  remote : List ZohoListItem
  left : List Nat
  rows : ι → ρ
  pushes : κ → Push ι
  scan : Scan ι

inductive Action (ι κ : Type) where
  | tick (elapsed : Nat)
  | create (push : κ) (row : ι) (position : Nat)
  | store (push : κ)
  | appear (status : Option String) (position : Nat)
  | remove (id : Nat)
  | setStatus (id : Nat) (status : Option String)
  | page
  | read (delay : Nat)
  | write
  | fail

def perPage : Nat := 200

variable {ι κ ρ : Type}

def World.fetch (world : World ι κ ρ) (before : List Nat) (pages : Nat)
    (seen : List ZohoListItem) : World ι κ ρ :=
  let items := seen ++ Paging.page perPage pages world.remote
  { world with
    scan := if Paging.hasMore perPage pages world.remote then .listing before (pages + 1) items
      else .listed before items }

def World.insert (world : World ι κ ρ) (live : ZohoListItem → Bool) (status : Option String)
    (position : Nat) : World ι κ ρ :=
  let item := ZohoListItem.mk world.nextId status
  { world with
    nextId := world.nextId + 1
    remote := Paging.insertAt item position world.remote
    left := if live item then world.left else world.nextId :: world.left }

def relabel (id : Nat) (status : Option String) (item : ZohoListItem) : ZohoListItem :=
  if item.id = id then { item with status } else item

/-- The id, once for every record in Zoho that has it. -/
def World.named (world : World ι κ ρ) (id : Nat) : List Nat :=
  (world.remote.map (·.id)).filter (· = id)

def World.step [DecidableEq ι] [DecidableEq κ] (check : Reconciliation ρ) (world : World ι κ ρ) :
    Action ι κ → World ι κ ρ
  | .tick elapsed => { world with clock := world.clock + elapsed }
  | .create push row position =>
      match world.pushes push with
      | .idle =>
          { world.insert check.live (some check.newStatus) position with
            pushes := Function.update world.pushes push (.created row world.nextId) }
      | _ => world
  | .store push =>
      match world.pushes push with
      | .created row id =>
          { world with
            rows := Function.update world.rows row (check.link id (world.rows row))
            pushes := Function.update world.pushes push .idle
            left :=
              if world.remote.any fun item => item.id = id && check.live item then
                world.left.filter (· ≠ id)
              else world.left }
      | _ => world
  | .appear status position => world.insert check.live status position
  | .remove id =>
      { world with
        remote := world.remote.filter fun item => item.id ≠ id
        left := world.named id ++ world.left }
  | .setStatus id status =>
      { world with
        remote := world.remote.map (relabel id status)
        left := if check.live ⟨id, status⟩ then world.left else world.named id ++ world.left }
  | .page =>
      match world.scan with
      | .idle => world.fetch (world.remote.map (·.id)) 0 []
      | .listing before pages seen => world.fetch before pages seen
      | _ => world
  | .read delay =>
      match world.scan with
      | .listed _ seen =>
          if seen.isEmpty then { world with scan := .idle }
          else
            let now := world.clock + delay
            { world with
              scan := .decided (fun row => check.missing now seen (world.rows row))
                fun row => check.back now seen (world.rows row) }
      | _ => world
  | .write =>
      match world.scan with
      | .decided missing back =>
          { world with
            rows := fun row =>
              if missing row then check.mark world.clock (world.rows row) else world.rows row
            scan := .marked back }
      | .marked back =>
          { world with
            rows := fun row =>
              if back row then check.restore (world.rows row) else world.rows row
            scan := .idle }
      | _ => world
  | .fail => { world with scan := .idle }

/-! ## When a live record is spared -/

def InFlight (world : World ι κ ρ) (id : Nat) : Prop :=
  ∃ push row, world.pushes push = .created row id

/-- At the read, a linked row's record was in Zoho before the first page was fetched, or the
row is younger than the grace.  Records leave Zoho neither between two pages of the scan
nor before their id is stored, and a stored id is not replaced. -/
def Careful (check : Reconciliation ρ) (world : World ι κ ρ) : Action ι κ → Prop
  | .store push => ∀ row id, world.pushes push = .created row id →
      check.zohoId (world.rows row) = none ∨ check.zohoId (world.rows row) = some id
  | .remove id => ¬InFlight world id ∧ ∀ before pages seen, world.scan ≠ .listing before pages seen
  | .setStatus id status => check.live ⟨id, status⟩ = true ∨ ¬InFlight world id
  | .read delay => ∀ before seen, world.scan = .listed before seen →
      ∀ row id, check.zohoId (world.rows row) = some id → id ∈ before ∨ id ∈ world.left ∨
        ZohoPullService.createdBefore (world.clock + delay) < check.createdAt (world.rows row)
  | _ => True

/-- A row the step marks names a record that has not been live in Zoho all the time since
its push was over. -/
def SparesLive [DecidableEq ι] [DecidableEq κ] (check : Reconciliation ρ) (world : World ι κ ρ)
    (action : Action ι κ) : Prop :=
  ∀ row, check.marked (world.rows row) = false →
    check.marked ((world.step check action).rows row) = true →
      ∃ id ∈ world.left, check.zohoId (world.rows row) = some id

/-! ## What a careful run keeps -/

def Listed (remote : List ZohoListItem) (id : Nat) : Prop := ∃ item ∈ remote, item.id = id

def Glimpsed (check : Reconciliation ρ) (world : World ι κ ρ) (items : List ZohoListItem) : Prop :=
  ∀ item ∈ items, item.id ∈ world.left ∨ check.live item = true

def Covers (check : Reconciliation ρ) (world : World ι κ ρ) : Scan ι → Prop
  | .idle => True
  | .listing before pages seen =>
      Glimpsed check world seen ∧ ∀ id ∈ before, id ∈ world.left ∨ Listed seen id ∨
        Listed (Paging.ahead perPage pages world.remote) id
  | .listed before seen =>
      Glimpsed check world seen ∧ ∀ id ∈ before, id ∈ world.left ∨ Listed seen id
  | .decided missing _ => ∀ row, missing row = true →
      ∃ id ∈ world.left, check.zohoId (world.rows row) = some id
  | .marked _ => True

structure Watched (check : Reconciliation ρ) (world : World ι κ ρ) : Prop where
  fresh : ∀ item ∈ world.remote, item.id < world.nextId
  past : ∀ id ∈ world.left, id < world.nextId
  lively : Glimpsed check world world.remote
  linked : ∀ row id, check.zohoId (world.rows row) = some id →
    id ∈ world.left ∨ Listed world.remote id
  flying : ∀ push row id, world.pushes push = .created row id →
    id ∉ world.left ∧ Listed world.remote id
  covers : Covers check world world.scan

variable {check : Reconciliation ρ} {world : World ι κ ρ}

theorem Listed.lt (watched : Watched check world) {id : Nat} (listed : Listed world.remote id) :
    id < world.nextId := by
  obtain ⟨item, member, rfl⟩ := listed
  exact watched.fresh item member

theorem Glimpsed.append {first second : List ZohoListItem} (left : Glimpsed check world first)
    (right : Glimpsed check world second) : Glimpsed check world (first ++ second) := by
  intro item member
  exact (List.mem_append.mp member).elim (left item) (right item)

theorem Watched.fetch (watched : Watched check world) {before : List Nat} {pages : Nat}
    {seen : List ZohoListItem} (glimpsed : Glimpsed check world seen)
    (covered : ∀ id ∈ before, id ∈ world.left ∨ Listed seen id ∨
      Listed (Paging.ahead perPage pages world.remote) id) :
    Watched check (world.fetch before pages seen) := by
  have shown : Glimpsed check world (seen ++ Paging.page perPage pages world.remote) :=
    glimpsed.append fun item member => watched.lively item (Paging.mem_of_mem_page member)
  have moved : ∀ id ∈ before, id ∈ world.left ∨
      Listed (seen ++ Paging.page perPage pages world.remote) id ∨
        Listed (Paging.ahead perPage (pages + 1) world.remote) id := by
    intro id member
    rcases covered id member with left | ⟨item, here, same⟩ | ⟨item, later, same⟩
    · exact .inl left
    · exact .inr (.inl ⟨item, List.mem_append_left _ here, same⟩)
    · rw [Paging.ahead_eq, List.mem_append] at later
      rcases later with now | later
      · exact .inr (.inl ⟨item, List.mem_append_right _ now, same⟩)
      · exact .inr (.inr ⟨item, later, same⟩)
  refine ⟨watched.fresh, watched.past, watched.lively, watched.linked, watched.flying, ?_⟩
  unfold World.fetch
  cases more : Paging.hasMore perPage pages world.remote with
  | true => exact ⟨shown, moved⟩
  | false =>
      refine ⟨shown, fun id member => ?_⟩
      rcases moved id member with left | here | ⟨item, later, _⟩
      · exact .inl left
      · exact .inr here
      · rw [Paging.ahead_last more] at later
        cases later

theorem Watched.selected (watched : Watched check world) {delay : Nat} {before : List Nat}
    {seen : List ZohoListItem} (scan : world.scan = .listed before seen)
    (careful : Careful check world (.read delay)) {row : ι}
    (missing : check.missing (world.clock + delay) seen (world.rows row) = true) :
    ∃ id ∈ world.left, check.zohoId (world.rows row) = some id := by
  obtain ⟨id, linked, dead, known⟩ := check.missing_cases _ _ _ missing
  have covers := watched.covers
  rw [scan] at covers
  obtain ⟨glimpsed, covered⟩ := covers
  have left_of_listed : Listed seen id → id ∈ world.left := by
    rintro ⟨item, member, same⟩
    rcases glimpsed item member with left | live
    · exact same ▸ left
    · rw [dead item member same] at live
      cases live
  refine ⟨id, ?_, linked⟩
  rcases careful before seen scan row id linked with earlier | left | young
  · exact (covered id earlier).elim (fun left => left) left_of_listed
  · exact left
  · rcases known with listed | old
    · exact left_of_listed listed
    · exact absurd old (not_le.mpr young)

theorem Covers.mono {later : World ι κ ρ} {scan : Scan ι} (covers : Covers check world scan)
    (grown : ∀ id ∈ world.left, id ∈ later.left)
    (ahead : ∀ before pages seen, scan = .listing before pages seen → ∀ id,
      Listed (Paging.ahead perPage pages world.remote) id → id ∈ later.left ∨
        Listed (Paging.ahead perPage pages later.remote) id)
    (kept : ∀ row id, check.zohoId (world.rows row) = some id →
      check.zohoId (later.rows row) = some id) : Covers check later scan := by
  have glimpsed : ∀ {items}, Glimpsed check world items → Glimpsed check later items :=
    fun shown item member => (shown item member).imp_left (grown item.id)
  cases scan with
  | idle => trivial
  | marked back => trivial
  | decided missing back =>
      intro row selected
      obtain ⟨id, left, linked⟩ := covers row selected
      exact ⟨id, grown id left, kept row id linked⟩
  | listed before seen =>
      exact ⟨glimpsed covers.1, fun id member => (covers.2 id member).imp_left (grown id)⟩
  | listing before pages seen =>
      refine ⟨glimpsed covers.1, fun id member => ?_⟩
      rcases covers.2 id member with left | here | later
      · exact .inl (grown id left)
      · exact .inr (.inl here)
      · exact (ahead before pages seen rfl id later).imp_right .inr

theorem Listed.insert {remote : List ZohoListItem} {item : ZohoListItem} {position id : Nat}
    (listed : Listed remote id) : Listed (Paging.insertAt item position remote) id := by
  obtain ⟨other, member, same⟩ := listed
  exact ⟨other, Paging.mem_insertAt.mpr (.inr member), same⟩

theorem Watched.insert (watched : Watched check world) (status : Option String) (position : Nat) :
    Watched check (world.insert check.live status position) := by
  have grown : ∀ id ∈ world.left, id ∈ (world.insert check.live status position).left := by
    intro id left
    simp only [World.insert]
    split
    · exact left
    · exact List.mem_cons_of_mem _ left
  have added : ∀ id ∈ (world.insert check.live status position).left,
      id ∈ world.left ∨ id = world.nextId := by
    intro id member
    simp only [World.insert] at member
    split at member
    · exact .inl member
    · exact (List.mem_cons.mp member).symm
  refine ⟨?_, ?_, ?_, ?_, ?_, ?_⟩
  · intro item member
    rcases Paging.mem_insertAt.mp member with rfl | member
    · exact Nat.lt_succ_self _
    · exact Nat.lt_succ_of_lt (watched.fresh item member)
  · intro id member
    rcases added id member with left | rfl
    · exact Nat.lt_succ_of_lt (watched.past id left)
    · exact Nat.lt_succ_self _
  · intro item member
    rcases Paging.mem_insertAt.mp member with rfl | member
    · cases live : check.live ⟨world.nextId, status⟩ with
      | true => exact .inr rfl
      | false => exact .inl (by simp [World.insert, live])
    · exact (watched.lively item member).imp_left (grown item.id)
  · intro row id linked
    exact (watched.linked row id linked).imp (grown id) Listed.insert
  · intro push row id created
    obtain ⟨stays, listed⟩ := watched.flying push row id created
    refine ⟨fun left => ?_, listed.insert⟩
    rcases added id left with left | rfl
    · exact stays left
    · exact absurd (listed.lt watched) (Nat.lt_irrefl _)
  · refine watched.covers.mono grown ?_ fun _ _ linked => linked
    rintro _ _ _ _ id ⟨item, member, same⟩
    exact .inr ⟨item, Paging.mem_ahead_insertAt member, same⟩

@[simp] theorem relabel_id (id : Nat) (status : Option String) (item : ZohoListItem) :
    (relabel id status item).id = item.id := by
  unfold relabel
  split <;> rfl

theorem Listed.relabel {remote : List ZohoListItem} {target id : Nat} {status : Option String}
    (listed : Listed remote id) : Listed (remote.map (relabel target status)) id := by
  obtain ⟨item, member, same⟩ := listed
  exact ⟨Presence.relabel target status item, List.mem_map_of_mem member, by simpa using same⟩

theorem mem_named {id other : Nat} :
    other ∈ world.named id ↔ other = id ∧ Listed world.remote other := by
  simp only [World.named, List.mem_filter, List.mem_map, decide_eq_true_eq, Listed]
  exact and_comm

theorem Watched.leaving (watched : Watched check world) {gone : Nat}
    (landed : ¬InFlight world gone) :
    (∀ id ∈ world.named gone ++ world.left, id < world.nextId) ∧
      ∀ push row id, world.pushes push = .created row id →
        id ∉ world.named gone ++ world.left := by
  constructor
  · intro id member
    rcases List.mem_append.mp member with named | left
    · exact (mem_named.mp named).2.lt watched
    · exact watched.past id left
  · intro push row id created member
    rcases List.mem_append.mp member with named | left
    · exact landed ⟨push, row, (mem_named.mp named).1 ▸ created⟩
    · exact (watched.flying push row id created).1 left

theorem Watched.rewrite (watched : Watched check world) {rows : ι → ρ} {scan : Scan ι}
    (links : ∀ row, check.zohoId (rows row) = check.zohoId (world.rows row))
    (covers : Covers check world scan) : Watched check { world with rows, scan } := by
  refine ⟨watched.fresh, watched.past, watched.lively, ?_, watched.flying, ?_⟩
  · intro row id linked
    exact watched.linked row id ((links row).symm.trans linked)
  · exact covers.mono (fun _ left => left) (fun _ _ _ _ _ ahead => .inr ahead)
      fun row id linked => (links row).trans linked

section Steps

variable [DecidableEq ι] [DecidableEq κ]

theorem Watched.create (watched : Watched check world) (push : κ) (row : ι) (position : Nat) :
    Watched check (world.step check (.create push row position)) := by
  simp only [World.step]
  split
  next =>
    have inserted := watched.insert (some check.newStatus) position
    refine ⟨inserted.fresh, inserted.past, inserted.lively, inserted.linked, ?_, inserted.covers⟩
    intro other target id created
    by_cases same : other = push
    · subst same
      simp only [Function.update_self] at created
      cases created
      refine ⟨fun left => ?_, ⟨_, Paging.mem_insertAt.mpr (.inl rfl), rfl⟩⟩
      simp only [World.insert, check.live_new, if_true] at left
      exact absurd (watched.past _ left) (Nat.lt_irrefl _)
    · simp only [Function.update_of_ne same] at created
      exact inserted.flying other target id created
  next => exact watched

theorem Watched.store (watched : Watched check world) {push : κ}
    (careful : Careful check world (.store push)) :
    Watched check (world.step check (.store push)) := by
  simp only [World.step]
  split
  next row id created =>
    obtain ⟨stays, listed⟩ := watched.flying push row id created
    have unchanged : world.left.filter (· ≠ id) = world.left :=
      List.filter_eq_self.mpr fun other left => by
        simpa using fun same : other = id => stays (same ▸ left)
    rw [unchanged, ite_self]
    refine ⟨watched.fresh, watched.past, watched.lively, ?_, ?_, ?_⟩
    · intro other found linked
      by_cases same : other = row
      · subst same
        simp only [Function.update_self, check.zohoId_link] at linked
        cases linked
        exact .inr listed
      · simp only [Function.update_of_ne same] at linked
        exact watched.linked other found linked
    · intro other target found flying
      by_cases same : other = push
      · subst same
        simp only [Function.update_self] at flying
        cases flying
      · simp only [Function.update_of_ne same] at flying
        exact watched.flying other target found flying
    · refine watched.covers.mono (fun _ left => left) (fun _ _ _ _ _ ahead => .inr ahead) ?_
      intro other found linked
      by_cases same : other = row
      · subst same
        rcases careful other id created with unlinked | again
        · rw [unlinked] at linked
          cases linked
        · rw [again] at linked
          cases linked
          simp only [Function.update_self, check.zohoId_link]
      · simpa only [Function.update_of_ne same] using linked
  next => exact watched

theorem Watched.remove (watched : Watched check world) {gone : Nat}
    (careful : Careful check world (.remove gone)) :
    Watched check (world.step check (.remove gone)) := by
  obtain ⟨landed, resting⟩ := careful
  obtain ⟨past, flying⟩ := watched.leaving landed
  have stays : ∀ id, Listed world.remote id → id ∈ world.named gone ∨
      Listed (world.remote.filter fun item => item.id ≠ gone) id := by
    intro id listed
    by_cases same : id = gone
    · exact .inl (mem_named.mpr ⟨same, listed⟩)
    · obtain ⟨item, member, rfl⟩ := listed
      exact .inr ⟨item, List.mem_filter.mpr ⟨member, by simpa using same⟩, rfl⟩
  refine ⟨?_, past, ?_, ?_, ?_, ?_⟩
  · exact fun item member => watched.fresh item (List.mem_of_mem_filter member)
  · intro item member
    exact (watched.lively item (List.mem_of_mem_filter member)).imp_left
      (List.mem_append_right _)
  · intro row id linked
    rcases watched.linked row id linked with left | listed
    · exact .inl (List.mem_append_right _ left)
    · exact (stays id listed).imp_left (List.mem_append_left _)
  · intro push row id created
    have listed := (watched.flying push row id created).2
    have absent := flying push row id created
    refine ⟨absent, (stays id listed).resolve_left fun named => ?_⟩
    exact absent (List.mem_append_left _ named)
  · refine watched.covers.mono (fun _ => List.mem_append_right _) ?_ fun _ _ linked => linked
    intro before pages seen listing
    exact absurd listing (resting before pages seen)

theorem Watched.setStatus (watched : Watched check world) {target : Nat} {status : Option String}
    (careful : Careful check world (.setStatus target status)) :
    Watched check (world.step check (.setStatus target status)) := by
  have ends : ∃ left, (world.step check (.setStatus target status)).left = left ∧
      (∀ id ∈ world.left, id ∈ left) ∧ (∀ id ∈ left, id < world.nextId) ∧
      (∀ push row id, world.pushes push = .created row id → id ∉ left) ∧
      (check.live ⟨target, status⟩ = true ∨ ∀ id ∈ world.named target, id ∈ left) := by
    refine ⟨_, rfl, ?_⟩
    simp only [World.step]
    cases live : check.live ⟨target, status⟩ with
    | true =>
        exact ⟨fun _ left => left, watched.past,
          fun push row id created => (watched.flying push row id created).1, .inl rfl⟩
    | false =>
        have landed : ¬InFlight world target := careful.resolve_left (by simp [live])
        obtain ⟨past, flying⟩ := watched.leaving landed
        exact ⟨fun _ => List.mem_append_right _, past, flying,
          .inr fun _ => List.mem_append_left _⟩
  obtain ⟨left, same, grown, past, flying, named⟩ := ends
  refine ⟨?_, same ▸ past, ?_, ?_, ?_, ?_⟩
  · intro item member
    obtain ⟨earlier, found, rfl⟩ := List.mem_map.mp member
    rw [relabel_id]
    exact watched.fresh earlier found
  · intro item member
    obtain ⟨earlier, found, rfl⟩ := List.mem_map.mp member
    rw [relabel_id, same]
    by_cases hit : earlier.id = target
    · rcases named with live | named
      · right
        rw [relabel, if_pos hit, hit]
        exact live
      · exact .inl (named _ (mem_named.mpr ⟨hit, earlier, found, rfl⟩))
    · rw [relabel, if_neg hit]
      exact (watched.lively earlier found).imp_left (grown _)
  · intro row id linked
    rw [same]
    exact (watched.linked row id linked).imp (grown id) Listed.relabel
  · intro push row id created
    exact ⟨same ▸ flying push row id created, (watched.flying push row id created).2.relabel⟩
  · refine watched.covers.mono (same ▸ grown) ?_ fun _ _ linked => linked
    intro before pages seen _ id ahead
    refine .inr ?_
    simp only [World.step, Paging.ahead, ← List.map_drop]
    exact ahead.relabel

theorem Watched.read (watched : Watched check world) {delay : Nat}
    (careful : Careful check world (.read delay)) :
    Watched check (world.step check (.read delay)) := by
  simp only [World.step]
  split
  next before seen scan =>
    split
    · exact ⟨watched.fresh, watched.past, watched.lively, watched.linked, watched.flying, trivial⟩
    · exact ⟨watched.fresh, watched.past, watched.lively, watched.linked, watched.flying,
        fun row missing => watched.selected scan careful missing⟩
  next => exact watched

theorem Watched.page (watched : Watched check world) : Watched check (world.step check .page) := by
  simp only [World.step]
  split
  next =>
    refine watched.fetch (by simp [Glimpsed]) fun id member => .inr (.inr ?_)
    obtain ⟨item, member, same⟩ := List.mem_map.mp member
    exact ⟨item, member, same⟩
  next before pages seen scan =>
    have covers := watched.covers
    rw [scan] at covers
    exact watched.fetch covers.1 covers.2
  next => exact watched

theorem Watched.write (watched : Watched check world) :
    Watched check (world.step check .write) := by
  simp only [World.step]
  split
  next missing back scan =>
    refine watched.rewrite (fun row => ?_) trivial
    split
    · exact check.zohoId_mark _ _
    · rfl
  next back scan =>
    refine watched.rewrite (fun row => ?_) trivial
    split
    · exact check.zohoId_restore _
    · rfl
  next => exact watched

theorem Watched.step (watched : Watched check world) {action : Action ι κ}
    (careful : Careful check world action) : Watched check (world.step check action) := by
  cases action with
  | tick elapsed =>
      exact ⟨watched.fresh, watched.past, watched.lively, watched.linked, watched.flying,
        watched.covers.mono (fun _ left => left) (fun _ _ _ _ _ ahead => .inr ahead)
          fun _ _ linked => linked⟩
  | create push row position => exact watched.create push row position
  | store push => exact watched.store careful
  | appear status position => exact watched.insert status position
  | remove gone => exact watched.remove careful
  | setStatus target status => exact watched.setStatus careful
  | page => exact watched.page
  | read delay => exact watched.read careful
  | write => exact watched.write
  | fail =>
      exact ⟨watched.fresh, watched.past, watched.lively, watched.linked, watched.flying, trivial⟩

/-- Only the first write after the read marks a row, and only one that was selected. -/
theorem selected_of_marked {action : Action ι κ} {row : ι}
    (unmarked : check.marked (world.rows row) = false)
    (marked : check.marked ((world.step check action).rows row) = true) :
    ∃ missing back, world.scan = .decided missing back ∧ missing row = true := by
  have unchanged : ∀ {rows : ι → ρ}, rows row = world.rows row →
      check.marked (rows row) ≠ true := by
    intro rows same now
    rw [same, unmarked] at now
    cases now
  cases action with
  | tick elapsed => exact absurd marked (unchanged rfl)
  | create push target position =>
      refine absurd marked (unchanged ?_)
      simp only [World.step]
      split <;> rfl
  | store push =>
      cases stage : world.pushes push with
      | idle => simp [World.step, stage, unmarked] at marked
      | created target id =>
          by_cases same : row = target
          · subst same
            simp [World.step, stage, check.marked_link, unmarked] at marked
          · simp [World.step, stage, same, unmarked] at marked
  | appear status position => exact absurd marked (unchanged rfl)
  | remove gone => exact absurd marked (unchanged rfl)
  | setStatus target status => exact absurd marked (unchanged rfl)
  | page =>
      refine absurd marked (unchanged ?_)
      simp only [World.step]
      split <;> rfl
  | read delay =>
      refine absurd marked (unchanged ?_)
      simp only [World.step]
      split
      · split <;> rfl
      · rfl
  | write =>
      cases scan : world.scan with
      | decided missing back =>
          cases selected : missing row with
          | true => exact ⟨missing, back, rfl, selected⟩
          | false => simp [World.step, scan, selected, unmarked] at marked
      | marked back =>
          cases found : back row with
          | true => simp [World.step, scan, found, check.marked_restore] at marked
          | false => simp [World.step, scan, found, unmarked] at marked
      | idle => simp [World.step, scan, unmarked] at marked
      | listing before pages seen => simp [World.step, scan, unmarked] at marked
      | listed before seen => simp [World.step, scan, unmarked] at marked
  | fail => exact absurd marked (unchanged rfl)

theorem Watched.sparesLive (watched : Watched check world) (action : Action ι κ) :
    SparesLive check world action := by
  intro row unmarked marked
  obtain ⟨missing, back, scan, selected⟩ := selected_of_marked unmarked marked
  have covers := watched.covers
  rw [scan] at covers
  exact covers row selected

end Steps

/-! ## Invoices and customers -/

inductive Kind where
  | invoice | customer
  deriving DecidableEq

def Row : Kind → Type
  | .invoice => InvoicePresence
  | .customer => CustomerPresence

def reconciliation : (kind : Kind) → Reconciliation (Row kind)
  | .invoice => invoices
  | .customer => customers

/-- Nothing is under way, and the record of a linked row is in Zoho unless it is known to
have left. -/
structure Consistent (check : Reconciliation ρ) (world : World ι κ ρ) : Prop where
  fresh : ∀ item ∈ world.remote, item.id < world.nextId
  past : ∀ id ∈ world.left, id < world.nextId
  lively : Glimpsed check world world.remote
  linked : ∀ row id, check.zohoId (world.rows row) = some id →
    id ∈ world.left ∨ Listed world.remote id
  pushes : ∀ push, world.pushes push = .idle
  scan : world.scan = .idle

theorem Consistent.watched (consistent : Consistent check world) : Watched check world := by
  refine ⟨consistent.fresh, consistent.past, consistent.lively, consistent.linked, ?_, ?_⟩
  · intro push row id created
    rw [consistent.pushes push] at created
    cases created
  · rw [consistent.scan]
    trivial

/-- In every careful interleaving of scans, pushes and changes made in Zoho, no pass marks
a row whose record has been live in Zoho since its push was over. -/
theorem live_records_spared [DecidableEq ι] [DecidableEq κ] (kind : Kind)
    {world : World ι κ (Row kind)} (consistent : Consistent (reconciliation kind) world)
    {actions : List (Action ι κ)}
    (careful : Runs.Throughout (World.step (reconciliation kind))
      (Careful (reconciliation kind)) actions world) :
    Runs.Throughout (World.step (reconciliation kind)) (SparesLive (reconciliation kind))
      actions world := by
  have watched : Runs.Always (World.step (reconciliation kind)) (Watched (reconciliation kind))
      actions world :=
    Runs.always_of_throughout (fun _ _ watched careful => watched.step careful)
      consistent.watched careful
  exact watched.throughout.mono fun _ action watched => watched.sparesLive action

def sampleWorld (kind : Kind) (row : Row kind) : World Unit Unit (Row kind) where
  clock := 900000
  nextId := 1
  remote := [⟨0, some "active"⟩]
  left := []
  rows := fun _ => row
  pushes := fun _ => .idle
  scan := .idle

def sampleInvoice : Row .invoice :=
  InvoicePresence.mk none none true 0

def sampleCustomer : Row .customer :=
  CustomerPresence.mk none .active 0

def pushedBefore : List (Action Unit Unit) := [.create () () 0, .store (), .page, .read 0, .write]

def pushedMeanwhile : List (Action Unit Unit) :=
  [.page, .create () () 0, .store (), .read 0, .write]

theorem consistent_sampleWorld (kind : Kind) (row : Row kind)
    (unlinked : (reconciliation kind).zohoId row = none)
    (live : (reconciliation kind).live ⟨0, some "active"⟩ = true) :
    Consistent (reconciliation kind) (sampleWorld kind row) := by
  refine ⟨by simp [sampleWorld], by simp [sampleWorld], ?_, ?_, fun _ => rfl, rfl⟩
  · intro item member
    cases List.mem_singleton.mp member
    exact .inr live
  · intro _ id linked
    rw [show (sampleWorld kind row).rows _ = row from rfl, unlinked] at linked
    cases linked

theorem live_records_spared_sample :
    Runs.Throughout (World.step (reconciliation .invoice)) (SparesLive (reconciliation .invoice))
        pushedBefore (sampleWorld .invoice sampleInvoice) ∧
      Runs.Throughout (World.step (reconciliation .customer))
        (SparesLive (reconciliation .customer)) pushedBefore
        (sampleWorld .customer sampleCustomer) := by
  constructor
  · refine live_records_spared .invoice (consistent_sampleWorld _ _ rfl rfl) ?_
    refine ⟨trivial, ?_, trivial, ?_, trivial, trivial⟩
    · exact fun _ _ _ => .inl rfl
    · intro before seen listed row id linked
      cases listed
      cases linked
      exact .inl (by decide)
  · refine live_records_spared .customer (consistent_sampleWorld _ _ rfl rfl) ?_
    refine ⟨trivial, ?_, trivial, ?_, trivial, trivial⟩
    · exact fun _ _ _ => .inl rfl
    · intro before seen listed row id linked
      cases listed
      cases linked
      exact .inl (by decide)

theorem pushedMeanwhile_condemned :
    ¬Runs.Throughout (World.step (reconciliation .invoice)) (SparesLive (reconciliation .invoice))
        pushedMeanwhile (sampleWorld .invoice sampleInvoice) ∧
      ¬Runs.Throughout (World.step (reconciliation .customer))
        (SparesLive (reconciliation .customer)) pushedMeanwhile
        (sampleWorld .customer sampleCustomer) := by
  constructor
  · rintro ⟨_, _, _, _, write, _⟩
    obtain ⟨id, left, _⟩ := write () rfl rfl
    cases left
  · rintro ⟨_, _, _, _, write, _⟩
    obtain ⟨id, left, _⟩ := write () rfl rfl
    cases left

end Presence

end MultiBrandInvoicing
