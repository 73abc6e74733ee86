import Mathlib.Data.List.Induction
import MultiBrandInvoicing.Promises.Outcome

/-!
# A map with a bound on what runs at once

`mapWithConcurrency` of `apps/api/src/common/concurrency.ts`: runners take the next index
until none is left, each waiting for its worker before it takes another.  One that meets a
rejection stops, and the whole is rejected with the first of these.  The runners settle in
any order.
-/

set_option autoImplicit false

namespace Promise

variable {ε α : Type}

inductive Runner where
  | waiting (index : Nat)
  | finished
  | stopped
  deriving DecidableEq

structure Pool (ε α : Type) where
  next : Nat
  results : Nat → Option α
  runners : List Runner
  rejection : Option ε

def Pool.takes (length next : Nat) : Runner := if next < length then .waiting next else .finished

def Pool.start (length limit : Nat) : Pool ε α where
  next := min limit length
  results := fun _ => none
  runners := (List.range (min limit length)).map .waiting
  rejection := none

/-- One runner's worker settles; one that never does changes nothing. -/
def Pool.settle (workers : List (Promise ε α)) (pool : Pool ε α) (runner : Nat) : Pool ε α :=
  match pool.runners[runner]? with
  | some (.waiting index) =>
      match workers[index]? with
      | some (.fulfilled value) =>
          { pool with
            next := if pool.next < workers.length then pool.next + 1 else pool.next
            results := fun other => if other = index then some value else pool.results other
            runners := pool.runners.set runner (Pool.takes workers.length pool.next) }
      | some (.rejected error) =>
          { pool with
            runners := pool.runners.set runner .stopped
            rejection := pool.rejection.orElse fun _ => some error }
      | _ => pool
  | _ => pool

def Pool.result (length : Nat) (pool : Pool ε α) : Promise ε (List α) :=
  match pool.rejection with
  | some error => .rejected error
  | none =>
      if pool.runners.all (· = .finished) then
        .fulfilled ((List.range length).filterMap pool.results)
      else .pending

def Pool.Idle (workers : List (Promise ε α)) (pool : Pool ε α) : Prop :=
  ∀ index, .waiting index ∈ pool.runners → workers[index]? = some .pending

/-- Where every index that was taken is: with a runner, done, or lost to a rejection. -/
structure Pool.Sound (workers : List (Promise ε α)) (pool : Pool ε α) : Prop where
  bound : pool.next ≤ workers.length
  taken : ∀ index, index < pool.next → pool.rejection = none → pool.results index = none →
    .waiting index ∈ pool.runners
  known : ∀ index value, pool.results index = some value →
    workers[index]? = some (.fulfilled value)
  manned : pool.runners = [] → workers = []
  finished : .finished ∈ pool.runners → pool.next = workers.length
  stopped : .stopped ∈ pool.runners → pool.rejection.isSome = true
  rejected : ∀ error, pool.rejection = some error → .rejected error ∈ workers

theorem Pool.start_sound (workers : List (Promise ε α)) {limit : Nat} (positive : 0 < limit) :
    (Pool.start workers.length limit : Pool ε α).Sound workers where
  bound := Nat.min_le_right _ _
  taken := by
    intro index below _ _
    exact List.mem_map.mpr ⟨index, List.mem_range.mpr below, rfl⟩
  known := nofun
  manned := by
    intro none
    have empty : min limit workers.length = 0 := by simpa [start] using none
    exact List.length_eq_zero_iff.mp (by omega)
  finished := by simp [start]
  stopped := by simp [start]
  rejected := nofun

theorem mem_set_of_ne {runners : List Runner} {position : Nat} {old new other : Runner}
    (here : runners[position]? = some old) (apart : other ≠ old) (member : other ∈ runners) :
    other ∈ runners.set position new := by
  obtain ⟨place, found⟩ := List.mem_iff_getElem?.mp member
  have elsewhere : position ≠ place := by
    rintro rfl
    rw [here] at found
    exact apart (Option.some.inj found).symm
  refine List.mem_iff_getElem?.mpr ⟨place, ?_⟩
  rw [List.getElem?_set_ne elsewhere]
  exact found

theorem mem_set_self {runners : List Runner} {position : Nat} {old new : Runner}
    (here : runners[position]? = some old) : new ∈ runners.set position new := by
  have inside : position < runners.length := (List.getElem?_eq_some_iff.mp here).1
  exact List.mem_iff_getElem?.mpr ⟨position, List.getElem?_set_self inside⟩

theorem map_results (workers : List (Promise ε α)) (results : Nat → Option α)
    (each : ∀ index < workers.length, ∃ value, results index = some value ∧
      workers[index]? = some (.fulfilled value)) :
    workers = ((List.range workers.length).filterMap results).map .fulfilled := by
  induction workers generalizing results with
  | nil => rfl
  | cons worker rest ih =>
      obtain ⟨value, first, same⟩ := each 0 (Nat.zero_lt_succ _)
      have later := ih (fun index => results (index + 1)) fun index below => by
        obtain ⟨value, result, found⟩ := each (index + 1) (Nat.succ_lt_succ below)
        exact ⟨value, result, by simpa using found⟩
      have head : worker = .fulfilled value := by simpa using same
      rw [List.length_cons, List.range_succ_eq_map, List.filterMap_cons, first, List.filterMap_map,
        List.map_cons, head]
      exact congrArg _ later

namespace Pool.Sound

variable {workers : List (Promise ε α)} {pool : Pool ε α} {runner index : Nat}

theorem fulfil (sound : pool.Sound workers) {value : α}
    (waiting : pool.runners[runner]? = some (.waiting index))
    (done : workers[index]? = some (.fulfilled value)) :
    (pool.settle workers runner).Sound workers := by
  have bound := sound.bound
  simp only [settle, waiting, done]
  refine ⟨?_, ?_, ?_, ?_, ?_, ?_, sound.rejected⟩
  · simp only
    split <;> omega
  · intro other below unrejected missing
    simp only at below unrejected missing ⊢
    have apart : other ≠ index := by
      rintro rfl
      simp at missing
    rw [if_neg apart] at missing
    by_cases earlier : other < pool.next
    · have held := sound.taken other earlier unrejected missing
      exact mem_set_of_ne waiting (fun same => apart (Runner.waiting.inj same)) held
    · have last : other = pool.next ∧ pool.next < workers.length := by
        split at below <;> omega
      have takes : takes workers.length pool.next = .waiting other := by
        rw [last.1]
        exact if_pos last.2
      rw [takes]
      exact mem_set_self waiting
  · intro other found result
    simp only at result
    split at result
    next same =>
      cases result
      rw [same]
      exact done
    next => exact sound.known other found result
  · intro none
    have empty : pool.runners = [] := by simpa using none
    rw [empty] at waiting
    cases waiting
  · intro member
    simp only at member ⊢
    rcases List.mem_or_eq_of_mem_set member with before | now
    · rw [sound.finished before, if_neg (Nat.lt_irrefl _)]
    · unfold takes at now
      split at now
      next => cases now
      next none =>
        rw [if_neg none]
        omega
  · intro member
    rcases List.mem_or_eq_of_mem_set member with before | now
    · exact sound.stopped before
    · unfold takes at now
      split at now <;> cases now

theorem reject (sound : pool.Sound workers) {error : ε}
    (waiting : pool.runners[runner]? = some (.waiting index))
    (failed : workers[index]? = some (.rejected error)) :
    (pool.settle workers runner).Sound workers := by
  simp only [settle, waiting, failed]
  refine ⟨sound.bound, ?_, sound.known, ?_, ?_, ?_, ?_⟩
  · intro other below unrejected missing
    simp only at unrejected
    cases before : pool.rejection with
    | none => simp [before] at unrejected
    | some first => simp [before] at unrejected
  · intro none
    have empty : pool.runners = [] := by simpa using none
    rw [empty] at waiting
    cases waiting
  · intro member
    rcases List.mem_or_eq_of_mem_set member with before | now
    · exact sound.finished before
    · cases now
  · intro _
    cases pool.rejection with
    | none => rfl
    | some first => rfl
  · intro other first
    simp only at first
    cases before : pool.rejection with
    | none =>
        have same : error = other := by simpa [before] using first
        rw [← same]
        exact List.mem_of_getElem? failed
    | some earlier =>
        have same : earlier = other := by simpa [before] using first
        rw [← same]
        exact sound.rejected earlier before

theorem settle (sound : pool.Sound workers) (runner : Nat) :
    (pool.settle workers runner).Sound workers := by
  cases waiting : pool.runners[runner]? with
  | none => simpa [Pool.settle, waiting] using sound
  | some state =>
      cases state with
      | finished => simpa [Pool.settle, waiting] using sound
      | stopped => simpa [Pool.settle, waiting] using sound
      | waiting index =>
          cases found : workers[index]? with
          | none => simpa [Pool.settle, waiting, found] using sound
          | some worker =>
              cases worker with
              | pending => simpa [Pool.settle, waiting, found] using sound
              | fulfilled value => exact sound.fulfil waiting found
              | rejected error => exact sound.reject waiting found

theorem settle_all (sound : pool.Sound workers) (order : List Nat) :
    (order.foldl (Pool.settle workers) pool).Sound workers := by
  induction order generalizing pool with
  | nil => exact sound
  | cons runner rest ih => exact ih (sound.settle runner)

theorem all_done (sound : pool.Sound workers) (unrejected : pool.rejection = none)
    (ended : pool.runners.all (· = .finished) = true) :
    workers = ((List.range workers.length).filterMap pool.results).map .fulfilled := by
  have finished : ∀ state ∈ pool.runners, state = .finished := by simpa using ended
  refine map_results workers pool.results fun index below => ?_
  have reached : pool.next = workers.length := by
    cases runners : pool.runners with
    | nil =>
        rw [sound.manned runners] at below
        cases below
    | cons state rest =>
        have first : state ∈ pool.runners := by simp [runners]
        exact sound.finished (finished state first ▸ first)
  cases result : pool.results index with
  | some value => exact ⟨value, rfl, sound.known index value result⟩
  | none =>
      have held := sound.taken index (reached ▸ below) unrejected result
      cases finished _ held

theorem gathers (sound : pool.Sound workers) (idle : pool.Idle workers) :
    Gathers workers (pool.result workers.length) := by
  unfold Pool.result
  cases rejection : pool.rejection with
  | some error =>
      refine ⟨nofun, fun other failed => ?_, nofun⟩
      cases failed
      exact sound.rejected error rejection
  | none =>
      simp only
      split
      next ended =>
        refine ⟨fun values done => ?_, nofun, nofun⟩
        cases done
        exact sound.all_done rejection ended
      next unended =>
        refine ⟨nofun, nofun, fun _ => ?_⟩
        obtain ⟨state, member, unfinished⟩ : ∃ state ∈ pool.runners, state ≠ .finished := by
          simpa using unended
        cases state with
        | finished => exact absurd rfl unfinished
        | stopped =>
            have stopped := sound.stopped member
            simp [rejection] at stopped
        | waiting index => exact List.mem_of_getElem? (idle index member)

end Pool.Sound

/-- Whatever the bound and the order in which the runners settle. -/
theorem mapWithConcurrency_gathers (workers : List (Promise ε α)) {limit : Nat}
    (positive : 0 < limit) (order : List Nat)
    (idle : (order.foldl (Pool.settle workers) (Pool.start workers.length limit)).Idle workers) :
    Gathers workers
      ((order.foldl (Pool.settle workers) (Pool.start workers.length limit)).result
        workers.length) :=
  ((Pool.start_sound workers positive).settle_all order).gathers idle

/-- A bounded map whose runners settle in a given order, until none can go on. -/
def Timing.pooled (limit : Nat) (positive : 0 < limit)
    (order : {α : Type} → List (Promise ε α) → List Nat)
    (idle : ∀ {α : Type} (workers : List (Promise ε α)),
      ((order workers).foldl (Pool.settle workers) (Pool.start workers.length limit)).Idle workers) :
    Timing ε where
  gather := fun workers =>
    ((order workers).foldl (Pool.settle workers) (Pool.start workers.length limit)).result
      workers.length
  gathers := fun workers =>
    mapWithConcurrency_gathers workers positive (order workers) (idle workers)

/-! ## How many workers are started -/

namespace Pool

def complete (workers : List (Promise ε α)) (pool : Pool ε α) (index : Nat) : Pool ε α :=
  match pool.runners.findIdx? (· = .waiting index) with
  | some runner => pool.settle workers runner
  | none => pool

def completing (workers : List (Promise ε α)) (limit : Nat) (order : List Nat) : Pool ε α :=
  order.foldl (complete workers) (start workers.length limit)

def fulfils (workers : List (Promise ε α)) (index : Nat) : Bool :=
  match workers[index]? with
  | some (.fulfilled _) => true
  | _ => false

def IsCompletionOrder (workers : List (Promise ε α)) (limit : Nat) (order : List Nat) : Prop :=
  ∀ before index rest, order = before ++ index :: rest →
    .waiting index ∈ (completing workers limit before).runners

/-- Once one of the workers named has settled, no other is started. -/
def StopsAfter (workers : List (Promise ε α)) (limit : Nat) (order : List Nat)
    (failing : Nat → Bool) : Prop :=
  ∀ before rest, order = before ++ rest → (∃ index ∈ before, failing index = true) →
    (completing workers limit order).next = (completing workers limit before).next

variable {workers : List (Promise ε α)} {pool : Pool ε α} {limit index : Nat} {order : List Nat}

theorem completing_append (before rest : List Nat) :
    completing workers limit (before ++ rest) =
      rest.foldl (complete workers) (completing workers limit before) := by
  rw [completing, List.foldl_append]
  rfl

/-- One completion starts one more worker if it is a fulfilment and there is one left. -/
theorem next_complete (waits : .waiting index ∈ pool.runners) :
    (pool.complete workers index).next =
      if fulfils workers index = true ∧ pool.next < workers.length then pool.next + 1
      else pool.next := by
  obtain ⟨runner, found⟩ : ∃ runner, pool.runners.findIdx? (· = .waiting index) = some runner := by
    rw [← Option.isSome_iff_exists, List.findIdx?_isSome]
    exact List.any_eq_true.mpr ⟨_, waits, by simp⟩
  have here : pool.runners[runner]? = some (.waiting index) := by
    obtain ⟨inside, same, _⟩ := List.findIdx?_eq_some_iff_getElem.mp found
    rw [List.getElem?_eq_getElem inside]
    simpa using same
  rcases promise : workers[index]? with _ | _ | error | value
  all_goals simp [complete, found, settle, here, fulfils, promise]

theorem IsCompletionOrder.before {before rest : List Nat}
    (valid : IsCompletionOrder workers limit (before ++ rest)) :
    IsCompletionOrder workers limit before := by
  intro earlier index later same
  refine valid earlier index (later ++ rest) ?_
  rw [same, List.append_assoc, List.cons_append]

/-- The first workers at once, and one more for each that is fulfilled. -/
theorem next_completing (valid : IsCompletionOrder workers limit order) :
    (completing workers limit order).next =
      min workers.length (limit + order.countP (fulfils workers)) := by
  induction order using List.reverseRecOn with
  | nil =>
      simp [completing, start, Nat.min_comm]
  | append_singleton before index ih =>
      have waits := valid before index [] (by simp)
      rw [completing_append, List.foldl_cons, List.foldl_nil, next_complete waits, ih valid.before,
        List.countP_append, List.countP_singleton]
      cases fulfils workers index with
      | true =>
          simp only [true_and, if_true]
          split <;> omega
      | false =>
          simp only [Bool.false_eq_true, false_and, if_false]
          omega

theorem stopsAfter_iff (valid : IsCompletionOrder workers limit order) {failing : Nat → Bool}
    (fails : ∀ index, failing index = true → fulfils workers index = false) :
    StopsAfter workers limit order failing ↔
      ∀ before index rest, order = before ++ index :: rest → failing index = true →
        workers.length ≤ limit + before.countP (fulfils workers) ∨
          ∀ later ∈ rest, fulfils workers later = false := by
  constructor
  · intro stops before index rest same failed
    have whole := next_completing valid
    have split : order = (before ++ [index]) ++ rest := by simp [same]
    have first := next_completing (IsCompletionOrder.before (split ▸ valid))
    rw [stops _ rest split ⟨index, by simp, failed⟩, first] at whole
    have counted : order.countP (fulfils workers) =
        (before ++ [index]).countP (fulfils workers) + rest.countP (fulfils workers) := by
      rw [split, List.countP_append]
    have quiet : (before ++ [index]).countP (fulfils workers) =
        before.countP (fulfils workers) := by
      simp [fails index failed]
    by_cases none_ : rest.countP (fulfils workers) = 0
    · refine .inr fun later member => ?_
      simpa using List.countP_eq_zero.mp none_ later member
    · left
      omega
  · intro conditions before rest same ⟨index, member, failed⟩
    obtain ⟨earlier, later, split⟩ := List.append_of_mem member
    have whole := next_completing valid
    have first := next_completing (IsCompletionOrder.before (same ▸ valid))
    rw [whole, first]
    have counted : order.countP (fulfils workers) =
        before.countP (fulfils workers) + rest.countP (fulfils workers) := by
      rw [same, List.countP_append]
    have inner : before.countP (fulfils workers) =
        earlier.countP (fulfils workers) + (index :: later).countP (fulfils workers) := by
      rw [split, List.countP_append]
    rcases conditions earlier index (later ++ rest) (by simp [same, split]) failed with
      out | quiet
    · omega
    · have none_ : rest.countP (fulfils workers) = 0 := by
        refine List.countP_eq_zero.mpr fun other there => ?_
        simp [quiet other (List.mem_append_right _ there)]
      omega

end Pool

end Promise
