import Mathlib.Data.List.Nodup
import Mathlib.Data.List.Perm.Subperm
import MultiBrandInvoicing.Promises.Concurrency

/-!
# The calls of a bounded map

`mapWithConcurrency` of `apps/api/src/common/concurrency.ts` with the calls it makes of its worker,
none of which is rejected.  A runner that is resumed stores the value, goes back to the head of
its loop and calls the worker for the next item.  Between two resumptions nothing happens, so the
states after each of them are the moments there are.  Which promise is fulfilled next is open.
-/

set_option autoImplicit false

namespace Promise

variable {τ α : Type}

/-- The variables of the map, its calls so far, and the index each runner waits for. -/
structure BoundedMap (τ α : Type) where
  next : Nat
  results : Nat → Option α
  calls : List (τ × Nat)
  runners : List (Option Nat)

namespace BoundedMap

section Program

variable (items : List τ)

/-- The head of the loop in `runOne`: a call for the next item, or the end of the runner. -/
def turn (map : BoundedMap τ α) (runner : Nat) : BoundedMap τ α :=
  match items[map.next]? with
  | some item =>
      { map with
        next := map.next + 1
        calls := map.calls ++ [(item, map.next)]
        runners := map.runners.set runner (some map.next) }
  | none => { map with runners := map.runners.set runner none }

/-- As many runners as the limit and the items allow, each run up to its first call. -/
def start (limit : Nat) : BoundedMap τ α :=
  (List.range (min limit items.length)).foldl (turn items)
    ⟨0, fun _ => none, [], List.replicate (min limit items.length) none⟩

def store (map : BoundedMap τ α) (index : Nat) (value : α) : BoundedMap τ α :=
  { map with results := fun other => if other = index then some value else map.results other }

variable (worker : τ → Nat → α)

def resume (map : BoundedMap τ α) (runner : Nat) : BoundedMap τ α :=
  match map.runners[runner]? with
  | some (some index) =>
      match items[index]? with
      | some item => (map.store index (worker item index)).turn items runner
      | none => map
  | _ => map

/-- The promise of a call is fulfilled; only the runner that waits for it is concerned. -/
def fulfil (map : BoundedMap τ α) (index : Nat) : BoundedMap τ α :=
  match map.runners.findIdx? (· = some index) with
  | some runner => map.resume items worker runner
  | none => map

def after (limit : Nat) (order : List Nat) : BoundedMap τ α :=
  order.foldl (fulfil items worker) (start items limit)

/-- The array is returned once all runners are through. -/
def returned (map : BoundedMap τ α) : Option (List α) :=
  if map.runners.all (· = none) then some ((List.range items.length).filterMap map.results)
  else none

end Program

def inFlight (map : BoundedMap τ α) : List (τ × Nat) :=
  map.calls.filter fun call => (map.results call.2).isNone

def awaited (map : BoundedMap τ α) : List Nat :=
  (List.range map.next).filter fun index => (map.results index).isNone

/-- Each promise is fulfilled while its call is in flight. -/
def IsCompletionOrder (items : List τ) (worker : τ → Nat → α) (limit : Nat) (order : List Nat) :
    Prop :=
  ∀ before index rest, order = before ++ index :: rest →
    index ∈ (after items worker limit before).awaited

/-- No call that the map has made is left without its value. -/
structure Settles (items : List τ) (worker : τ → Nat → α) (limit : Nat) (order : List Nat) :
    Prop where
  inTurn : IsCompletionOrder items worker limit order
  each : ∀ call ∈ (after items worker limit order).calls, call.2 ∈ order

/-- Every call is for the item at its index, the runners wait for what is in flight, and none is
through while there is an item left. -/
structure Sound (items : List τ) (worker : τ → Nat → α) (limit : Nat) (map : BoundedMap τ α) :
    Prop where
  bound : map.next ≤ items.length
  calls : map.calls = items.zipIdx.take map.next
  manned : map.runners.length = min limit items.length
  busy : map.next < items.length → none ∉ map.runners
  waits : (map.runners.filterMap id).Perm map.awaited
  stored : ∀ index value, map.results index = some value →
    index < map.next ∧ items[index]?.map (worker · index) = some value

variable {items : List τ} {worker : τ → Nat → α} {limit : Nat} {map : BoundedMap τ α}

theorem start_eq (items : List τ) (limit : Nat) :
    (start items limit : BoundedMap τ α) =
      ⟨min limit items.length, fun _ => none, items.zipIdx.take (min limit items.length),
        (List.range (min limit items.length)).map some⟩ := by
  have reached : ∀ count ≤ min limit items.length,
      (List.range count).foldl (turn items)
          (⟨0, fun _ => none, [], List.replicate (min limit items.length) none⟩ :
            BoundedMap τ α) =
        ⟨count, fun _ => none, items.zipIdx.take count,
          (List.range count).map some ++
            List.replicate (min limit items.length - count) none⟩ := by
    intro count
    induction count with
    | zero => intro _; simp
    | succ count ih =>
        intro within
        have here : items[count]? = some items[count] := List.getElem?_eq_getElem (by omega)
        have left : min limit items.length - count =
            (min limit items.length - (count + 1)) + 1 := by omega
        rw [List.range_succ, List.foldl_append, ih (by omega), List.foldl_cons, List.foldl_nil,
          turn, here]
        simp only [mk.injEq, true_and]
        refine ⟨?_, ?_⟩
        · rw [List.take_add_one, List.getElem?_zipIdx, here]
          simp
        · rw [left, List.replicate_succ, List.set_append_right _ _ (by simp)]
          simp
  have all := reached _ (Nat.le_refl _)
  simpa [start] using all

theorem start_sound (items : List τ) (worker : τ → Nat → α) (limit : Nat) :
    (start items limit : BoundedMap τ α).Sound items worker limit := by
  rw [start_eq]
  refine ⟨Nat.min_le_right _ _, rfl, by simp, by simp, ?_, ?_⟩
  · have all : ((List.range (min limit items.length)).map some).filterMap id =
        List.range (min limit items.length) := by simp [List.filterMap_map]
    rw [all]
    simp [awaited]
  · intro index value found
    cases found

theorem filterMap_set {runners : List (Option Nat)} {runner index : Nat} {waited : List Nat}
    (here : runners[runner]? = some (some index)) (perm : (runners.filterMap id).Perm waited)
    (taken : Option Nat) :
    ((runners.set runner taken).filterMap id).Perm (waited.erase index ++ taken.toList) := by
  obtain ⟨inside, found⟩ := List.getElem?_eq_some_iff.mp here
  obtain ⟨before, later, split, _, replaced⟩ :
      ∃ before later, runners = before ++ runners[runner] :: later ∧ before.length = runner ∧
        runners.set runner taken = before ++ taken :: later := List.exists_of_set inside
  rw [found] at split
  have held : (index :: (before.filterMap id ++ later.filterMap id)).Perm waited := by
    refine List.Perm.trans ?_ perm
    rw [split, List.filterMap_append]
    exact List.perm_middle.symm
  have rest := (List.cons_perm_iff_perm_erase.mp held).2
  rw [replaced, List.filterMap_append]
  cases taken with
  | none => simpa using rest
  | some other =>
      rw [Option.toList_some]
      exact List.perm_middle.trans ((List.perm_append_singleton _ _).symm.trans
        (rest.append_right [other]))

theorem awaited_store (index : Nat) (value : α) :
    (map.store index value).awaited = map.awaited.erase index := by
  have distinct : map.awaited.Nodup := List.nodup_range.filter _
  rw [distinct.erase_eq_filter]
  unfold awaited store
  rw [List.filter_filter]
  refine List.filter_congr fun other _ => ?_
  by_cases same : other = index
  · simp [same]
  · simp [same, bne_iff_ne]

theorem turn_of_lt (map : BoundedMap τ α) {runner : Nat} (more : map.next < items.length) :
    map.turn items runner = { map with
      next := map.next + 1
      calls := map.calls ++ [(items[map.next], map.next)]
      runners := map.runners.set runner (some map.next) } := by
  simp only [turn, List.getElem?_eq_getElem more]

theorem turn_of_le (map : BoundedMap τ α) {runner : Nat} (ended : items.length ≤ map.next) :
    map.turn items runner = { map with runners := map.runners.set runner none } := by
  simp only [turn, List.getElem?_eq_none ended]

theorem Sound.fresh (sound : map.Sound items worker limit) : map.results map.next = none := by
  cases result : map.results map.next with
  | none => rfl
  | some value => exact absurd (sound.stored _ value result).1 (Nat.lt_irrefl _)

theorem Sound.stored_store (sound : map.Sound items worker limit) {index : Nat} {item : τ}
    (earlier : index < map.next) (found : items[index]? = some item) (other : Nat) (value : α)
    (result : (map.store index (worker item index)).results other = some value) :
    other < map.next ∧ items[other]?.map (worker · other) = some value := by
  simp only [store] at result
  split at result
  next same =>
    subst same
    rw [found]
    exact ⟨earlier, result⟩
  next => exact sound.stored other value result

theorem Sound.resume_waiting (sound : map.Sound items worker limit) {runner index : Nat}
    {item : τ} (here : map.runners[runner]? = some (some index))
    (found : items[index]? = some item) :
    ((map.store index (worker item index)).turn items runner).Sound items worker limit := by
  have waits := sound.waits
  have pending : index ∈ map.awaited := by
    refine waits.mem_iff.mp (List.mem_filterMap.mpr ⟨some index, ?_, rfl⟩)
    exact List.mem_of_getElem? here
  have earlier : index < map.next := by simpa using (List.mem_filter.mp pending).1
  by_cases more : map.next < items.length
  · rw [turn_of_lt (map.store index (worker item index)) more]
    refine ⟨more, ?_, ?_, ?_, ?_, ?_⟩
    · simp only [store, sound.calls]
      rw [List.take_add_one, List.getElem?_zipIdx, List.getElem?_eq_getElem more]
      simp
    · exact List.length_set.trans sound.manned
    · intro _ idle
      rcases List.mem_or_eq_of_mem_set idle with before | now
      · exact sound.busy more before
      · cases now
    · refine (filterMap_set here waits (some map.next)).trans ?_
      rw [← awaited_store index (worker item index)]
      simp [awaited, store, List.range_succ, List.filter_append, sound.fresh,
        Nat.ne_of_gt earlier]
    · intro other value result
      have known := sound.stored_store earlier found other value result
      exact ⟨Nat.lt_succ_of_lt known.1, known.2⟩
  · rw [turn_of_le (map.store index (worker item index)) (Nat.not_lt.mp more)]
    refine ⟨sound.bound, sound.calls, ?_, ?_, ?_, sound.stored_store earlier found⟩
    · exact List.length_set.trans sound.manned
    · exact fun later => absurd later more
    · have left := filterMap_set here waits none
      rw [Option.toList_none, List.append_nil, ← awaited_store index (worker item index)] at left
      exact left

theorem Sound.resume (sound : map.Sound items worker limit) (runner : Nat) :
    (map.resume items worker runner).Sound items worker limit := by
  unfold BoundedMap.resume
  split
  next index here =>
    split
    next item found => exact sound.resume_waiting here found
    next => exact sound
  next => exact sound

theorem Sound.fulfil (sound : map.Sound items worker limit) (index : Nat) :
    (map.fulfil items worker index).Sound items worker limit := by
  unfold BoundedMap.fulfil
  split
  next runner _ => exact sound.resume runner
  next => exact sound

theorem after_append (before rest : List Nat) :
    after items worker limit (before ++ rest) =
      rest.foldl (fulfil items worker) (after items worker limit before) := by
  rw [after, List.foldl_append]
  rfl

theorem after_sound (items : List τ) (worker : τ → Nat → α) (limit : Nat) (order : List Nat) :
    (after items worker limit order).Sound items worker limit := by
  induction order using List.reverseRecOn with
  | nil => exact start_sound items worker limit
  | append_singleton before index ih =>
      rw [after_append]
      exact ih.fulfil index

/-! ## What is in flight -/

theorem Sound.indices (sound : map.Sound items worker limit) :
    map.inFlight.map Prod.snd = map.awaited := by
  have all : (items.zipIdx.take map.next).map Prod.snd = List.range map.next := by
    rw [List.map_take, List.zipIdx_map_snd, ← List.range_eq_range', List.take_range,
      Nat.min_eq_left sound.bound]
  have passed : map.awaited = ((items.zipIdx.take map.next).map Prod.snd).filter
      fun index => (map.results index).isNone := by rw [all, awaited]
  rw [passed, List.filter_map, inFlight, sound.calls]
  rfl

theorem Sound.length_inFlight (sound : map.Sound items worker limit) :
    map.inFlight.length = (map.runners.filterMap id).length := by
  rw [sound.waits.length_eq, ← sound.indices, List.length_map]

theorem length_filterMap_of_busy {runners : List (Option Nat)} (busy : none ∉ runners) :
    (runners.filterMap id).length = runners.length := by
  induction runners with
  | nil => rfl
  | cons runner rest ih =>
      cases runner with
      | none => exact absurd List.mem_cons_self busy
      | some index =>
          have later := ih fun idle => busy (List.mem_cons_of_mem _ idle)
          simpa using later

/-- With nothing in flight the runners are through, and so are the items. -/
theorem Sound.idle (sound : map.Sound items worker limit) (none_ : map.inFlight = []) :
    ∀ runner ∈ map.runners, runner = none := by
  have waiting : map.runners.filterMap id = [] := by
    rw [← List.length_eq_zero_iff, ← sound.length_inFlight, none_, List.length_nil]
  intro runner member
  cases runner with
  | none => rfl
  | some index =>
      have held : index ∈ map.runners.filterMap id := List.mem_filterMap.mpr ⟨_, member, rfl⟩
      rw [waiting] at held
      cases held

theorem Sound.through (sound : map.Sound items worker limit) (positive : 0 < limit)
    (idle : ∀ runner ∈ map.runners, runner = none) : map.next = items.length := by
  refine Nat.le_antisymm sound.bound (Nat.not_lt.mp fun more => ?_)
  have manned := sound.manned
  cases runners : map.runners with
  | nil =>
      rw [runners, List.length_nil] at manned
      omega
  | cons runner rest =>
      have first : runner ∈ map.runners := by rw [runners]; exact List.mem_cons_self
      exact sound.busy more (idle runner first ▸ first)

theorem filterMap_range_map (items : List τ) (value : Nat → τ → α) :
    ((List.range items.length).filterMap fun index => items[index]?.map (value index)) =
      items.mapIdx value := by
  induction items generalizing value with
  | nil => rfl
  | cons item rest ih =>
      rw [List.length_cons, List.range_succ_eq_map, List.filterMap_cons, List.filterMap_map,
        List.mapIdx_cons, ← ih]
      rfl

theorem Sound.collected (sound : map.Sound items worker limit) (none_ : map.inFlight = [])
    (through : map.next = items.length) :
    (List.range items.length).filterMap map.results =
      items.mapIdx fun index item => worker item index := by
  have values : ∀ index < items.length,
      map.results index = items[index]?.map (worker · index) := by
    intro index below
    cases result : map.results index with
    | some value => exact (sound.stored index value result).2.symm
    | none =>
        have pending : index ∈ map.awaited :=
          List.mem_filter.mpr ⟨List.mem_range.mpr (through ▸ below), by simp [result]⟩
        rw [← sound.indices, none_] at pending
        cases pending
  have same : (List.range items.length).filterMap map.results =
      (List.range items.length).filterMap fun index => items[index]?.map (worker · index) :=
    List.filterMap_congr fun index member => values index (List.mem_range.mp member)
  rw [same, filterMap_range_map]

/-! ## Every order of completion ends -/

/-- Some runner waits for a call in flight, and it stores the value that comes. -/
theorem Sound.results_fulfil (sound : map.Sound items worker limit) {index : Nat}
    (pending : index ∈ map.awaited) (other : Nat) :
    ((map.fulfil items worker index).results other).isSome = true ↔
      (map.results other).isSome = true ∨ other = index := by
  have waits : some index ∈ map.runners := by
    obtain ⟨runner, member, same⟩ := List.mem_filterMap.mp (sound.waits.mem_iff.mpr pending)
    rw [id_eq] at same
    rwa [← same]
  obtain ⟨runner, found⟩ : ∃ runner, map.runners.findIdx? (· = some index) = some runner := by
    rw [← Option.isSome_iff_exists, List.findIdx?_isSome]
    exact List.any_eq_true.mpr ⟨_, waits, by simp⟩
  have here : map.runners[runner]? = some (some index) := by
    obtain ⟨inside, same, _⟩ := List.findIdx?_eq_some_iff_getElem.mp found
    rw [List.getElem?_eq_getElem inside]
    simpa using same
  have below : index < items.length := by
    have called := (List.mem_filter.mp pending).1
    exact Nat.lt_of_lt_of_le (List.mem_range.mp called) sound.bound
  have item : items[index]? = some items[index] := List.getElem?_eq_getElem below
  have kept : (map.fulfil items worker index).results =
      (map.store index (worker items[index] index)).results := by
    simp only [BoundedMap.fulfil, found, BoundedMap.resume, here, item, turn]
    split <;> rfl
  rw [kept, store]
  by_cases same : other = index
  · simp [same]
  · simp [same]

theorem IsCompletionOrder.before {before rest : List Nat}
    (valid : IsCompletionOrder items worker limit (before ++ rest)) :
    IsCompletionOrder items worker limit before := by
  intro earlier index later same
  refine valid earlier index (later ++ rest) ?_
  rw [same, List.append_assoc, List.cons_append]

theorem IsCompletionOrder.known {order : List Nat}
    (valid : IsCompletionOrder items worker limit order) :
    order.Nodup ∧ ∀ index,
      ((after items worker limit order).results index).isSome = true ↔ index ∈ order := by
  induction order using List.reverseRecOn with
  | nil =>
      refine ⟨List.nodup_nil, fun index => ?_⟩
      simp [after, start_eq]
  | append_singleton before index ih =>
      have pending := valid before index [] rfl
      obtain ⟨distinct, known⟩ := ih valid.before
      have fresh : index ∉ before := by
        intro member
        have missing := (List.mem_filter.mp pending).2
        rw [Option.isNone_iff_eq_none] at missing
        have come := (known index).mpr member
        rw [missing] at come
        cases come
      refine ⟨?_, fun other => ?_⟩
      · rw [List.nodup_append]
        refine ⟨distinct, List.nodup_singleton index, ?_⟩
        rintro other member _ last rfl
        rw [List.mem_singleton.mp last] at member
        exact fresh member
      · rw [after_append, List.foldl_cons, List.foldl_nil,
          (after_sound items worker limit before).results_fulfil pending, known,
          List.mem_append, List.mem_singleton]

theorem IsCompletionOrder.within {order : List Nat}
    (valid : IsCompletionOrder items worker limit order) :
    ∀ index ∈ order, index < items.length := by
  intro index member
  have come := (valid.known.2 index).mpr member
  obtain ⟨value, result⟩ := Option.isSome_iff_exists.mp come
  have sound := after_sound items worker limit order
  exact Nat.lt_of_lt_of_le (sound.stored index value result).1 sound.bound

theorem IsCompletionOrder.length_le {order : List Nat}
    (valid : IsCompletionOrder items worker limit order) : order.length ≤ items.length := by
  have inside : order ⊆ List.range items.length := by
    intro index member
    exact List.mem_range.mpr (valid.within index member)
  have counted := (valid.known.1.subperm inside).length_le
  rwa [List.length_range] at counted

theorem IsCompletionOrder.append_singleton {order : List Nat} {index : Nat}
    (valid : IsCompletionOrder items worker limit order)
    (pending : index ∈ (after items worker limit order).awaited) :
    IsCompletionOrder items worker limit (order ++ [index]) := by
  intro before other rest same
  rcases List.eq_nil_or_concat rest with rfl | ⟨later, last, rfl⟩
  · obtain ⟨rfl, here⟩ := List.append_singleton_inj.mp same
    rwa [← here]
  · refine valid before other later ?_
    have whole : order ++ [index] = (before ++ other :: later) ++ [last] := by
      rw [same]
      simp
    exact (List.append_singleton_inj.mp whole).1

/-- The measure is the number of promises that are still to be fulfilled. -/
theorem IsCompletionOrder.settles {order : List Nat}
    (valid : IsCompletionOrder items worker limit order) :
    ∃ rest, Settles items worker limit (order ++ rest) := by
  by_cases pending : ∃ index, index ∈ (after items worker limit order).awaited
  · obtain ⟨index, waits⟩ := pending
    have longer := valid.append_singleton waits
    have room : order.length + 1 ≤ items.length := by
      have counted := longer.length_le
      rwa [List.length_append, List.length_singleton] at counted
    obtain ⟨rest, settled⟩ := longer.settles
    refine ⟨index :: rest, ?_⟩
    rwa [List.append_assoc] at settled
  · refine ⟨[], ?_⟩
    rw [List.append_nil]
    refine ⟨valid, fun call made => ?_⟩
    have sound := after_sound items worker limit order
    have called : call.2 < (after items worker limit order).next := by
      rw [sound.calls] at made
      obtain ⟨place, below, same⟩ := List.mem_take_iff_getElem.mp made
      rw [← same, List.getElem_zipIdx]
      simp only [Nat.zero_add]
      omega
    refine (valid.known.2 call.2).mp ?_
    by_contra missing
    refine pending ⟨call.2, List.mem_filter.mpr ⟨List.mem_range.mpr called, ?_⟩⟩
    simpa using missing
termination_by items.length - order.length
decreasing_by
  rw [List.length_append, List.length_singleton]
  omega

theorem Settles.inFlight_eq_nil {order : List Nat} (settled : Settles items worker limit order) :
    (after items worker limit order).inFlight = [] := by
  refine List.filter_eq_nil_iff.mpr fun call made => ?_
  have come := (settled.inTurn.known.2 call.2).mpr (settled.each call made)
  rw [Option.isNone_iff_eq_none]
  intro missing
  rw [missing] at come
  cases come

structure Bounded (items : List τ) (limit : Nat) (map : BoundedMap τ α) : Prop where
  /-- Each index is called for in turn, once and with its item. -/
  calls : map.calls <+: items.zipIdx
  within : map.inFlight.length ≤ limit
  full : map.calls.length < items.length → map.inFlight.length = min limit items.length
  waited : (map.returned items).isSome = true → map.inFlight = []

structure Ended (items : List τ) (worker : τ → Nat → α) (order : List Nat)
    (map : BoundedMap τ α) : Prop where
  each : order.Perm (List.range items.length)
  calls : map.calls = items.zipIdx
  idle : map.inFlight = []
  returned : map.returned items = some (items.mapIdx fun index item => worker item index)

theorem Sound.bounded (sound : map.Sound items worker limit) : map.Bounded items limit := by
  have manned := sound.manned
  have lengths := sound.length_inFlight
  refine ⟨?_, ?_, ?_, ?_⟩
  · rw [sound.calls]
    exact List.take_prefix _ _
  · have most := List.length_filterMap_le id map.runners
    omega
  · intro more
    rw [sound.calls, List.length_take, List.length_zipIdx] at more
    have busy := length_filterMap_of_busy (sound.busy (by omega))
    omega
  · intro came
    have all : map.runners.all (· = none) = true := by
      by_contra unended
      rw [returned, if_neg unended] at came
      cases came
    have idle : ∀ runner ∈ map.runners, runner = none := by simpa using all
    have waiting : map.runners.filterMap id = [] := by
      refine List.filterMap_eq_nil_iff.mpr fun runner member => ?_
      exact idle runner member
    rw [waiting, List.length_nil] at lengths
    exact List.length_eq_zero_iff.mp lengths

theorem Settles.ended {order : List Nat} (settled : Settles items worker limit order)
    (positive : 0 < limit) : (after items worker limit order).Ended items worker order := by
  have sound := after_sound items worker limit order
  have none_ := settled.inFlight_eq_nil
  have idle := sound.idle none_
  have through := sound.through positive idle
  have calls : (after items worker limit order).calls = items.zipIdx := by
    rw [sound.calls, through, List.take_of_length_le (by simp)]
  refine ⟨?_, calls, none_, ?_⟩
  · obtain ⟨distinct, known⟩ := settled.inTurn.known
    refine (List.perm_ext_iff_of_nodup distinct List.nodup_range).mpr fun index => ?_
    rw [List.mem_range]
    refine ⟨settled.inTurn.within index, fun below => ?_⟩
    have made : (items[index], index) ∈ (after items worker limit order).calls := by
      rw [calls, List.mem_zipIdx_iff_getElem?]
      exact List.getElem?_eq_getElem below
    exact settled.each _ made
  · have all : (after items worker limit order).runners.all (· = none) = true := by
      simpa using idle
    rw [returned, if_pos all, sound.collected none_ through]

/-- Whatever the order in which the promises are fulfilled: it goes on until every call has its
value, and then the array is there. -/
theorem mapWithConcurrency_bounded (items : List τ) (worker : τ → Nat → α) {limit : Nat}
    (positive : 0 < limit) :
    (∀ order, IsCompletionOrder items worker limit order →
      (after items worker limit order).Bounded items limit ∧
        ∃ rest, Settles items worker limit (order ++ rest)) ∧
    ∀ order, Settles items worker limit order →
      (after items worker limit order).Ended items worker order :=
  ⟨fun order valid => ⟨(after_sound items worker limit order).bounded, valid.settles⟩,
    fun _ settled => settled.ended positive⟩

theorem sample_inTurn :
    IsCompletionOrder ["a", "b", "c"] (fun item index => item ++ toString index) 2 [1, 0, 2] := by
  intro before index rest same
  rcases before with _ | ⟨_, _ | ⟨_, _ | ⟨_, more⟩⟩⟩
  · cases same
    decide
  · cases same
    decide
  · cases same
    decide
  · simp at same

theorem mapWithConcurrency_bounded_sample :
    (after ["a", "b", "c"] (fun item index => item ++ toString index) 2 [1]).Bounded
        ["a", "b", "c"] 2 ∧
      (after ["a", "b", "c"] (fun item index => item ++ toString index) 2 [1, 0, 2]).returned
        ["a", "b", "c"] = some ["a0", "b1", "c2"] := by
  have bounded := mapWithConcurrency_bounded ["a", "b", "c"]
    (fun item index => item ++ toString index) (by decide : 0 < 2)
  have first : IsCompletionOrder _ _ 2 ([1] ++ [0, 2]) := sample_inTurn
  exact ⟨(bounded.1 [1] first.before).1,
    (bounded.2 [1, 0, 2] ⟨sample_inTurn, by decide⟩).returned⟩

/-! ## The same map without its calls -/

def runnerState : Option Nat → Runner
  | some index => .waiting index
  | none => .finished

def promised (ε : Type) (items : List τ) (worker : τ → Nat → α) : List (Promise ε α) :=
  items.mapIdx fun index item => .fulfilled (worker item index)

def toPool (ε : Type) (map : BoundedMap τ α) : Pool ε α where
  next := map.next
  results := map.results
  runners := map.runners.map runnerState
  rejection := none

theorem turn_toPool (ε : Type) (items : List τ) (map : BoundedMap τ α) (runner : Nat) :
    (map.turn items runner).toPool ε =
      { map.toPool ε with
        next := if map.next < items.length then map.next + 1 else map.next
        runners := (map.toPool ε).runners.set runner (Pool.takes items.length map.next) } := by
  by_cases more : map.next < items.length
  · have next : items[map.next]? = some items[map.next] := List.getElem?_eq_getElem more
    simp only [turn, next, toPool, List.map_set, runnerState, Pool.takes, if_pos more]
  · have ended : items[map.next]? = none := List.getElem?_eq_none (Nat.not_lt.mp more)
    simp only [turn, ended, toPool, List.map_set, runnerState, Pool.takes, if_neg more]

theorem resume_toPool (ε : Type) (items : List τ) (worker : τ → Nat → α) (map : BoundedMap τ α)
    (runner : Nat) :
    (map.resume items worker runner).toPool ε =
      (map.toPool ε).settle (promised ε items worker) runner := by
  have state : (map.toPool ε).runners[runner]? = (map.runners[runner]?).map runnerState :=
    List.getElem?_map
  have promise : ∀ index : Nat, (promised ε items worker)[index]? =
      (items[index]?).map fun item => .fulfilled (worker item index) := by
    intro index
    exact List.getElem?_mapIdx
  have length : (promised ε items worker).length = items.length := List.length_mapIdx
  unfold resume Pool.settle
  rw [state]
  cases map.runners[runner]? with
  | none => rfl
  | some waiting =>
      cases waiting with
      | none => rfl
      | some index =>
          simp only [Option.map_some, runnerState, promise, length]
          cases items[index]? with
          | none => rfl
          | some item => exact turn_toPool ε items (map.store index (worker item index)) runner

theorem fulfil_toPool (ε : Type) (items : List τ) (worker : τ → Nat → α) (map : BoundedMap τ α)
    (index : Nat) :
    (map.fulfil items worker index).toPool ε =
      (map.toPool ε).complete (promised ε items worker) index := by
  have place : (map.toPool ε).runners.findIdx? (· = .waiting index) =
      map.runners.findIdx? (· = some index) := by
    rw [toPool, List.findIdx?_map]
    congr 1
    funext runner
    cases runner with
    | none => rfl
    | some other => simp [runnerState]
  unfold fulfil Pool.complete
  rw [place]
  cases map.runners.findIdx? (· = some index) with
  | none => rfl
  | some runner => exact resume_toPool ε items worker map runner

theorem after_toPool (ε : Type) (items : List τ) (worker : τ → Nat → α) (limit : Nat)
    (order : List Nat) :
    (after items worker limit order).toPool ε =
      Pool.completing (promised ε items worker) limit order := by
  induction order using List.reverseRecOn with
  | nil =>
      rw [after, List.foldl_nil, start_eq, Pool.completing, List.foldl_nil]
      simp [toPool, Pool.start, runnerState, promised]
  | append_singleton before index ih =>
      rw [after_append, Pool.completing_append, List.foldl_cons, List.foldl_nil, fulfil_toPool,
        ih, List.foldl_cons, List.foldl_nil]

end BoundedMap

end Promise
