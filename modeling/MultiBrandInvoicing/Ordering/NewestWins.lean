import Mathlib.Order.Lattice

/-!
# Events guarded by their time

A register keeps the time of the last event it applied and ignores every event that is
not newer.  Whatever the order and the repetitions, the newest event is the last to be
applied; what it meets is the state after some of the others.
-/

set_option autoImplicit false

namespace NewestWins

structure Register (σ τ : Type) where
  last : τ
  state : σ

section Guard

variable {σ ε τ : Type} [LinearOrder τ] (time : ε → τ) (apply : σ → ε → σ)

def deliver (register : Register σ τ) (event : ε) : Register σ τ :=
  if time event ≤ register.last then register else ⟨time event, apply register.state event⟩

def deliverAll (events : List ε) (register : Register σ τ) : Register σ τ :=
  events.foldl (deliver time apply) register

variable {time apply}

theorem deliver_stale {register : Register σ τ} {event : ε} (stale : time event ≤ register.last) :
    deliver time apply register event = register := if_pos stale

theorem deliver_newer {register : Register σ τ} {event : ε} (newer : register.last < time event) :
    deliver time apply register event = ⟨time event, apply register.state event⟩ :=
  if_neg newer.not_ge

theorem deliverAll_append (first second : List ε) (register : Register σ τ) :
    deliverAll time apply (first ++ second) register =
      deliverAll time apply second (deliverAll time apply first register) :=
  List.foldl_append

theorem deliverAll_stale {events : List ε} {register : Register σ τ}
    (stale : ∀ event ∈ events, time event ≤ register.last) :
    deliverAll time apply events register = register := by
  induction events with
  | nil => rfl
  | cons event rest ih =>
      have first : deliver time apply register event = register :=
        deliver_stale (stale event (by simp))
      have others : ∀ other ∈ rest, time other ≤ register.last := fun other member =>
        stale other (by simp [member])
      simpa [deliverAll, first] using ih others

theorem last_lt {events : List ε} {register : Register σ τ} {bound : τ}
    (below : ∀ event ∈ events, time event < bound) (start : register.last < bound) :
    (deliverAll time apply events register).last < bound := by
  induction events generalizing register with
  | nil => exact start
  | cons event rest ih =>
      apply ih (fun other member => below other (by simp [member]))
      unfold deliver
      split
      · exact start
      · exact below event (by simp)

/-- What every event of the list keeps is kept by delivering them. -/
theorem deliverAll_keeps (Inv : σ → Prop) {events : List ε} {register : Register σ τ}
    (keeps : ∀ event ∈ events, ∀ state, Inv state → Inv (apply state event))
    (holds : Inv register.state) : Inv (deliverAll time apply events register).state := by
  induction events generalizing register with
  | nil => exact holds
  | cons event rest ih =>
      apply ih (fun other member => keeps other (by simp [member]))
      unfold deliver
      split
      · exact holds
      · exact keeps event (by simp) register.state holds

/-- The newest event is applied, once, after some of the others, and last. -/
theorem deliverAll_newest {events : List ε} {register : Register σ τ} {newest : ε}
    (member : newest ∈ events)
    (others : ∀ event ∈ events, event = newest ∨ time event < time newest)
    (fresh : register.last < time newest) :
    ∃ earlier, (∀ event ∈ earlier, event ∈ events) ∧
      deliverAll time apply events register =
        ⟨time newest, apply (deliverAll time apply earlier register).state newest⟩ := by
  obtain ⟨earlier, later, split_, absent⟩ := List.eq_append_cons_of_mem member
  refine ⟨earlier, fun event here => by simp [split_, here], ?_⟩
  have below : ∀ event ∈ earlier, time event < time newest := by
    intro event here
    apply (others event (by simp [split_, here])).resolve_left
    intro same
    exact absent (same ▸ here)
  have reached : (deliverAll time apply earlier register).last < time newest :=
    last_lt below fresh
  rw [split_, deliverAll_append]
  change deliverAll time apply later (deliver time apply _ newest) = _
  rw [deliver_newer reached]
  apply deliverAll_stale
  intro event here
  rcases others event (by simp [split_, here]) with same | older
  · exact le_of_eq (congrArg time same)
  · exact le_of_lt older

theorem deliverAll_overwrites {brings : ε → σ} {events : List ε} {register : Register σ τ}
    {newest : ε} (member : newest ∈ events) (others : ∀ event ∈ events, time event ≤ time newest)
    (distinct : ∀ event ∈ events, time event = time newest → event = newest)
    (fresh : register.last < time newest) :
    deliverAll time (fun _ => brings) events register = ⟨time newest, brings newest⟩ := by
  have ordered : ∀ event ∈ events, event = newest ∨ time event < time newest := by
    intro event here
    rcases eq_or_lt_of_le (others event here) with same | older
    · exact .inl (distinct event here same)
    · exact .inr older
  obtain ⟨_, _, ended⟩ := deliverAll_newest member ordered fresh
  exact ended

theorem last_le_deliver (register : Register σ τ) (event : ε) :
    register.last ≤ (deliver time apply register event).last := by
  unfold deliver
  split
  case isTrue => exact le_rfl
  case isFalse newer => exact le_of_lt (not_le.mp newer)

theorem time_le_deliver (register : Register σ τ) (event : ε) :
    time event ≤ (deliver time apply register event).last := by
  unfold deliver
  split
  case isTrue stale => exact stale
  case isFalse => exact le_rfl

theorem last_le (events : List ε) (register : Register σ τ) :
    register.last ≤ (deliverAll time apply events register).last := by
  induction events generalizing register with
  | nil => exact le_rfl
  | cons event rest ih => exact le_trans (last_le_deliver register event) (ih _)

theorem time_le_last {events : List ε} {register : Register σ τ} {event : ε}
    (member : event ∈ events) : time event ≤ (deliverAll time apply events register).last := by
  induction events generalizing register with
  | nil => cases member
  | cons first rest ih =>
      rcases List.mem_cons.mp member with rfl | later
      · exact le_trans (time_le_deliver register event) (last_le rest _)
      · exact ih later

end Guard

/-!
## Attempts that may fail

An attempt reads and writes a row.  Where those that return do to a view of the row what
delivering their event does, and those that fail leave the view alone, the view has in the
end been given exactly the events of the attempts that returned.
-/

section Attempts

variable {ρ α δ σ ε τ : Type} [LinearOrder τ] (pull : ρ → α → Except δ Bool × ρ)

def attemptAll (attempts : List α) (row : ρ) : ρ :=
  attempts.foldl (fun row attempt => (pull row attempt).2) row

/-- The attempts that return, each on the row it meets. -/
def returned : List α → ρ → List α
  | [], _ => []
  | attempt :: rest, row =>
      let later := returned rest (pull row attempt).2
      if (pull row attempt).1.isOk then attempt :: later else later

variable {pull}

theorem returned_subset {attempts : List α} {row : ρ} :
    ∀ attempt ∈ returned pull attempts row, attempt ∈ attempts := by
  induction attempts generalizing row with
  | nil => simp [returned]
  | cons first rest ih =>
      intro attempt member
      rw [returned] at member
      split at member
      · rcases List.mem_cons.mp member with rfl | later
        · exact List.mem_cons_self
        · exact List.mem_cons_of_mem _ (ih attempt later)
      · exact List.mem_cons_of_mem _ (ih attempt member)

theorem view_attemptAll {time : ε → τ} {apply : σ → ε → σ} {view : ρ → Register σ τ}
    {event : α → ε} {attempts : List α}
    (returns : ∀ row, ∀ attempt ∈ attempts, (pull row attempt).1.isOk = true →
      view (pull row attempt).2 = deliver time apply (view row) (event attempt))
    (fails : ∀ row, ∀ attempt ∈ attempts, (pull row attempt).1.isOk = false →
      view (pull row attempt).2 = view row) (row : ρ) :
    view (attemptAll pull attempts row) =
      deliverAll time apply ((returned pull attempts row).map event) (view row) := by
  induction attempts generalizing row with
  | nil => rfl
  | cons first rest ih =>
      have later := ih (fun row attempt member => returns row attempt (by simp [member]))
        (fun row attempt member => fails row attempt (by simp [member])) (pull row first).2
      rw [returned]
      cases outcome : (pull row first).1.isOk with
      | true =>
          rw [returns row first (by simp) outcome] at later
          exact later
      | false =>
          rw [fails row first (by simp) outcome] at later
          exact later

end Attempts

end NewestWins
