/-!
# What becomes of asynchronous calls

A call is fulfilled, is rejected or never settles.  Waiting for one call after another is
the bind of a monad; waiting for several at once depends on their timing, of which only
this is used: all fulfilled gives the values in order, and anything else comes from a call
that was rejected or never settled.
-/

set_option autoImplicit false

inductive Promise (ε α : Type) where
  | pending
  | rejected (error : ε)
  | fulfilled (value : α)
  deriving DecidableEq

namespace Promise

variable {ε α β : Type}

def bind (promise : Promise ε α) (next : α → Promise ε β) : Promise ε β :=
  match promise with
  | .pending => .pending
  | .rejected error => .rejected error
  | .fulfilled value => next value

instance : Monad (Promise ε) where
  pure := .fulfilled
  bind := bind

def recover (promise : Promise ε α) (handler : ε → Promise ε α) : Promise ε α :=
  match promise with
  | .rejected error => handler error
  | settled => settled

def guarded (promise : Promise ε α) : Promise ε Unit :=
  match promise with
  | .pending => .pending
  | _ => .fulfilled ()

def IsRejected (promise : Promise ε α) : Prop := ∃ error, promise = .rejected error

def IsFulfilled (promise : Promise ε α) : Prop := ∃ value, promise = .fulfilled value

@[simp] theorem pure_eq (value : α) : (pure value : Promise ε α) = .fulfilled value := rfl

@[simp] theorem fulfilled_bind (value : α) (next : α → Promise ε β) :
    (.fulfilled value >>= next : Promise ε β) = next value := rfl

@[simp] theorem rejected_bind (error : ε) (next : α → Promise ε β) :
    (.rejected error >>= next : Promise ε β) = .rejected error := rfl

@[simp] theorem pending_bind (next : α → Promise ε β) :
    (.pending >>= next : Promise ε β) = .pending := rfl

theorem bind_fulfilled {promise : Promise ε α} {next : α → Promise ε β} {result : β}
    (done : promise >>= next = .fulfilled result) :
    ∃ value, promise = .fulfilled value ∧ next value = .fulfilled result := by
  cases promise with
  | pending => cases done
  | rejected error => cases done
  | fulfilled value => exact ⟨value, rfl, done⟩

/-- What waiting for several calls at once may come to. -/
structure Gathers (promises : List (Promise ε α)) (gathered : Promise ε (List α)) : Prop where
  fulfilled : ∀ values, gathered = .fulfilled values → promises = values.map .fulfilled
  rejected : ∀ error, gathered = .rejected error → .rejected error ∈ promises
  pending : gathered = .pending → .pending ∈ promises

theorem Gathers.member {promises : List (Promise ε α)} {values : List α}
    (gathers : Gathers promises (.fulfilled values)) {promise : Promise ε α}
    (member : promise ∈ promises) : ∃ value ∈ values, promise = .fulfilled value := by
  rw [gathers.fulfilled values rfl] at member
  obtain ⟨value, here, same⟩ := List.mem_map.mp member
  exact ⟨value, here, same.symm⟩

/-- How the calls of a run are timed, as far as it decides what waiting for them comes to. -/
structure Timing (ε : Type) where
  gather : {α : Type} → List (Promise ε α) → Promise ε (List α)
  gathers : ∀ {α : Type} (promises : List (Promise ε α)), Gathers promises (gather promises)

def inOrder : List (Promise ε α) → Promise ε (List α)
  | [] => .fulfilled []
  | promise :: rest => do
      let value ← promise
      let values ← inOrder rest
      pure (value :: values)

theorem inOrder_gathers (promises : List (Promise ε α)) : Gathers promises (inOrder promises) := by
  induction promises with
  | nil => exact ⟨fun values done => by cases done; rfl, nofun, nofun⟩
  | cons promise rest ih =>
      cases promise with
      | pending => exact ⟨nofun, nofun, fun _ => List.mem_cons_self⟩
      | rejected error =>
          refine ⟨nofun, fun other failed => ?_, nofun⟩
          cases failed
          exact List.mem_cons_self
      | fulfilled value =>
          cases later : inOrder rest with
          | pending =>
              refine ⟨fun _ done => ?_, fun _ failed => ?_, fun _ => ?_⟩
              · simp [inOrder, later] at done
              · simp [inOrder, later] at failed
              · exact List.mem_cons_of_mem _ (ih.pending later)
          | rejected error =>
              refine ⟨fun _ done => ?_, fun other failed => ?_, fun missing => ?_⟩
              · simp [inOrder, later] at done
              · have same : error = other := by simpa [inOrder, later] using failed
                rw [same] at later
                exact List.mem_cons_of_mem _ (ih.rejected other later)
              · simp [inOrder, later] at missing
          | fulfilled values =>
              refine ⟨fun others done => ?_, fun _ failed => ?_, fun missing => ?_⟩
              · have same : value :: values = others := by simpa [inOrder, later] using done
                rw [← same, ih.fulfilled values later]
                rfl
              · simp [inOrder, later] at failed
              · simp [inOrder, later] at missing

def Timing.sequential (ε : Type) : Timing ε := ⟨inOrder, inOrder_gathers⟩

end Promise
