import Mathlib.Data.List.Basic

/-!
# Tagged messages

The holder of a key tags messages, and anyone presents messages with tags.  That tags cannot be
forged is said of a run: a message that is presented with its own tag has been tagged before.
-/

set_option autoImplicit false

namespace MessageTags

variable {κ μ τ σ : Type}

inductive Event (κ μ τ : Type) where
  | tagged (key : κ) (message : μ)
  | presented (key : κ) (message : μ) (tag : τ)

def Unforgeable (mac : κ → μ → τ) (run : List (Event κ μ τ)) : Prop :=
  ∀ (before after : List (Event κ μ τ)) (key : κ) (message : μ),
    run = before ++ .presented key message (mac key message) :: after →
      .tagged key message ∈ before

theorem Unforgeable.tagged {mac : κ → μ → τ} {event : σ → Event κ μ τ} {history : List σ}
    (unforgeable : Unforgeable mac (history.map event)) {past future : List σ} {step : σ}
    (split : history = past ++ step :: future) {key : κ} {message : μ}
    (presents : event step = .presented key message (mac key message)) :
    ∃ earlier ∈ past, event earlier = .tagged key message := by
  have order : history.map event =
      past.map event ++ .presented key message (mac key message) :: future.map event := by
    rw [split, List.map_append, List.map_cons, presents]
  exact List.mem_map.mp (unforgeable _ _ key message order)

theorem unforgeable_of_tagged {mac : κ → μ → τ} {event : σ → Event κ μ τ} {history : List σ}
    (tagged : ∀ (past future : List σ) (step : σ) (key : κ) (message : μ) (tag : τ),
      history = past ++ step :: future → event step = .presented key message tag →
        ∃ earlier ∈ past, event earlier = .tagged key message) :
    Unforgeable mac (history.map event) := by
  intro before after key message order
  obtain ⟨past, rest, split, first, second⟩ := List.map_eq_append_iff.mp order
  obtain ⟨step, future, rfl, presents, _⟩ := List.map_eq_cons_iff.mp second
  rw [← first]
  exact List.mem_map.mpr (tagged past future step key message _ split presents)

/-! ## Tags in several forms -/

variable {ι : Type}

inductive FormEvent (ι κ μ τ : Type) where
  | tagged (form : ι) (key : κ) (message : μ)
  | presented (form : ι) (key : κ) (message : μ) (tag : τ)

/-- A message is presented with its tag in some form only after a tag of it in a form that this one
can be computed from. -/
def UnforgeableIn (reveals : ι → ι → Prop) (mac : ι → κ → μ → τ)
    (run : List (FormEvent ι κ μ τ)) : Prop :=
  ∀ (before after : List (FormEvent ι κ μ τ)) (form : ι) (key : κ) (message : μ),
    run = before ++ .presented form key message (mac form key message) :: after →
      ∃ known, reveals known form ∧ .tagged known key message ∈ before

theorem UnforgeableIn.tagged {reveals : ι → ι → Prop} {mac : ι → κ → μ → τ}
    {event : σ → FormEvent ι κ μ τ} {history : List σ}
    (unforgeable : UnforgeableIn reveals mac (history.map event)) {past future : List σ} {step : σ}
    (split : history = past ++ step :: future) {form : ι} {key : κ} {message : μ}
    (presents : event step = .presented form key message (mac form key message)) :
    ∃ known, reveals known form ∧ ∃ earlier ∈ past, event earlier = .tagged known key message := by
  have order : history.map event =
      past.map event ++ .presented form key message (mac form key message) ::
        future.map event := by
    rw [split, List.map_append, List.map_cons, presents]
  obtain ⟨known, reveals_, member⟩ := unforgeable _ _ form key message order
  exact ⟨known, reveals_, List.mem_map.mp member⟩

theorem unforgeableIn_of_tagged {reveals : ι → ι → Prop} {mac : ι → κ → μ → τ}
    {event : σ → FormEvent ι κ μ τ} {history : List σ}
    (tagged : ∀ (past future : List σ) (step : σ) (form : ι) (key : κ) (message : μ) (tag : τ),
      history = past ++ step :: future → event step = .presented form key message tag →
        ∃ known, reveals known form ∧ ∃ earlier ∈ past,
          event earlier = .tagged known key message) :
    UnforgeableIn reveals mac (history.map event) := by
  intro before after form key message order
  obtain ⟨past, rest, split, first, second⟩ := List.map_eq_append_iff.mp order
  obtain ⟨step, future, rfl, presents, _⟩ := List.map_eq_cons_iff.mp second
  obtain ⟨known, reveals_, earlier, member, was⟩ :=
    tagged past future step form key message _ split presents
  rw [← first]
  exact ⟨known, reveals_, List.mem_map.mpr ⟨earlier, member, was⟩⟩

end MessageTags
