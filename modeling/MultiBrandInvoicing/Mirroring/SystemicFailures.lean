import MultiBrandInvoicing.Mirroring.PullCursor

/-!
# Systemic failures in the contact phase

The pulls of a page's due contacts in `pullCustomers`, with the order in which they complete.
An error of Zoho's that will meet every other contact too is passed on by
`pullRecordTolerantly`, so that the phase stops; the runners of `mapWithConcurrency` that did
not meet it go on taking contacts all the same.
-/

set_option autoImplicit false

namespace MultiBrandInvoicing

def PullError.isSystemic : PullError → Bool
  | .integration .authentication _ => true
  | .integration .transient _ => true
  | _ => false

namespace PullBrand

open Promise ZohoPullService

def pullDetailConcurrency : Nat := 8

section Pulls

variable {ν : Type} (numbers : ZohoNumbers ν) (due : List CustomerAnswers)

/-- What `mapWithConcurrency` runs for the due contacts of a page. -/
def contactWorkers : List (Promise PullError Bool) :=
  due.map fun answers => pullRecordTolerantly (pullOneCustomer numbers answers)

/-- The pull of this contact fails for a reason that is not its own. -/
def failsSystemically (index : Nat) : Bool :=
  match (due[index]?).map (pullOneCustomer numbers) with
  | some (.rejected error) => error.isSystemic
  | _ => false

/-- The pull of this contact ends without being rejected: the contact was applied, was an echo
or was given up as unusable. -/
def endsTolerably (index : Nat) : Bool := Pool.fulfils (contactWorkers numbers due) index

theorem not_endsTolerably_of_failsSystemically {index : Nat}
    (fails : failsSystemically numbers due index = true) :
    endsTolerably numbers due index = false := by
  unfold failsSystemically at fails
  unfold endsTolerably Pool.fulfils contactWorkers
  rw [List.getElem?_map]
  cases found : due[index]? with
  | none => simp
  | some answers =>
      simp only [found, Option.map_some] at fails ⊢
      rcases pull : pullOneCustomer numbers answers with _ | error | applied
      · simp [pull] at fails
      · rw [pull] at fails
        have passed : pullRecordTolerantly (.rejected error) = .rejected error := by
          rcases error with ⟨errorClass, message⟩ | message
          · cases errorClass <;> first | rfl | cases fails
          · rfl
        rw [passed]
      · simp [pull] at fails

/-- Once a pull has failed systemically no other is started, exactly if then no contact of the
page is left, or no pull that completes later ends tolerably. -/
theorem contact_phase_stops_iff {order : List Nat}
    (valid : Pool.IsCompletionOrder (contactWorkers numbers due) pullDetailConcurrency order) :
    Pool.StopsAfter (contactWorkers numbers due) pullDetailConcurrency order
        (failsSystemically numbers due) ↔
      ∀ before index rest, order = before ++ index :: rest →
        failsSystemically numbers due index = true →
          due.length ≤ pullDetailConcurrency + before.countP (endsTolerably numbers due) ∨
            ∀ later ∈ rest, endsTolerably numbers due later = false := by
  have every := Pool.stopsAfter_iff valid fun index =>
    not_endsTolerably_of_failsSystemically numbers due
  rw [contactWorkers, List.length_map] at every
  exact every

end Pulls

def sampleDue (others : Nat) : List CustomerAnswers :=
  sampleContactPull (.integration .authentication "invalid token") ::
    List.replicate others (sampleContactPull (.integration .permanent "no such contact"))

theorem sampleDue_order (others : Nat)
    (first : .waiting 0 ∈ (Pool.completing (contactWorkers sampleDecimals (sampleDue others))
      pullDetailConcurrency []).runners)
    (second : .waiting 1 ∈ (Pool.completing (contactWorkers sampleDecimals (sampleDue others))
      pullDetailConcurrency [0]).runners) :
    Pool.IsCompletionOrder (contactWorkers sampleDecimals (sampleDue others))
      pullDetailConcurrency [0, 1] := by
  intro before index rest same
  rcases before with _ | ⟨head, _ | ⟨next, more⟩⟩
  · cases same
    exact first
  · cases same
    exact second
  · simp at same

theorem contact_phase_stops_iff_sample :
    Pool.StopsAfter (contactWorkers sampleDecimals (sampleDue 1)) pullDetailConcurrency [0, 1]
      (failsSystemically sampleDecimals (sampleDue 1)) :=
  (contact_phase_stops_iff sampleDecimals (sampleDue 1)
    (sampleDue_order 1 (by decide) (by decide))).mpr fun _ _ _ _ _ => .inl (by
      rw [show (sampleDue 1).length = 2 from rfl, pullDetailConcurrency]
      omega)

/-- The credential is rejected, and the ninth contact is pulled all the same. -/
theorem ninth_contact_pulled :
    Pool.IsCompletionOrder (contactWorkers sampleDecimals (sampleDue 8)) pullDetailConcurrency
        [0, 1] ∧
      ¬Pool.StopsAfter (contactWorkers sampleDecimals (sampleDue 8)) pullDetailConcurrency [0, 1]
        (failsSystemically sampleDecimals (sampleDue 8)) := by
  refine ⟨sampleDue_order 8 (by decide) (by decide), fun stops => ?_⟩
  have same := stops [0] [1] rfl ⟨0, by decide, by decide⟩
  revert same
  decide

end PullBrand

end MultiBrandInvoicing
