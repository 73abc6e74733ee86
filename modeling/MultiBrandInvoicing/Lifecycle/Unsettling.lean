import MultiBrandInvoicing.Integrations.ZohoSync
import MultiBrandInvoicing.Lifecycle.PullRaces

/-!
# A settlement Zoho has not heard of

A payment reaches Zoho by a push of its own, some time after it has settled the invoice
here.  Until then Zoho reports the invoice as open, and a pull that goes past the echo
check writes this over the settled row.
-/

set_option autoImplicit false

namespace MultiBrandInvoicing

open ReadCommitted Program PaymentsService ZohoPullService ZohoSyncService

/-- The sessions that meet on a linked invoice: the local operations, the pushes of its
payments and the pulls. -/
inductive SyncSession (π ν : Type) where
  | operate (operation : StatusOperation π ν)
  | push (paymentId : String) (answers : PushAnswers)
  | pull (item : ZohoInvoiceListItem ν) (answers : PullAnswers ν)

def SyncSession.program {π ν : Type} (env : Env) (numbers : ZohoNumbers ν) :
    SyncSession π ν → Tx Unit
  | operate operation => operation.program env
  | push paymentId answers => pushPayment paymentId answers
  | pull item answers => discard (pullOneInvoice numbers item answers)

def Cleared (store : Store) : Prop :=
  store.invoice.status = .paid ∧ store.invoice.balanceMinor = 0

def Owing (store : Store) : Prop :=
  store.invoice.status ∈ payableStatuses ∧ 0 < store.invoice.balanceMinor

instance : DecidablePred Cleared := fun store =>
  inferInstanceAs (Decidable (store.invoice.status = .paid ∧ store.invoice.balanceMinor = 0))

instance : DecidablePred Owing := fun store =>
  inferInstanceAs (Decidable
    (store.invoice.status ∈ payableStatuses ∧ 0 < store.invoice.balanceMinor))

def ReportsOwing {ν : Type} (numbers : ZohoNumbers ν) (item : ZohoInvoiceListItem ν)
    (currency : CurrencyCode) : Prop :=
  pulledStatus item ∈ payableStatuses ∧ 0 < decimalToMinor numbers item.balance currency

def OverwritesCleared {ι ν : Type} (numbers : ZohoNumbers ν) (item : ZohoInvoiceListItem ν)
    (currency : CurrencyCode) (session : ι)
    (config : Config ι Store RowKey Effect ServiceError Unit) : Prop :=
  ∃ label before after, Event.wrote session label before after ∈ config.history ∧
    Cleared before ∧ after.invoice = pulledHeader numbers item currency before.invoice

section Pulls

variable {ι π ν : Type} [DecidableEq ι] {env : Env} {numbers : ZohoNumbers ν}
  {sessions : ι → SyncSession π ν} {store : Store}

theorem pull_writes {session : ι} {item : ZohoInvoiceListItem ν} {answers : PullAnswers ν}
    (pulls : sessions session = .pull item answers) {schedule : List (Action ι)}
    {final : Config ι Store RowKey Effect ServiceError Unit}
    (run : (Config.start store fun session => (sessions session).program env numbers).run?
      schedule = some final) {label : Effect} {before after : Store}
    (wrote : Event.wrote session label before after ∈ final.history) :
    PullWrite numbers item before after := by
  refine Config.own_writes (P := fun _ _ change => ∀ store, PullWrite numbers item store
    (change store)) (Q := fun _ before after => PullWrite numbers item before after)
    (fun _ _ _ before here _ => here before) ?_ run wrote
  obtain ⟨rest, text, after⟩ := pullOneInvoice_text numbers item answers
  simp only [pulls, SyncSession.program]
  refine Writes.bind ?_ fun _ => trivial
  rw [text]
  exact fun existing => (after existing).writes

theorem silent_of_echo {item : ZohoInvoiceListItem ν} {answers : PullAnswers ν} {existing : Store}
    {program : Tx Bool} (text : PullText numbers item answers existing program)
    (echo : isOwnPushEcho numbers item.lastModifiedTime existing.invoice.zohoSyncedVersion = true) :
    (discard program).Writes fun _ _ _ => False := by
  cases text with
  | skipped _ => trivial
  | refused error => trivial
  | header customer currency writing _ =>
      rw [writing.newer] at echo
      cases echo
  | detailed customer currency detail writing _ _ =>
      rw [writing.newer] at echo
      cases echo

end Pulls

/-- Among local operations, payment pushes and pulls of one invoice in any interleaving, a
pull takes a settled invoice back to an open one exactly when it writes the header of a
snapshot that is owing over the settled row.  A pull that finds its snapshot no newer than
the stored version writes nothing. -/
theorem unsettled_iff {ι π ν : Type} [DecidableEq ι] (env : Env) (numbers : ZohoNumbers ν)
    {sessions : ι → SyncSession π ν} {store : Store} {schedule : List (Action ι)}
    {final : Config ι Store RowKey Effect ServiceError Unit}
    (run : (Config.start store fun session => (sessions session).program env numbers).run?
      schedule = some final) :
    ((∀ session item answers, sessions session = .pull item answers →
        ∀ label before after, Event.wrote session label before after ∈ final.history →
          Cleared before → ¬Owing after) ↔
      ∀ session item answers, sessions session = .pull item answers →
        ∀ currency, supportedCurrency? item.currencyCode = some currency →
          ReportsOwing numbers item currency →
            ¬OverwritesCleared numbers item currency session final) ∧
    ∀ earlier before later session item answers,
      sessions session = .pull item answers → schedule = earlier ++ .advance session :: later →
        (Config.start store fun session => (sessions session).program env numbers).run? earlier =
          some before →
        (∀ action ∈ earlier, action.session ≠ session) →
        isOwnPushEcho numbers item.lastModifiedTime before.committed.invoice.zohoSyncedVersion =
          true →
        ∀ label found left, Event.wrote session label found left ∉ final.history := by
  refine ⟨⟨?_, ?_⟩, ?_⟩
  · rintro kept session item answers pulls currency supported ⟨payable, owing⟩
      ⟨label, before, after, wrote, cleared, same⟩
    apply kept session item answers pulls label before after wrote cleared
    rw [Owing, same]
    exact ⟨payable, owing⟩
  · rintro untouched session item answers pulls label before after wrote cleared ⟨payable, owing⟩
    cases pull_writes pulls run wrote with
    | detail only =>
        rw [only] at payable
        have paid : before.invoice.status = .paid := cleared.1
        simp [paid, payableStatuses] at payable
    | header customer currency supported same =>
        rw [same] at payable owing
        exact untouched session item answers pulls currency supported ⟨payable, owing⟩
          ⟨label, before, after, wrote, cleared, by rw [same]⟩
  · intro earlier before later session item answers pulls split reached waiting echo
    rw [split, Config.run?_append, reached] at run
    obtain ⟨rest, text, after⟩ := pullOneInvoice_text numbers item answers
    have reads : (fun session => (sessions session).program env numbers) session =
        .select fun existing => discard (rest existing) := by
      simp only [pulls, SyncSession.program, text]
      rfl
    exact (Config.writeless_of_read reached waiting reads run
      (silent_of_echo (after before.committed) echo)).behind

/-- A payment by hand in full, the push of it, and a pull of an edit made in Zoho at
`modified`. -/
def sampleUnheard (modified : String) : Option Bool → SyncSession GatewayWebhookEvent Int
  | none => .operate (.recordManualPayment (.user "staff") "brand" "invoice" "p1" "p1"
      { amount := "100.00", method := .check, paidAt := 5, reference := none })
  | some true => .push "p1" {
      contact := .ok (some "c1")
      pushInvoice := fun _ => .ok { remoteId := "z1", updatedAt := some 9 }
      pushPayment := fun _ => .ok { remoteId := "zp1", updatedAt := none } }
  | some false => .pull (sampleItem "sent" modified) (sampleAnswers none)

def sampleUnheardStart (modified : String) :
    Config (Option Bool) Store RowKey Effect ServiceError Unit :=
  Config.start sampleLinked fun session =>
    (sampleUnheard modified session).program sampleEnv sampleDecimals

def sampleUnheardSteps : List (Action (Option Bool)) :=
  List.replicate 8 (.advance none) ++ List.replicate 7 (.advance (some false))

theorem unsettled_iff_sample :
    ∃ final, (sampleUnheardStart "1").run?
        (List.replicate 8 (.advance none) ++ .advance (some false) :: [.advance (some false)]) =
          some final ∧
      final.sessions (some false) = .returned (.ok ()) ∧ Cleared final.committed ∧
      ∀ label found left, Event.wrote (some false) label found left ∉ final.history := by
  have runs : ∃ before final,
      (sampleUnheardStart "1").run? (List.replicate 8 (.advance none)) = some before ∧
      (sampleUnheardStart "1").run?
        (List.replicate 8 (.advance none) ++ .advance (some false) :: [.advance (some false)]) =
          some final ∧
      isOwnPushEcho sampleDecimals (some "1") before.committed.invoice.zohoSyncedVersion = true ∧
      final.sessions (some false) = .returned (.ok ()) ∧ Cleared final.committed :=
    ⟨_, _, rfl, rfl, rfl, rfl, rfl, rfl⟩
  obtain ⟨before, final, reached, run, echo, ended, cleared⟩ := runs
  refine ⟨final, run, ended, cleared, ?_⟩
  exact (unsettled_iff sampleEnv sampleDecimals run).2 _ before _ (some false) _ _ rfl rfl reached
    (by decide) echo

def reopens : Event (Option Bool) Store Effect ServiceError Unit → Bool
  | .wrote (some false) _ before after => decide (Cleared before ∧ Owing after)
  | _ => false

theorem reopens_cases {event : Event (Option Bool) Store Effect ServiceError Unit}
    (reopened : reopens event = true) :
    ∃ label before after, event = .wrote (some false) label before after ∧ Cleared before ∧
      Owing after := by
  cases event with
  | wrote session label before after =>
      cases session with
      | none => cases reopened
      | some pulls =>
          cases pulls with
          | true => cases reopened
          | false =>
              obtain ⟨cleared, owing⟩ := of_decide_eq_true reopened
              exact ⟨label, before, after, rfl, cleared, owing⟩
  | _ => cases reopened

/-- A pull of an edit made in Zoho before the push of the payment: the invoice that was paid
in full asks for all of it again. -/
theorem pull_reopens_settled :
    ∃ final, (sampleUnheardStart "2").run? sampleUnheardSteps = some final ∧
      final.sessions (some false) = .returned (.ok ()) ∧
      (∃ label before after, Event.wrote (some false) label before after ∈ final.history ∧
        Cleared before ∧ Owing after) ∧
      (∃ row ∈ final.committed.payments.rows, row.id = "p1" ∧ row.status = .settled ∧
        row.amountMinor = 10000) ∧
      final.committed.invoice.status = .sent ∧ final.committed.invoice.balanceMinor = 10000 := by
  have runs : ∃ final, (sampleUnheardStart "2").run? sampleUnheardSteps = some final ∧
      final.sessions (some false) = .returned (.ok ()) ∧ final.history.any reopens = true ∧
      (∃ row ∈ final.committed.payments.rows, row.id = "p1" ∧ row.status = .settled ∧
        row.amountMinor = 10000) ∧
      final.committed.invoice.status = .sent ∧ final.committed.invoice.balanceMinor = 10000 :=
    ⟨_, rfl, rfl, rfl, by decide, rfl, rfl⟩
  obtain ⟨final, run, ended, found, settled, sent, owing⟩ := runs
  refine ⟨final, run, ended, ?_, settled, sent, owing⟩
  obtain ⟨event, member, reopened⟩ := List.any_eq_true.mp found
  obtain ⟨label, before, after, rfl, cleared, owing⟩ := reopens_cases reopened
  exact ⟨label, before, after, member, cleared, owing⟩

end MultiBrandInvoicing
