import MultiBrandInvoicing.Admin.Navigation
import MultiBrandInvoicing.Transitions.Halting

/-!
# Where visits of the admin app end

With the answers of the API as they are at one time, every visit comes to rest, except where the
API knows the user and cannot tell the onboarding.
-/

set_option autoImplicit false

namespace MultiBrandInvoicing.Navigation

open CompanyDetails Onboarding Halting

/-! ## Visits of one who is known -/

section Visits

variable {parse : String → Option Request} {world : World} {user : CurrentUser}
  {step : Option OnboardingStep} {request : Request}

theorem follow_at {next : Visit} (moves : follow parse world (.at request) = some next) :
    ∃ location, respond world request = some location ∧ location.visit parse = next :=
  Option.map_eq_some_iff.mp moves

theorem follow_of_shown (shown : respond world request = none) :
    follow parse world (.at request) = none := by
  rw [follow, shown]
  rfl

theorem follow_of_sent {location : Location} (sent : respond world request = some location) :
    follow parse world (.at request) = some (location.visit parse) := by
  rw [follow, sent]
  rfl

theorem rests_of_respond (shown : respond world request = none) :
    Rests (follow parse world) (.at request) :=
  ⟨_, restsAt_self (follow_of_shown shown)⟩

variable (known : world.getCurrentUser = some user)
  (fetched : fetchOnboardingStep world user = some step)

include known fetched

theorem restsAt_route (there : request.pathname = routeForStep step) :
    RestsAt (follow parse world) (.at request) (.at request) :=
  restsAt_self (follow_of_shown (respond_route known fetched there))

theorem rests_routeOf : Rests (follow parse world) ((routeOf step).visit parse) :=
  ⟨_, restsAt_route known fetched rfl⟩

theorem respond_front :
    respond world { pathname := "/" } = step.map fun owed => routeOf (some owed) := by
  have page : pageOf "/" = .app .other := by decide
  rw [respond_of_user known, page, render, authenticatedLayout_of_user known fetched]
  cases step <;> rfl

theorem rests_other (page : pageOf request.pathname = .app .other) :
    Rests (follow parse world) (.at request) := by
  apply rests_of_steps
  intro next moves
  obtain ⟨location, responds, rfl⟩ := follow_at moves
  rw [respond_of_user known, page, render, authenticatedLayout_of_user known fetched] at responds
  cases step with
  | none => cases responds
  | some owed =>
    rw [← Option.some.inj responds]
    exact rests_routeOf known fetched

theorem rests_appPage {page : AppPage} {location : Location}
    (responds : appPage user request page = some location) :
    Rests (follow parse world) (location.visit parse) := by
  have branded : ∀ path, pageOf path = .app .other →
      Rests (follow parse world) (.at (withBrand path request.brandId)) := by
    intro path page
    apply rests_other known fetched
    rwa [withBrand_pathname]
  cases page with
  | other => cases responds
  | legacyIntegrations =>
    rw [← Option.some.inj responds]
    have page : pageOf "/brand-settings" = .app .other := by decide
    exact rests_other known fetched page
  | users =>
    rw [appPage] at responds
    split at responds
    · cases responds
    · rw [← Option.some.inj responds]
      exact rests_other known fetched (by decide)
  | newInvoice | newCustomer =>
    rw [appPage] at responds
    split at responds
    · cases responds
    · rw [← Option.some.inj responds]
      exact branded _ (by decide)

theorem rests_createdPage {location : Location}
    (responds : createdPage world request = some location) :
    Rests (follow parse world) (location.visit parse) := by
  have is : location = .page { pathname := "/" } := by
    unfold createdPage at responds
    repeat' split at responds
    all_goals first | cases responds; done | exact (Option.some.inj responds).symm
  rw [is]
  exact rests_other known fetched (by decide)

theorem rests_startProviderConnect (provider : Provider) :
    Rests (follow parse world) ((startProviderConnect world request provider).visit parse) := by
  have page : pageOf "/brand-settings" = .app .other := by decide
  have settings : Rests (follow parse world)
      (.at (withBrand "/brand-settings" request.brandId)) := by
    apply rests_other known fetched
    rwa [withBrand_pathname]
  unfold startProviderConnect
  split
  · exact rests_other known fetched page
  · rw [if_neg (readSessionToken_of_user known)]
    split
    · exact settings
    · exact ⟨_, restsAt_self rfl⟩

/-- Every page but the one for signing in sends on to a page that is shown. -/
theorem rests_of_page (other : pageOf request.pathname ≠ .login) :
    Rests (follow parse world) (.at request) := by
  apply rests_of_steps
  intro next moves
  obtain ⟨location, responds, rfl⟩ := follow_at moves
  rw [respond_of_user known] at responds
  cases page : pageOf request.pathname with
  | login => exact absurd page other
  | plain | notFound =>
    rw [page] at responds
    cases responds
  | connect provider =>
    rw [page, render] at responds
    rw [← Option.some.inj responds]
    exact rests_startProviderConnect known fetched provider
  | setPassword =>
    rw [page, render, if_neg fun neither => readSessionToken_of_user known neither.2] at responds
    cases responds
  | outside =>
    rw [page, render, known] at responds
    rw [← Option.some.inj responds]
    exact rests_other known fetched (by decide)
  | created =>
    rw [page, render, requireOnboardingComplete_of_user known fetched] at responds
    split at responds
    · rw [← Option.some.inj responds]
      exact rests_routeOf known fetched
    · exact rests_createdPage known fetched responds
  | onboarding owed =>
    rw [page, render, requireOnboardingStep_of_user known fetched] at responds
    split at responds
    · rw [← Option.some.inj responds]
      exact rests_routeOf known fetched
    · cases responds
  | app kind =>
    rw [page, render, authenticatedLayout_of_user known fetched] at responds
    cases step with
    | some owed =>
      rw [← Option.some.inj responds]
      exact rests_routeOf known fetched
    | none => exact rests_appPage known fetched responds

end Visits

/-! ## Visits of one who is not known -/

section Unknown

variable {parse : String → Option Request} {world : World} {request : Request}

/-- What holds of the paths in the table with a page holds of every path that has it, if the page
is not one of the app or none. -/
theorem mem_pages {pathname : String} {page : Page} (is : pageOf pathname = page)
    (listed : page ≠ .app .other ∧ page ≠ .notFound) : (pathname, page) ∈ pages := by
  unfold pageOf at is
  cases found : pages.lookup pathname with
  | some entry =>
    rw [found] at is
    obtain ⟨before, after, split_, -⟩ := List.lookup_eq_some_iff.mp found
    rw [split_, ← show entry = page from is]
    simp
  | none =>
    rw [found] at is
    dsimp only at is
    split at is
    · exact absurd is.symm listed.1
    · exact absurd is.symm listed.2

theorem isPublic_of_login {pathname : String} (is : pageOf pathname = .login) :
    isPublic pathname = true := by
  have all : (pages.all fun entry => entry.2 ≠ .login || isPublic entry.1) = true := by decide
  have open_ := List.all_eq_true.mp all _ (mem_pages is (by decide))
  simpa using open_

theorem respond_login (page : pageOf request.pathname = .login) :
    respond world request = if world.getCurrentUser.isSome then
      some (.text (safeReturnPath request.next)) else none := by
  have passes : middleware world request = none := by
    have open_ : isPublic request.pathname = true := isPublic_of_login page
    rw [middleware, if_pos open_]
  rw [respond, passes, page]
  rfl

theorem middleware_login {location : Location} (sent : middleware world request = some location) :
    ∃ login : Request, login.pathname = loginPath ∧ location = .page login := by
  unfold middleware at sent
  split at sent
  · cases sent
  split at sent
  · cases sent
  split at sent
  · exact ⟨_, rfl, (Option.some.inj sent).symm⟩
  · exact ⟨_, rfl, (Option.some.inj sent).symm⟩

theorem requireSignedInUser_of_nobody (nobody : world.getCurrentUser = none)
    (destination : String) :
    ∃ login : Request, login.pathname = loginPath ∧
      requireSignedInUser world destination = .error (.page login) := by
  rw [requireSignedInUser, nobody]
  split
  · exact ⟨_, rfl, rfl⟩
  · exact ⟨_, rfl, rfl⟩

/-- Nobody is asked to be anywhere but at the page for signing in, and a route that connects a
provider leads there, to the settings or away. -/
theorem respond_of_nobody (nobody : world.getCurrentUser = none) :
    respond world request = none ∨
      (∃ login : Request, login.pathname = loginPath ∧
        respond world request = some (.page login)) ∨
      ∃ provider, respond world request =
        some (startProviderConnect world request provider) := by
  unfold respond
  cases sent : middleware world request with
  | some location =>
    obtain ⟨login, there, is⟩ := middleware_login sent
    exact .inr (.inl ⟨login, there, congrArg some is⟩)
  | none =>
    have guarded := requireSignedInUser_of_nobody nobody
    dsimp only
    cases pageOf request.pathname with
    | login | outside => rw [render, nobody]; exact .inl rfl
    | plain | notFound => exact .inl rfl
    | connect provider => exact .inr (.inr ⟨provider, rfl⟩)
    | setPassword =>
      rw [render]
      split
      · exact .inr (.inl ⟨_, rfl, rfl⟩)
      · exact .inl rfl
    | created =>
      obtain ⟨login, there, refused⟩ := guarded "/brands/created"
      refine .inr (.inl ⟨login, there, ?_⟩)
      rw [render, requireOnboardingComplete, refused]
      rfl
    | onboarding step =>
      obtain ⟨login, there, refused⟩ := guarded (routeForStep (some step))
      refine .inr (.inl ⟨login, there, ?_⟩)
      rw [render, requireOnboardingStep, refused]
      rfl
    | app page =>
      refine .inr (.inl ⟨{ pathname := loginPath }, rfl, ?_⟩)
      rw [render, authenticatedLayout, nobody]
      rfl

theorem rests_login_of_nobody (nobody : world.getCurrentUser = none) {login : Request}
    (there : login.pathname = loginPath) : Rests (follow parse world) (.at login) := by
  have page : pageOf login.pathname = .login := by rw [there]; decide
  apply rests_of_respond
  rw [respond_login page, nobody]
  rfl

theorem rests_settings_of_nobody (nobody : world.getCurrentUser = none) {settings : Request}
    (there : settings.pathname = "/brand-settings") :
    Rests (follow parse world) (.at settings) := by
  have page : pageOf settings.pathname = .app .other := by rw [there]; decide
  apply rests_of_steps
  intro next moves
  obtain ⟨location, sent, rfl⟩ := follow_at moves
  have led : ∃ login : Request, login.pathname = loginPath ∧ location = .page login := by
    unfold respond at sent
    split at sent
    · next redirected =>
      rw [Option.some.inj sent] at redirected
      exact middleware_login redirected
    · rw [page, render, authenticatedLayout, nobody] at sent
      exact ⟨_, rfl, (Option.some.inj sent).symm⟩
  obtain ⟨login, signIn, rfl⟩ := led
  exact rests_login_of_nobody nobody signIn

theorem rests_of_nobody (nobody : world.getCurrentUser = none) :
    Rests (follow parse world) (.at request) := by
  have answers : respond world request = none ∨ _ := respond_of_nobody nobody
  rcases answers with shown | ⟨login, there, sent⟩ | ⟨provider, sent⟩
  · exact rests_of_respond shown
  · exact (rests_of_step (follow_of_sent sent)).mpr (rests_login_of_nobody nobody there)
  · apply (rests_of_step (follow_of_sent sent)).mpr
    unfold startProviderConnect
    split
    · exact rests_settings_of_nobody nobody rfl
    · split
      · exact rests_login_of_nobody nobody rfl
      · split
        · exact rests_settings_of_nobody nobody (withBrand_pathname _ _)
        · exact ⟨_, restsAt_self rfl⟩

end Unknown

/-! ## Coming to rest -/

section Settling

variable {parse : String → Option Request} {world : World}

/-- The session is good, and the API cannot tell how far the onboarding of its merchant is. -/
def World.Stuck (world : World) : Prop :=
  ∃ user, world.getCurrentUser = some user ∧ user.mustResetPassword = false ∧
    world.getMerchantOnboarding = none

theorem safeReturnPath_cases (value : Option String) :
    safeReturnPath value = "/" ∨ ∃ text, value = some text ∧ text ≠ "" ∧
      safeReturnPath value = text := by
  unfold safeReturnPath given
  cases value with
  | none => exact .inl rfl
  | some text =>
    by_cases empty : text = ""
    · subst empty
      exact .inl rfl
    · simp only [Option.filter_some, ne_eq, empty, not_false_eq_true, decide_true, if_true]
      split
      · exact .inl rfl
      · exact .inr ⟨text, rfl, empty, rfl⟩

/-- A query holds its parameters, so what it sends on to is shorter. -/
def returnLength (request : Request) : Nat := (request.next.map String.length).getD 0

variable (root : parse "/" = some { pathname := "/" })
  (shorter : ∀ text request next, parse text = some request → request.next = some next →
    next.length < text.length)

/-- Each of two pages sends to the other, so that no visit of either comes to an end. -/
def SendToOneAnother (parse : String → Option Request) (world : World) (one other : Request) :
    Prop :=
  follow parse world (.at one) = some (.at other) ∧ follow parse world (.at other) = some (.at one)

theorem SendToOneAnother.not_rests {one other : Request}
    (each : SendToOneAnother parse world one other) : ¬Rests (follow parse world) (.at one) := by
  let Between (visit : Visit) : Prop := visit = .at one ∨ visit = .at other
  have starts : Between (.at one) := .inl rfl
  refine not_rests_of_kept ?_ starts
  intro visit kept
  rcases kept with rfl | rfl
  · exact ⟨_, each.1, .inr rfl⟩
  · exact ⟨_, each.2, .inl rfl⟩

include root

theorem loops_of_stuck (stuck : world.Stuck) :
    SendToOneAnother parse world { pathname := "/" } { pathname := loginPath } := by
  obtain ⟨user, known, changed, unknown⟩ := stuck
  have home : respond world { pathname := "/" } = some expired := by
    have page : pageOf "/" = .app .other := by decide
    rw [respond_of_user known, page, render, authenticatedLayout, known]
    simp only [fetchOnboardingStep_eq_none.mpr ⟨changed, unknown⟩]
    rfl
  have again : respond world { pathname := loginPath } = some (.text "/") := by
    rw [respond_login (by decide), known]
    rfl
  refine ⟨follow_of_sent home, ?_⟩
  rw [follow_of_sent again, Location.visit, root]

include shorter

theorem rests_of_known {user : CurrentUser} {step : Option OnboardingStep}
    (known : world.getCurrentUser = some user)
    (fetched : fetchOnboardingStep world user = some step) (request : Request) :
    Rests (follow parse world) (.at request) := by
  induction length : returnLength request using Nat.strong_induction_on generalizing request with
  | _ bound ih =>
    by_cases page : pageOf request.pathname = .login
    · apply rests_of_steps
      intro next moves
      obtain ⟨location, responds, rfl⟩ := follow_at moves
      rw [respond_login page, known] at responds
      rw [← Option.some.inj responds, Location.visit]
      rcases safeReturnPath_cases request.next with home | ⟨text, given_, written, same⟩
      · rw [home, root]
        exact rests_other known fetched (by decide)
      · rw [same]
        cases parsed : parse text with
        | none => exact ⟨_, restsAt_self rfl⟩
        | some onward =>
          -- The text is a part of the query that it was taken from.
          refine ih (returnLength onward) ?_ onward rfl
          rw [← length, returnLength, returnLength, given_]
          cases held : onward.next with
          | none =>
            apply Nat.pos_of_ne_zero
            intro empty
            exact written (String.length_eq_zero_iff.mp empty)
          | some inner => exact shorter text onward inner parsed held
    · exact rests_of_page known fetched page

end Settling

/-! ## Where visits end -/

/-- Every visit comes to rest, at a page that the visitor may see or at another origin, unless the
API knows the visitor and cannot tell the onboarding: then the front page and the page for signing
in send to one another for ever.  The front page leads to what is owed. -/
theorem navigation_settles (parse : String → Option Request)
    (root : parse "/" = some { pathname := "/" })
    (shorter : ∀ text request next, parse text = some request → request.next = some next →
      next.length < text.length) (world : World) :
    ((∀ request, Rests (follow parse world) (.at request)) ↔ ¬world.Stuck) ∧
      (SendToOneAnother parse world { pathname := "/" } { pathname := loginPath } ↔
        world.Stuck) ∧
      (∀ request last, RestsAt (follow parse world) (.at request) (.at last) →
        (world.cookie = none → isPublic last.pathname = true) ∧
          Admits world last (pageOf last.pathname)) ∧
      ∀ user step, world.getCurrentUser = some user → fetchOnboardingStep world user = some step →
        RestsAt (follow parse world) (.at { pathname := "/" })
          (.at { pathname := routeForStep step }) := by
  have settles : ¬world.Stuck → ∀ request, Rests (follow parse world) (.at request) := by
    intro free request
    cases known : world.getCurrentUser with
    | none => exact rests_of_nobody known
    | some user =>
      cases fetched : fetchOnboardingStep world user with
      | some step => exact rests_of_known root shorter known fetched request
      | none => exact absurd ⟨user, known, fetchOnboardingStep_eq_none.mp fetched⟩ free
  refine ⟨⟨?_, settles⟩, ⟨?_, loops_of_stuck root⟩, ?_, ?_⟩
  · intro all stuck
    exact (loops_of_stuck root stuck).not_rests (all _)
  · intro each
    by_contra free
    exact each.not_rests (settles free _)
  · intro request last rests
    exact admits_of_respond (Option.map_eq_none_iff.mp rests.2)
  · intro user step known fetched
    have sent := respond_front known fetched
    cases step with
    | none => exact restsAt_route known fetched rfl
    | some owed =>
      exact (restsAt_of_step (follow_of_sent sent)).mpr (restsAt_route known fetched rfl)

/-- What becomes of three texts; no other is met. -/
def sampleParse (text : String) : Option Request :=
  if text = "/" then some { pathname := "/" }
  else if text = "/invoices?brandId=b1" then
    some { pathname := "/invoices", search := "?brandId=b1", brandId := some "b1" }
  else if text = "/login?next=/invoices" then
    some { pathname := loginPath, search := "?next=/invoices", next := some "/invoices" }
  else none

def sampleWorld : World where
  cookie := some "s1"
  user := some ⟨.merchantOwner, [], false⟩
  merchant := some ⟨none, some .multi, true, true⟩
  brands := some ["b1"]
  connect := fun _ _ => some "https://connect.example/authorize"

theorem sampleParse_shorter {text next : String} {request : Request}
    (parsed : sampleParse text = some request) (held : request.next = some next) :
    next.length < text.length := by
  unfold sampleParse at parsed
  split at parsed
  · rw [← Option.some.inj parsed] at held
    cases held
  split at parsed
  · rw [← Option.some.inj parsed] at held
    cases held
  split at parsed
  · next is =>
    rw [← Option.some.inj parsed] at held
    rw [← Option.some.inj held, is]
    decide
  · cases parsed

theorem navigation_settles_sample :
    Rests (follow sampleParse sampleWorld)
        (.at { pathname := loginPath, next := some "/login?next=/invoices" }) ∧
      ¬SendToOneAnother sampleParse sampleWorld { pathname := "/" } { pathname := loginPath } ∧
      RestsAt (follow sampleParse sampleWorld) (.at { pathname := "/" })
        (.at { pathname := "/" }) := by
  have free : ¬sampleWorld.Stuck := by
    intro ⟨user, known, changed, unknown⟩
    exact absurd unknown (by decide)
  obtain ⟨settles, circles, -, front⟩ := navigation_settles sampleParse rfl
    (fun _ _ _ parsed held => sampleParse_shorter parsed held) sampleWorld
  exact ⟨settles.mpr free _, mt circles.mp free, front _ none rfl rfl⟩

/-! ## Signing in -/

section SignIn

variable {parse : String → Option Request} {world : World} {request : Request}
  {user : CurrentUser}

theorem page_of_closed (closed : isPublic request.pathname = false)
    (exists_ : pageOf request.pathname ≠ .notFound) :
    (∃ page, pageOf request.pathname = .app page) ∨
      (∃ owed, pageOf request.pathname = .onboarding owed ∧
        request.pathname = routeForStep (some owed)) ∨
      (∃ provider, pageOf request.pathname = .connect provider) ∨
      pageOf request.pathname = .created := by
  have all : (pages.all fun entry => match entry.2 with
      | .app _ => true
      | .created => true
      | .connect _ => true
      | .onboarding owed => entry.1 = routeForStep (some owed)
      | _ => isPublic entry.1) = true := by decide
  by_cases other : pageOf request.pathname = .app .other
  · exact .inl ⟨_, other⟩
  have listed := List.all_eq_true.mp all _ (mem_pages rfl ⟨other, exists_⟩)
  cases is : pageOf request.pathname with
  | app page => exact .inl ⟨page, rfl⟩
  | created => exact .inr (.inr (.inr rfl))
  | connect provider => exact .inr (.inr (.inl ⟨provider, rfl⟩))
  | onboarding owed =>
    rw [is] at listed
    exact .inr (.inl ⟨owed, rfl, of_decide_eq_true listed⟩)
  | login | setPassword | plain | notFound | outside =>
    rw [is] at listed
    exact absurd (closed.symm.trans listed) Bool.false_ne_true

theorem path_of_page {pathname : String} (below : pathname ≠ "/")
    (exists_ : pageOf pathname ≠ .notFound) :
    ∃ second rest, pathname.toList = '/' :: second :: rest ∧ second ≠ '/' := by
  have all : (pages.all fun entry => entry.1 = "/" || entry.1.toList.head? = some '/' &&
      entry.1.toList.tail.head?.any (· ≠ '/')) = true := by
    decide +kernel
  cases found : pages.lookup pathname with
  | some page =>
    obtain ⟨before, after, split_, -⟩ := List.lookup_eq_some_iff.mp found
    have fits := List.all_eq_true.mp all (pathname, page) (by simp [split_])
    rw [Bool.or_eq_true, decide_eq_true_eq, or_iff_right below, Bool.and_eq_true,
      decide_eq_true_eq] at fits
    obtain ⟨starts, other⟩ := fits
    obtain ⟨names, path⟩ := List.head?_eq_some_iff.mp starts
    rw [path, List.tail_cons] at other
    cases names with
    | nil => cases other
    | cons second rest => exact ⟨second, rest, path, of_decide_eq_true other⟩
  | none =>
    have customer : isCustomer pathname = true := by
      by_contra none_
      unfold pageOf at exists_
      rw [found] at exists_
      exact exists_ (if_neg none_)
    unfold isCustomer at customer
    simp only [Bool.and_eq_true] at customer
    obtain ⟨rest, path⟩ := List.isPrefixOf_iff_prefix.mp customer.1.1
    exact ⟨'c', _, path.symm, by decide⟩

theorem safeReturnPath_of_page (below : request.pathname ≠ "/")
    (exists_ : pageOf request.pathname ≠ .notFound) :
    safeReturnPath (some (request.pathname ++ request.search)) =
      request.pathname ++ request.search := by
  obtain ⟨second, rest, path, one⟩ := path_of_page below exists_
  have text : (request.pathname ++ request.search).toList =
      '/' :: second :: (rest ++ request.search.toList) := by
    rw [String.toList_append, path]
    rfl
  have written : request.pathname ++ request.search ≠ "" := by
    intro empty
    rw [empty] at text
    cases text
  unfold safeReturnPath given
  simp only [Option.filter_some, ne_eq, written, not_false_eq_true, decide_true, if_true, text]
  simp [List.isPrefixOf, one.symm]

theorem respond_root (known : world.getCurrentUser = some user)
    (there : request.pathname = "/") :
    respond world request = respond world { pathname := "/" } := by
  have page : pageOf "/" = .app .other := by decide
  rw [respond_of_user known, respond_of_user known, there, page]
  rfl

theorem owed_of_settings (known : world.getCurrentUser = some user) {owed : OnboardingStep}
    (fetched : fetchOnboardingStep world user = some (some owed))
    (there : request.pathname = "/brand-settings") {last : Request}
    (rests : RestsAt (follow parse world) (.at request) (.at last)) :
    last.pathname = routeForStep (some owed) := by
  have page : pageOf request.pathname = .app .other := by rw [there]; decide
  have sent : respond world request = some (routeOf (some owed)) := by
    rw [respond_of_user known, page, render, authenticatedLayout_of_user known fetched]
    rfl
  have onwards := (restsAt_of_step (follow_of_sent sent)).mp rests
  rw [Visit.at.inj (onwards.eq (restsAt_route known fetched rfl))]

/-- The routes that connect a provider ask for no onboarding, but the settings they return to do. -/
theorem owed_of_connect (known : world.getCurrentUser = some user) {owed : OnboardingStep}
    (fetched : fetchOnboardingStep world user = some (some owed)) {provider : Provider}
    {last : Request}
    (rests : RestsAt (follow parse world)
      ((startProviderConnect world request provider).visit parse) (.at last)) :
    last.pathname = routeForStep (some owed) := by
  unfold startProviderConnect at rests
  split at rests
  · exact owed_of_settings known fetched rfl rests
  · rw [if_neg (readSessionToken_of_user known)] at rests
    split at rests
    · exact owed_of_settings known fetched (withBrand_pathname _ _) rests
    · next location _ =>
      have away : RestsAt (follow parse world) (.elsewhere location) (.elsewhere location) :=
        restsAt_self rfl
      cases away.eq rests

theorem restsAt_owed (known : world.getCurrentUser = some user) {owed : OnboardingStep}
    (fetched : fetchOnboardingStep world user = some (some owed))
    (closed : isPublic request.pathname = false)
    (exists_ : pageOf request.pathname ≠ .notFound) {last : Request}
    (rests : RestsAt (follow parse world) (.at request) (.at last)) :
    last.pathname = routeForStep (some owed) := by
  have onward : respond world request = some (routeOf (some owed)) →
      last.pathname = routeForStep (some owed) := by
    intro sent
    have onwards := (restsAt_of_step (follow_of_sent sent)).mp rests
    rw [Visit.at.inj (onwards.eq (restsAt_route known fetched rfl))]
  rcases page_of_closed closed exists_ with
    ⟨page, is⟩ | ⟨asked, is, path⟩ | ⟨provider, is⟩ | is
  · apply onward
    rw [respond_of_user known, is, render, authenticatedLayout_of_user known fetched]
    rfl
  · by_cases same : asked = owed
    · subst same
      rw [Visit.at.inj (rests.eq (restsAt_route known fetched path)), path]
    · apply onward
      rw [respond_of_user known, is, render, requireOnboardingStep_of_user known fetched,
        if_pos fun equal => same (Option.some.inj equal).symm]
      rfl
  · have sent : respond world request = some (startProviderConnect world request provider) := by
      rw [respond_of_user known, is, render]
    exact owed_of_connect known fetched ((restsAt_of_step (follow_of_sent sent)).mp rests)
  · apply onward
    rw [respond_of_user known, is, render, requireOnboardingComplete_of_user known fetched,
      if_pos (Option.some_ne_none owed)]
    rfl

theorem respond_of_stranger (closed : isPublic request.pathname = false)
    (stranger : world.cookie = none) :
    respond world request = if request.pathname = "/" then some (.page { pathname := loginPath })
      else some (toLogin (request.pathname ++ request.search)) := by
  unfold respond middleware
  rw [closed, stranger]
  by_cases front : request.pathname = "/"
  · simp [front]
  · simp [front]

theorem restsAt_login (stranger : world.cookie = none) {login : Request}
    (there : login.pathname = loginPath) (sent : respond world request = some (.page login)) :
    RestsAt (follow parse world) (.at request) (.at login) := by
  have nobody : world.getCurrentUser = none := by
    rw [World.getCurrentUser, World.readSessionToken, stranger]
    rfl
  have page : pageOf login.pathname = .login := by rw [there]; decide
  refine (restsAt_of_step (follow_of_sent sent)).mpr (restsAt_self (follow_of_shown ?_))
  rw [respond_login page, nobody]
  rfl

theorem restsAt_loginAction (known : world.getCurrentUser = some user) {owed : OnboardingStep}
    (fetched : fetchOnboardingStep world user = some (some owed)) (next : Option String) :
    ∃ landed : Request, landed.pathname = routeForStep (some owed) ∧
      RestsAt (follow parse world) ((loginAction world user next).visit parse) (.at landed) := by
  unfold loginAction
  rw [fetched]
  cases owed with
  | setPassword | companyDetails | brandStructure | multiBrandSetup | awaitingSetup =>
    exact ⟨_, rfl, restsAt_route known fetched rfl⟩

theorem loginAction_of_free (next : Option String)
    (free : ¬∃ owed, fetchOnboardingStep world user = some (some owed)) :
    loginAction world user next = .text (safeReturnPath next) := by
  unfold loginAction
  cases fetched : fetchOnboardingStep world user with
  | none => rfl
  | some step =>
    cases step with
    | none => rfl
    | some owed => exact absurd ⟨owed, fetched⟩ free

/-- The front page answers without looking at the query. -/
theorem restsAt_front (known : world.getCurrentUser = some user)
    (front : request.pathname = "/") {last : Request}
    (rests : RestsAt (follow parse world) (.at request) (.at last)) :
    ∃ landed : Request, landed.pathname = last.pathname ∧
      RestsAt (follow parse world) (.at { pathname := "/" }) (.at landed) := by
  have same := respond_root known front
  cases responds : respond world request with
  | none =>
    have there : RestsAt (follow parse world) (.at request) (.at request) :=
      restsAt_self (follow_of_shown responds)
    refine ⟨{ pathname := "/" }, ?_, restsAt_self (follow_of_shown (same.symm.trans responds))⟩
    rw [← Visit.at.inj (there.eq rests), front]
  | some location =>
    have onwards := (restsAt_of_step (follow_of_sent responds)).mp rests
    exact ⟨last, rfl, (restsAt_of_step (follow_of_sent (same.symm.trans responds))).mpr onwards⟩

/-- A stranger who asks for a page comes to rest where one signs in, and signing in leads to the
page on which the same visit of one who is signed in comes to rest. -/
theorem signIn_returns (root : parse "/" = some { pathname := "/" })
    (back : parse (request.pathname ++ request.search) = some request)
    (closed : isPublic request.pathname = false)
    (exists_ : pageOf request.pathname ≠ .notFound) {visitor : World}
    (stranger : visitor.cookie = none) (known : world.getCurrentUser = some user) :
    ∃ login : Request, login.pathname = loginPath ∧
      RestsAt (follow parse visitor) (.at request) (.at login) ∧
      ∀ last, RestsAt (follow parse world) (.at request) (.at last) →
        ∃ landed : Request, landed.pathname = last.pathname ∧
          RestsAt (follow parse world) ((loginAction world user login.next).visit parse)
            (.at landed) := by
  have sent := respond_of_stranger closed stranger
  have lands : ∀ next : Option String,
      (∀ last, RestsAt (follow parse world) (.at request) (.at last) →
        ∃ landed : Request, landed.pathname = last.pathname ∧ RestsAt (follow parse world)
          ((Location.text (safeReturnPath next)).visit parse) (.at landed)) →
      ∀ last, RestsAt (follow parse world) (.at request) (.at last) →
        ∃ landed : Request, landed.pathname = last.pathname ∧
          RestsAt (follow parse world) ((loginAction world user next).visit parse)
            (.at landed) := by
    intro next returns last rests
    by_cases owing : ∃ owed, fetchOnboardingStep world user = some (some owed)
    · obtain ⟨owed, fetched⟩ := owing
      rw [restsAt_owed known fetched closed exists_ rests]
      exact restsAt_loginAction known fetched next
    · rw [loginAction_of_free next owing]
      exact returns last rests
  by_cases front : request.pathname = "/"
  · rw [if_pos front] at sent
    refine ⟨_, rfl, restsAt_login stranger rfl sent, lands _ ?_⟩
    intro last rests
    have home : safeReturnPath none = "/" := rfl
    rw [home, Location.visit, root]
    exact restsAt_front known front rests
  · rw [if_neg front] at sent
    refine ⟨_, rfl, restsAt_login stranger rfl sent, lands _ ?_⟩
    intro last rests
    refine ⟨last, rfl, ?_⟩
    rw [safeReturnPath_of_page front exists_, Location.visit, back]
    exact rests

end SignIn

def sampleRequest : Request where
  pathname := "/invoices"
  search := "?brandId=b1"
  brandId := some "b1"

theorem signIn_returns_sample :
    ∃ login : Request, login.pathname = loginPath ∧
      RestsAt (follow sampleParse { sampleWorld with cookie := none }) (.at sampleRequest)
        (.at login) ∧
      ∃ landed : Request, landed.pathname = "/invoices" ∧
        RestsAt (follow sampleParse sampleWorld)
          ((loginAction sampleWorld ⟨.merchantOwner, [], false⟩ login.next).visit sampleParse)
          (.at landed) := by
  have root : sampleParse "/" = some { pathname := "/" } := rfl
  have back : sampleParse (sampleRequest.pathname ++ sampleRequest.search) =
      some sampleRequest := by decide
  have stranger : { sampleWorld with cookie := none }.cookie = none := rfl
  have known : sampleWorld.getCurrentUser = some ⟨.merchantOwner, [], false⟩ := rfl
  obtain ⟨login, there, rests, returns⟩ :=
    signIn_returns root back (by decide) (by decide) stranger known
  exact ⟨login, there, rests, returns _ (restsAt_self rfl)⟩

end MultiBrandInvoicing.Navigation
