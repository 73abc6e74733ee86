import MultiBrandInvoicing.Admin.SetupSteps

/-!
# Navigation in the admin app

`apps/admin/src/middleware.ts`, the layout of the app, the guards of `lib/onboarding.ts`, the
pages outside the app and the routes that connect a provider send a browser on, and the form for
signing in sends it where it came from.  A page is shown only to one it is for.
-/

set_option autoImplicit false

namespace MultiBrandInvoicing.Navigation

open CompanyDetails Onboarding Roles

/-- A request for a page of this origin, with the parameters that the pages read. -/
structure Request where
  pathname : String
  search : String := ""
  next : Option String := none
  token : Option String := none
  id : Option String := none
  brandId : Option String := none
  deriving DecidableEq, Repr

inductive Provider where
  | zoho | stripe | square
  deriving DecidableEq, Repr

/-- What the browser sends and what the API answers to its session. -/
structure World where
  cookie : Option String
  user : Option CurrentUser
  merchant : Option MerchantOnboardingState
  brands : Option (List String)
  /-- The consent page of a provider that the API redirects to for a brand. -/
  connect : Provider → String → Option String

/-- Where a redirect goes: to a page of the code's own choice, to a text from a query, or to the
provider. -/
inductive Location where
  | page (request : Request)
  | text (location : String)
  | consent (location : String)

def given (parameter : Option String) : Option String := parameter.filter (· ≠ "")

/-! ## The session -/

def loginPath : String := "/login"

namespace World

variable (world : World)

def readSessionToken : Option String := given world.cookie

/-- The API answers nobody who has no session. -/
def getCurrentUser : Option CurrentUser := world.readSessionToken.bind fun _ => world.user

def getMerchantOnboarding : Option MerchantOnboardingState :=
  world.readSessionToken.bind fun _ => world.merchant

def listBrands : Option (List String) := world.readSessionToken.bind fun _ => world.brands

end World

def safeReturnPath (value : Option String) : String :=
  match given value with
  | none => "/"
  | some text =>
    if !(['/'].isPrefixOf text.toList) || ['/', '/'].isPrefixOf text.toList then "/" else text

def toLogin (next : String) : Location := .page { pathname := loginPath, next := some next }

def expired : Location := .page { pathname := loginPath }

/-! ## The middleware -/

def publicPaths : List String :=
  ["/login", "/signup", "/forgot-password", "/check-inbox", "/set-password", "/welcome", "/terms",
    "/privacy"]

def isPublic (pathname : String) : Bool :=
  publicPaths.any fun path => pathname = path || (path ++ "/").toList.isPrefixOf pathname.toList

def middleware (world : World) (request : Request) : Option Location :=
  if isPublic request.pathname then none
  else if world.cookie.isSome then none
  else if request.pathname = "/" then some (.page { pathname := loginPath })
  else some (toLogin (request.pathname ++ request.search))

/-! ## The guards -/

/-- `resolveOnboardingStep` with the merchant fetched; it answers nothing where that fails. -/
def fetchOnboardingStep (world : World) (user : CurrentUser) : Option (Option OnboardingStep) :=
  if user.mustResetPassword then some (some .setPassword)
  else world.getMerchantOnboarding.map (resolveOnboardingStep user)

def routeOf (step : Option OnboardingStep) : Location := .page { pathname := routeForStep step }

def requireSignedInUser (world : World) (destination : String) : Except Location CurrentUser :=
  if world.readSessionToken = none then .error (toLogin destination)
  else
    match world.getCurrentUser with
    | none => .error expired
    | some user => .ok user

def resolveOnboardingStepOrRedirect (world : World) (user : CurrentUser) :
    Except Location (Option OnboardingStep) :=
  match fetchOnboardingStep world user with
  | none => .error expired
  | some step => .ok step

def requireOnboardingStep (world : World) (step : OnboardingStep) :
    Except Location CurrentUser := do
  let user ← requireSignedInUser world (routeForStep (some step))
  let actual ← resolveOnboardingStepOrRedirect world user
  if actual ≠ some step then .error (routeOf actual) else pure user

def requireOnboardingComplete (world : World) : Except Location CurrentUser := do
  let user ← requireSignedInUser world "/brands/created"
  let actual ← resolveOnboardingStepOrRedirect world user
  if actual ≠ none then .error (routeOf actual) else pure user

def authenticatedLayout (world : World) : Except Location CurrentUser :=
  match world.getCurrentUser with
  | none => .error expired
  | some user =>
    match fetchOnboardingStep world user with
    | none => .error expired
    | some (some step) => .error (routeOf (some step))
    | some none => .ok user

/-! ## The pages -/

inductive AppPage where
  | users | newInvoice | newCustomer | legacyIntegrations | other
  deriving DecidableEq, Repr

inductive Page where
  | login | setPassword | created | plain
  /-- Nothing, or a route that answers with data. -/
  | notFound
  /-- Sign-up and the pages that have nothing for one who is signed in. -/
  | outside
  | onboarding (step : OnboardingStep)
  | app (page : AppPage)
  | connect (provider : Provider)
  deriving DecidableEq, Repr

/-- The files of `apps/admin/src/app`. -/
def pages : List (String × Page) :=
  [("/", .app .other), ("/brand-settings", .app .other), ("/customers", .app .other),
    ("/customers/new", .app .newCustomer), ("/invoices", .app .other),
    ("/invoices/new", .app .newInvoice), ("/notifications", .app .other),
    ("/payments", .app .other), ("/settings/integrations", .app .legacyIntegrations),
    ("/settings/payment-methods", .app .other), ("/shop-payment-gateways", .app .other),
    ("/status", .app .other), ("/users", .app .users), ("/login", .login), ("/signup", .outside),
    ("/forgot-password", .outside), ("/welcome", .outside), ("/check-inbox", .plain),
    ("/terms", .plain), ("/privacy", .plain), ("/set-password", .setPassword),
    ("/brands/new", .onboarding .companyDetails),
    ("/brands/structure", .onboarding .brandStructure),
    ("/brands/multi", .onboarding .multiBrandSetup),
    ("/awaiting-setup", .onboarding .awaitingSetup), ("/brands/created", .created),
    ("/settings/zoho/connect", .connect .zoho), ("/settings/stripe/connect", .connect .stripe),
    ("/settings/square/connect", .connect .square)]

def isCustomer (pathname : String) : Bool :=
  let directory := "/customers/".toList
  let id := pathname.toList.drop directory.length
  directory.isPrefixOf pathname.toList && id ≠ [] && !id.contains '/'

/-- A path with a file of its own comes before `[id]`. -/
def pageOf (pathname : String) : Page :=
  match pages.lookup pathname with
  | some page => page
  | none => if isCustomer pathname then .app .other else .notFound

def withBrand (path : String) (brandId : Option String) : Request :=
  match given brandId with
  | none => { pathname := path }
  | some id => { pathname := path, brandId := some id }

theorem withBrand_pathname (path : String) (brandId : Option String) :
    (withBrand path brandId).pathname = path := by
  rw [withBrand]
  split <;> rfl

/-- A page that is shown redirects nowhere; one that fails shows its error. -/
def appPage (user : CurrentUser) (request : Request) : AppPage → Option Location
  | .users => if hasPermission user .users .read then none else some (.page { pathname := "/" })
  | .newInvoice =>
    if hasPermission user .invoices .write then none
    else some (.page (withBrand "/invoices" request.brandId))
  | .newCustomer =>
    if hasPermission user .customers .write then none
    else some (.page (withBrand "/customers" request.brandId))
  | .legacyIntegrations =>
    some (.page { pathname := "/brand-settings", brandId := request.brandId })
  | .other => none

def createdPage (world : World) (request : Request) : Option Location :=
  match given request.id with
  | none => some (.page { pathname := "/" })
  | some id =>
    match world.listBrands with
    | none => none
    | some brands => if id ∈ brands then none else some (.page { pathname := "/" })

/-- The settings of the brand are where a failure returns to. -/
def startProviderConnect (world : World) (request : Request) (provider : Provider) : Location :=
  match given request.brandId with
  | none => .page { pathname := "/brand-settings" }
  | some brandId =>
    if world.readSessionToken = none then expired
    else
      match given (world.connect provider brandId) with
      | none => .page (withBrand "/brand-settings" request.brandId)
      | some location => .consent location

def redirectOf {α : Type} (guard : Except Location α) (page : α → Option Location) :
    Option Location :=
  match guard with
  | .error location => some location
  | .ok value => page value

def render (world : World) (request : Request) : Page → Option Location
  | .login =>
    if world.getCurrentUser.isSome then some (.text (safeReturnPath request.next)) else none
  | .outside => if world.getCurrentUser.isSome then some (.page { pathname := "/" }) else none
  | .setPassword =>
    if given request.token = none ∧ world.readSessionToken = none then
      some (toLogin "/set-password")
    else none
  | .onboarding step => redirectOf (requireOnboardingStep world step) fun _ => none
  | .created => redirectOf (requireOnboardingComplete world) fun _ => createdPage world request
  | .app page => redirectOf (authenticatedLayout world) fun user => appPage user request page
  | .connect provider => some (startProviderConnect world request provider)
  | .plain => none
  | .notFound => none

def respond (world : World) (request : Request) : Option Location :=
  match middleware world request with
  | some location => some location
  | none => render world request (pageOf request.pathname)

/-- Where the form for signing in leads, once the API has answered with a session. -/
def loginAction (world : World) (user : CurrentUser) (next : Option String) : Location :=
  match fetchOnboardingStep world user with
  | some (some .setPassword) =>
    .page { pathname := "/set-password", next := some (safeReturnPath next) }
  | some (some step) => routeOf (some step)
  | some none => .text (safeReturnPath next)
  | none => .text (safeReturnPath next)

/-! ## Visits -/

inductive Visit where
  | at (request : Request)
  | elsewhere (location : String)

/-- `parse` is what the browser and the framework make of a text: nothing if it leaves the
origin. -/
def Location.visit (parse : String → Option Request) : Location → Visit
  | .page request => .at request
  | .text location =>
    match parse location with
    | none => .elsewhere location
    | some request => .at request
  | .consent location => .elsewhere location

def follow (parse : String → Option Request) (world : World) : Visit → Option Visit
  | .elsewhere _ => none
  | .at request => (respond world request).map (Location.visit parse)

/-! ## Who is known -/

section Known

variable {world : World} {user : CurrentUser}
  {step : Option OnboardingStep} {request : Request}

theorem readSessionToken_of_user (known : world.getCurrentUser = some user) :
    world.readSessionToken ≠ none := by
  intro missing
  rw [World.getCurrentUser, missing] at known
  cases known

theorem respond_of_user (known : world.getCurrentUser = some user) :
    respond world request = render world request (pageOf request.pathname) := by
  have cookie : world.cookie.isSome = true := by
    cases held : world.cookie with
    | some token => rfl
    | none =>
      have missing : world.readSessionToken = none := by rw [World.readSessionToken, held]; rfl
      exact absurd missing (readSessionToken_of_user known)
  have passes : middleware world request = none := by
    unfold middleware
    rw [if_pos cookie, ite_self]
  rw [respond, passes]

theorem requireSignedInUser_of_user (known : world.getCurrentUser = some user)
    (destination : String) : requireSignedInUser world destination = .ok user := by
  rw [requireSignedInUser, if_neg (readSessionToken_of_user known), known]

theorem fetchOnboardingStep_eq_none :
    fetchOnboardingStep world user = none ↔
      user.mustResetPassword = false ∧ world.getMerchantOnboarding = none := by
  unfold fetchOnboardingStep
  cases user.mustResetPassword <;> simp

theorem resolveOnboardingStep_eq_none {merchant : MerchantOnboardingState} :
    resolveOnboardingStep user merchant = none ↔
      user.mustResetPassword = false ∧ merchant.onboardingComplete = true := by
  unfold resolveOnboardingStep
  cases user.mustResetPassword with
  | true => simp
  | false =>
    cases merchant.onboardingComplete with
    | true => simp
    | false =>
      simp only [Bool.false_eq_true, if_false]
      split <;> simp

theorem pageOf_routeForStep {owed : OnboardingStep} (other : owed ≠ .setPassword) :
    pageOf (routeForStep (some owed)) = .onboarding owed := by
  cases owed with
  | setPassword => exact absurd rfl other
  | companyDetails | brandStructure | multiBrandSetup | awaitingSetup => decide

variable (known : world.getCurrentUser = some user)
  (fetched : fetchOnboardingStep world user = some step)

include known fetched

theorem authenticatedLayout_of_user :
    authenticatedLayout world =
      step.elim (.ok user) fun owed => .error (routeOf (some owed)) := by
  simp only [authenticatedLayout, known, fetched]
  cases step <;> rfl

theorem requireOnboardingStep_of_user (owed : OnboardingStep) :
    requireOnboardingStep world owed =
      if step ≠ some owed then .error (routeOf step) else .ok user := by
  simp only [requireOnboardingStep, requireSignedInUser_of_user known,
    resolveOnboardingStepOrRedirect, fetched, bind, Except.bind]
  rfl

theorem requireOnboardingComplete_of_user :
    requireOnboardingComplete world = if step ≠ none then .error (routeOf step) else .ok user := by
  simp only [requireOnboardingComplete, requireSignedInUser_of_user known,
    resolveOnboardingStepOrRedirect, fetched, bind, Except.bind]
  rfl

theorem respond_route (there : request.pathname = routeForStep step) :
    respond world request = none := by
  rw [respond_of_user known, there]
  cases step with
  | none =>
    have page : pageOf (routeForStep none) = .app .other := by decide
    rw [page, render, authenticatedLayout_of_user known fetched]
    rfl
  | some owed =>
    cases owed with
    | setPassword =>
      have page : pageOf (routeForStep (some .setPassword)) = .setPassword := by decide
      rw [page, render, if_neg fun neither => readSessionToken_of_user known neither.2]
    | companyDetails | brandStructure | multiBrandSetup | awaitingSetup =>
      rw [pageOf_routeForStep (by decide), render, requireOnboardingStep_of_user known fetched,
        if_neg (not_not_intro rfl)]
      rfl

end Known

/-! ## Who is shown a page -/

def Admits (world : World) (request : Request) : Page → Prop
  | .app _ => ∃ user merchant, world.getCurrentUser = some user ∧ user.mustResetPassword = false ∧
      world.getMerchantOnboarding = some merchant ∧ merchant.onboardingComplete = true
  | .onboarding step => ∃ user, world.getCurrentUser = some user ∧
      fetchOnboardingStep world user = some (some step)
  | .created => ∃ user, world.getCurrentUser = some user ∧
      fetchOnboardingStep world user = some none
  | .login => world.getCurrentUser = none
  | .outside => world.getCurrentUser = none
  | .setPassword => given request.token ≠ none ∨ world.readSessionToken ≠ none
  | .connect _ => False
  | .plain => True
  | .notFound => True

section Admitted

variable {world : World} {request : Request}

theorem fetched_none {user : CurrentUser} (fetched : fetchOnboardingStep world user = some none) :
    user.mustResetPassword = false ∧ ∃ merchant, world.getMerchantOnboarding = some merchant ∧
      merchant.onboardingComplete = true := by
  unfold fetchOnboardingStep at fetched
  split at fetched
  · cases fetched
  · obtain ⟨merchant, answered, done⟩ := Option.map_eq_some_iff.mp fetched
    obtain ⟨changed, complete⟩ := resolveOnboardingStep_eq_none.mp done
    exact ⟨changed, merchant, answered, complete⟩

theorem of_requireSignedInUser {destination : String} {user : CurrentUser}
    (passed : requireSignedInUser world destination = .ok user) :
    world.getCurrentUser = some user := by
  unfold requireSignedInUser at passed
  split at passed
  · cases passed
  · split at passed
    · cases passed
    · next known => rw [known, Except.ok.inj passed]

theorem of_resolveOnboardingStepOrRedirect {user : CurrentUser} {step : Option OnboardingStep}
    (passed : resolveOnboardingStepOrRedirect world user = .ok step) :
    fetchOnboardingStep world user = some step := by
  unfold resolveOnboardingStepOrRedirect at passed
  split at passed
  · cases passed
  · next fetched => rw [fetched, Except.ok.inj passed]

/-- The guards of the pages of the setup let those pass who are to be there. -/
theorem of_guards (destination : String) {wanted : Option OnboardingStep} {user : CurrentUser}
    (passed : (do
      let user ← requireSignedInUser world destination
      let actual ← resolveOnboardingStepOrRedirect world user
      if actual ≠ wanted then .error (routeOf actual) else pure user) = Except.ok user) :
    ∃ user, world.getCurrentUser = some user ∧ fetchOnboardingStep world user = some wanted := by
  cases signedIn : requireSignedInUser world destination with
  | error location => rw [signedIn] at passed; cases passed
  | ok first =>
    rw [signedIn] at passed
    cases resolved : resolveOnboardingStepOrRedirect world first with
    | error location =>
      change (resolveOnboardingStepOrRedirect world first >>= _) = _ at passed
      rw [resolved] at passed
      cases passed
    | ok actual =>
      change (resolveOnboardingStepOrRedirect world first >>= _) = _ at passed
      rw [resolved] at passed
      change (if actual ≠ wanted then Except.error (routeOf actual) else pure first) = _ at passed
      refine ⟨first, of_requireSignedInUser signedIn, ?_⟩
      rw [of_resolveOnboardingStepOrRedirect resolved]
      by_cases same : actual = wanted
      · rw [same]
      · rw [if_pos same] at passed
        cases passed

theorem passed_of_redirectOf {α : Type} {guard : Except Location α} {page : α → Option Location}
    (shown : redirectOf guard page = none) : ∃ value, guard = .ok value := by
  cases guard with
  | error location => cases shown
  | ok value => exact ⟨value, rfl⟩

theorem admits_of_render {page : Page} (shown : render world request page = none) :
    Admits world request page := by
  cases page with
  | plain | notFound => exact trivial
  | connect provider => cases shown
  | login | outside =>
    rw [render] at shown
    split at shown
    · cases shown
    · next nobody => exact Option.not_isSome_iff_eq_none.mp nobody
  | setPassword =>
    rw [render] at shown
    split at shown
    · cases shown
    · next either => exact not_and_or.mp either
  | onboarding step =>
    obtain ⟨user, passed⟩ := passed_of_redirectOf shown
    exact of_guards (routeForStep (some step)) passed
  | created =>
    obtain ⟨user, passed⟩ := passed_of_redirectOf shown
    exact of_guards "/brands/created" passed
  | app page =>
    obtain ⟨user, passed⟩ := passed_of_redirectOf shown
    unfold authenticatedLayout at passed
    split at passed
    · cases passed
    · next user known =>
      split at passed
      · cases passed
      · cases passed
      · next fetched =>
        obtain ⟨changed, merchant, answered, complete⟩ := fetched_none fetched
        exact ⟨user, merchant, known, changed, answered, complete⟩

theorem admits_of_respond (shown : respond world request = none) :
    (world.cookie = none → isPublic request.pathname = true) ∧
      Admits world request (pageOf request.pathname) := by
  unfold respond at shown
  cases passes : middleware world request with
  | some location => rw [passes] at shown; cases shown
  | none =>
    rw [passes] at shown
    refine ⟨?_, admits_of_render shown⟩
    intro none_
    unfold middleware at passes
    rw [none_] at passes
    split at passes
    · next open_ => exact open_
    · split at passes
      · next held => cases held
      · split at passes <;> cases passes

end Admitted

end MultiBrandInvoicing.Navigation
