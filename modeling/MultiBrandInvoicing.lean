import MultiBrandInvoicing.ReadCommitted.Interleaving
import MultiBrandInvoicing.Money.Calculation
import MultiBrandInvoicing.Services.PaymentEffects
import MultiBrandInvoicing.Services.Checks
import MultiBrandInvoicing.Services.PublicInvoices
import MultiBrandInvoicing.Integrations.ZohoPull
import MultiBrandInvoicing.Lifecycle.Operations
import MultiBrandInvoicing.Lifecycle.Reachability
import MultiBrandInvoicing.Lifecycle.Coherence
import MultiBrandInvoicing.Lifecycle.Charge
import MultiBrandInvoicing.Transitions.Runs
import MultiBrandInvoicing.Lifecycle.Ledger
import MultiBrandInvoicing.Lifecycle.DoublePayment
import MultiBrandInvoicing.Lifecycle.Delivery
import MultiBrandInvoicing.Lifecycle.DeliveryOrder
import MultiBrandInvoicing.Lifecycle.Ordering
import MultiBrandInvoicing.Lifecycle.Decline
import MultiBrandInvoicing.Lifecycle.StatusWrites
import MultiBrandInvoicing.ReadCommitted.Optimistic
import MultiBrandInvoicing.Lifecycle.ManualPayments
import MultiBrandInvoicing.ReadCommitted.Interference
import MultiBrandInvoicing.Lifecycle.SuccessKey
import MultiBrandInvoicing.Lifecycle.Idempotence
import MultiBrandInvoicing.Integrations.StripeAccounts
import MultiBrandInvoicing.Lifecycle.Attribution
import MultiBrandInvoicing.Lifecycle.Quote
import MultiBrandInvoicing.ReadCommitted.Failure
import MultiBrandInvoicing.Integrations.PullEffects
import MultiBrandInvoicing.ReadCommitted.Outlines
import MultiBrandInvoicing.Integrations.ZohoSync
import MultiBrandInvoicing.Lifecycle.PullRaces
import MultiBrandInvoicing.Lifecycle.Unsettling
import MultiBrandInvoicing.Mirroring.EchoVersions
import MultiBrandInvoicing.Mirroring.ContactPushes
import MultiBrandInvoicing.Mirroring.Convergence
import MultiBrandInvoicing.Integrations.ZohoPresence
import MultiBrandInvoicing.Mirroring.Presence
import MultiBrandInvoicing.Arithmetic.Nearest
import MultiBrandInvoicing.Lifecycle.Pricing
import MultiBrandInvoicing.Money.DecimalText
import MultiBrandInvoicing.Integrations.ZohoLineItems
import MultiBrandInvoicing.Mirroring.Reconciliation
import MultiBrandInvoicing.Mirroring.RoundTrip
import MultiBrandInvoicing.Mirroring.Totals
import MultiBrandInvoicing.Mirroring.ContactPulls
import MultiBrandInvoicing.Mirroring.InvoicePulls
import MultiBrandInvoicing.Mirroring.SequentialPulls
import MultiBrandInvoicing.Mirroring.ConcurrentPulls
import MultiBrandInvoicing.Promises.Concurrency
import MultiBrandInvoicing.Integrations.PullBrand
import MultiBrandInvoicing.Mirroring.PullCursor
import MultiBrandInvoicing.Integrations.PendingAssignments
import MultiBrandInvoicing.Mirroring.WebhookGuard
import MultiBrandInvoicing.Mirroring.BrandAssignments
import MultiBrandInvoicing.Promises.Logged
import MultiBrandInvoicing.Tenancy.Roles
import MultiBrandInvoicing.Tenancy.Scopes
import MultiBrandInvoicing.Tenancy.AuthorisationGuard
import MultiBrandInvoicing.Integrations.PulledRows
import MultiBrandInvoicing.Tenancy.AssignRoute
import MultiBrandInvoicing.Mirroring.PaymentPushes
import MultiBrandInvoicing.Mirroring.EnqueuedPushes
import MultiBrandInvoicing.Mirroring.SettledPushes
import MultiBrandInvoicing.ReadCommitted.Journal
import MultiBrandInvoicing.Accounts.Rows
import MultiBrandInvoicing.Accounts.SignIn
import MultiBrandInvoicing.Accounts.LastOwner
import MultiBrandInvoicing.Accounts.ResetLinks
import MultiBrandInvoicing.Accounts.Suspension
import MultiBrandInvoicing.Accounts.SignOuts
import MultiBrandInvoicing.Accounts.Lockout
import MultiBrandInvoicing.Accounts.LockCounts
import MultiBrandInvoicing.Accounts.Statements
import MultiBrandInvoicing.Accounts.Credentials
import MultiBrandInvoicing.Accounts.Users
import MultiBrandInvoicing.Accounts.Histories
import MultiBrandInvoicing.Accounts.AssignedBrands
import MultiBrandInvoicing.Tenancy.BrandVisibility
import MultiBrandInvoicing.Accounts.PrivilegeGrants
import MultiBrandInvoicing.ReadCommitted.Alone
import MultiBrandInvoicing.Texts.CommaLists
import MultiBrandInvoicing.Merchants.BrandStructure
import MultiBrandInvoicing.Integrations.AccessTokens
import MultiBrandInvoicing.Merchants.StructureChoices
import MultiBrandInvoicing.Faults.Work
import MultiBrandInvoicing.Integrations.PushJobs
import MultiBrandInvoicing.Integrations.PushedRows
import MultiBrandInvoicing.Invoicing.ColumnWidths
import MultiBrandInvoicing.Invoicing.Numbering
import MultiBrandInvoicing.Mirroring.AppliedAmounts
import MultiBrandInvoicing.Mirroring.Backfill
import MultiBrandInvoicing.Mirroring.CrashedPushes
import MultiBrandInvoicing.Arithmetic.Apportionment
import MultiBrandInvoicing.Money.Allocation
import MultiBrandInvoicing.Lifecycle.CheckReviews
import MultiBrandInvoicing.Lifecycle.CheckPayments
import MultiBrandInvoicing.Lifecycle.AcceptedChecks
import MultiBrandInvoicing.Mirroring.PresencePasses
import MultiBrandInvoicing.Mirroring.PulledContacts
import MultiBrandInvoicing.Promises.BoundedCalls
import MultiBrandInvoicing.Customers.CustomerList
import MultiBrandInvoicing.Customers.Outstanding
import MultiBrandInvoicing.Integrations.RecordedJobs
import MultiBrandInvoicing.Mirroring.RecordedOutcomes
import MultiBrandInvoicing.Mirroring.SystemicFailures
import MultiBrandInvoicing.Accounts.Signups
import MultiBrandInvoicing.RateLimits.RateTokens
import MultiBrandInvoicing.Integrations.ChangeFeed
import MultiBrandInvoicing.Texts.Placeholders
import MultiBrandInvoicing.Receipts.Template
import MultiBrandInvoicing.Texts.Alternation
import MultiBrandInvoicing.Receipts.Emphasis
import MultiBrandInvoicing.Faults.Batches
import MultiBrandInvoicing.Invoicing.BulkSend
import MultiBrandInvoicing.Tables.Differences
import MultiBrandInvoicing.Merchants.SettingsAudit
import MultiBrandInvoicing.Tables.Updates
import MultiBrandInvoicing.Merchants.CompanyDetails
import MultiBrandInvoicing.Tables.Grouping
import MultiBrandInvoicing.Dashboard.Figures
import MultiBrandInvoicing.Paging.PageWindow
import MultiBrandInvoicing.Merchants.UsPhones
import MultiBrandInvoicing.Texts.LowerCase
import MultiBrandInvoicing.Merchants.WebsiteDomains
import MultiBrandInvoicing.Texts.ShortestDecimals
import MultiBrandInvoicing.Encodings.CodeUnits
import MultiBrandInvoicing.Encodings.Utf8
import MultiBrandInvoicing.Encodings.Base64Url
import MultiBrandInvoicing.Encodings.MessageTags
import MultiBrandInvoicing.Json.Values
import MultiBrandInvoicing.Json.Lexemes
import MultiBrandInvoicing.Json.Reading
import MultiBrandInvoicing.Json.Writing
import MultiBrandInvoicing.Json.Numbers
import MultiBrandInvoicing.Integrations.WebhookBodies
import MultiBrandInvoicing.Integrations.OAuthState
import MultiBrandInvoicing.Encodings.Hexadecimal
import MultiBrandInvoicing.Encodings.Base64
import MultiBrandInvoicing.Encodings.Ciphers
import MultiBrandInvoicing.Json.StringNumbers
import MultiBrandInvoicing.Integrations.StoredCredentials
import MultiBrandInvoicing.Storage.SignedUrls
import MultiBrandInvoicing.Integrations.SecretUses
import MultiBrandInvoicing.RateLimits.SlidingWindows
import MultiBrandInvoicing.Tables.TopRows
import MultiBrandInvoicing.Dashboard.Activity
import MultiBrandInvoicing.Tables.Pages
import MultiBrandInvoicing.Invoicing.InvoiceList
import MultiBrandInvoicing.Files.Paths
import MultiBrandInvoicing.Files.FileSystem
import MultiBrandInvoicing.Storage.LocalDisk
import MultiBrandInvoicing.Storage.StoredObjects
import MultiBrandInvoicing.Texts.Markup
import MultiBrandInvoicing.Receipts.InvoicePdf
import MultiBrandInvoicing.Merchants.Onboarding
import MultiBrandInvoicing.Admin.SetupSteps
import MultiBrandInvoicing.Admin.SetupForms
import MultiBrandInvoicing.Transitions.Halting
import MultiBrandInvoicing.Admin.Navigation
import MultiBrandInvoicing.Admin.Visits
