import MultiBrandInvoicing.Money.Calculation

/-!
# The payment gateway

`packages/shared/src/ports/payment-gateway.port.ts` and the event side of
`stripe-gateway.adapter.ts`.  The provider stands outside the repository: a port is
whatever it answers at the moment it is asked, and nothing is assumed about it.
Times are milliseconds since the epoch.
-/

set_option autoImplicit false

namespace MultiBrandInvoicing

abbrev Time := Int

inductive PaymentIntentStatus where
  | requiresAction | processing | succeeded | failed | cancelled
  deriving DecidableEq, Repr

structure GatewayCustomer where
  email : Option String
  name : Option String
  deriving DecidableEq, Repr

structure CreateIntentInput where
  idempotencyKey : String
  invoiceId : String
  brandId : String
  amountMinor : Int
  currency : String
  method : PaymentMethod
  description : String
  customer : GatewayCustomer
  returnUrl : String
  deriving DecidableEq, Repr

structure PaymentIntent where
  gatewayReference : String
  status : PaymentIntentStatus
  clientToken : Option String
  occurredAt : Time
  declineReason : Option String
  deriving DecidableEq, Repr

inductive GatewayEventType where
  | paymentSucceeded | paymentFailed | paymentPending | paymentCancelled | refundSucceeded
  | refundFailed | unknown
  deriving DecidableEq, Repr

structure GatewayWebhookEvent where
  id : String
  type : GatewayEventType
  gatewayReference : String
  occurredAt : Time
  declineReason : Option String
  accountRef : Option String
  deriving DecidableEq, Repr

/-- What a gateway call throws: the one error class the callers look for, or anything
else. -/
inductive GatewayFailure where
  | integrationError (message : String)
  | other (message : String)
  deriving DecidableEq, Repr

/-- The operations the services use, over raw payloads of type `π`.  `resolveBrandId`
is optional, as in the source. -/
structure PaymentGatewayPort (π : Type) where
  createIntent : CreateIntentInput → Except GatewayFailure PaymentIntent
  retrieve : String → String → Except GatewayFailure PaymentIntent
  verifySignature : π → List (String × String) → Option String → Bool
  parseWebhook : π → Option String → Except GatewayFailure GatewayWebhookEvent
  resolveBrandId : Option (GatewayWebhookEvent → Option String)

/-! ## The Stripe adapter's reading of an event -/

structure StripeEvent where
  id : String
  type : String
  created : Int
  account : Option String
  objectId : String
  paymentIntent : Option String
  lastPaymentErrorMessage : Option String
  deriving DecidableEq, Repr

namespace StripeGatewayAdapter

def mapEventType : String → GatewayEventType
  | "payment_intent.succeeded" => .paymentSucceeded
  | "payment_intent.payment_failed" => .paymentFailed
  | "payment_intent.processing" => .paymentPending
  | "payment_intent.canceled" => .paymentCancelled
  | "charge.refunded" => .refundSucceeded
  | _ => .unknown

def parseWebhook (event : StripeEvent) : GatewayWebhookEvent where
  id := event.id
  type := mapEventType event.type
  gatewayReference := event.paymentIntent.getD event.objectId
  occurredAt := event.created * 1000
  declineReason := event.lastPaymentErrorMessage
  accountRef := event.account

end StripeGatewayAdapter

end MultiBrandInvoicing
