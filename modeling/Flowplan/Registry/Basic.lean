import Flowplan.Json.Printer

namespace Flowplan

namespace StepType

def wait : String := "wait"

def condition : String := "condition"

def forEach : String := "for-each"

end StepType

inductive Binding
  | executable (path : String)
  | native
deriving DecidableEq

def Binding.path? : Binding → Option String
  | .executable path => some path
  | .native => none

structure Registry where
  entries : Entries Binding
deriving DecidableEq

structure RegistryError where
  kind : String
  shown : String
deriving DecidableEq

def RegistryError.message (e : RegistryError) : String :=
  s!"Invalid registry entry for '{e.kind}': {e.shown}"

namespace Registry

def size (registry : Registry) : Nat := registry.entries.length

def binding? (registry : Registry) (kind : String) : Option Binding := registry.entries.lookup kind

def isKnown (registry : Registry) (kind : String) : Bool := (registry.binding? kind).isSome

def isNative (registry : Registry) (kind : String) : Bool := registry.binding? kind == some .native

def scriptPath (registry : Registry) (kind : String) : Option String :=
  (registry.binding? kind).bind Binding.path?

def builtIn : Registry where
  entries := [
    ("lead-service", .executable "f/nodes/lead_service"),
    ("content-generation", .executable "f/nodes/content_generation"),
    ("outbound-sending", .executable "f/nodes/outbound_sending"),
    ("brand-intel", .executable "f/nodes/brand_intel"),
    ("content-sentiment", .executable "f/nodes/content_sentiment"),
    ("lifecycle-emails", .executable "f/nodes/lifecycle_emails"),
    ("client-service", .executable "f/nodes/client_service"),
    ("http.call", .executable "f/nodes/http_call"),
    ("end-run", .executable "f/nodes/end_run"),
    ("twilio-sms", .executable "f/nodes/twilio_sms"),
    ("order-service", .executable "f/nodes/order_service"),
    ("product-service", .executable "f/nodes/product_service"),
    ("stripe-service", .executable "f/nodes/stripe_service"),
    ("linkedin-dm", .executable "f/nodes/linkedin_dm"),
    ("linkedin-connect", .executable "f/nodes/linkedin_connect"),
    ("linkedin-post", .executable "f/nodes/linkedin_post"),
    ("google-ads", .executable "f/nodes/google_ads"),
    ("meta-ads", .executable "f/nodes/meta_ads"),
    (StepType.wait, .native),
    (StepType.condition, .native),
    (StepType.forEach, .native)]

/-- A binding as a document states it: null for a native type, a non-empty path otherwise. -/
def readBinding (kind : String) : Json → Except RegistryError Binding
  | .null => .ok .native
  | .str path =>
    if path == "" then .error ⟨kind, (Json.str path).inspect⟩ else .ok (.executable path)
  | value => .error ⟨kind, value.inspect⟩

def ofMapping (mapping : Entries Json) : Except RegistryError Registry := do
  let entries ← mapping.mapM fun (kind, value) => return (kind, ← readBinding kind value)
  return ⟨entries⟩

/-- The registry that is used where one was offered: an empty one counts as none. -/
def effective (offered : Option Registry) : Registry :=
  match offered with
  | some registry => if registry.entries.isEmpty then builtIn else registry
  | none => builtIn

end Registry

end Flowplan
