import Flowplan.Registry.Basic

namespace Flowplan.Catalog

structure Service where
  name : String
  description : String
  endpoints : List String

def services : List Service := [
    ⟨"campaign",
      "Campaign lifecycle: gate-check (budget validation), start-run, end-run "
        ++ "(re-triggers while budget remains)",
      ["POST /internal/gate-check", "POST /internal/start-run", "POST /internal/end-run"]⟩,
    ⟨"lead",
      "Lead buffer: push leads, pull the next lead for outreach, search leads",
      ["POST /buffer/next", "POST /buffer/push", "GET /leads"]⟩,
    ⟨"brand",
      "Brand intelligence: company and sales profiles, tone of voice",
      ["GET /brands/:id", "POST /sales-profile"]⟩,
    ⟨"content-generation",
      "Generated emails and subject lines from stored prompt templates",
      ["POST /generate", "POST /generate/content"]⟩,
    ⟨"email-gateway",
      "Low-level email sending through the configured provider",
      ["POST /send"]⟩,
    ⟨"transactional-email",
      "Template-based transactional emails by event type",
      ["POST /send", "GET /stats"]⟩,
    ⟨"runs",
      "Execution tracking: create runs, add costs, mark complete or failed",
      ["POST /runs/start", "POST /runs/end", "POST /runs/:id/costs"]⟩,
    ⟨"client",
      "Users and contacts of an app",
      ["POST /users", "GET /users", "PUT /users/:id"]⟩,
    ⟨"stripe",
      "Stripe products, prices, checkout sessions and coupons",
      ["POST /products", "POST /prices", "POST /checkout-sessions"]⟩,
    ⟨"twilio",
      "SMS sending",
      ["POST /send"]⟩,
    ⟨"reply-qualification",
      "Classification of email replies (interested, bounce, ...)",
      ["POST /qualify"]⟩,
    ⟨"journalists",
      "Journalist database for PR outreach",
      ["GET /journalists", "GET /journalists/:id"]⟩,
    ⟨"outlets",
      "Media outlets for PR outreach",
      ["GET /outlets", "GET /outlets/:id"]⟩,
    ⟨"scraping",
      "Structured data extraction from URLs",
      ["POST /scrape"]⟩]

def describe (service : Service) : String :=
  s!"- **{service.name}**: {service.description}\n  Endpoints: "
    ++ ", ".intercalate service.endpoints

def servicesText (wanted : List String) : String :=
  let chosen :=
    if wanted.isEmpty then services else services.filter fun service => wanted.contains service.name
  "\n".intercalate (chosen.map describe)

def stepTypesText (registry : Registry) : String :=
  "\n".intercalate (registry.entries.map fun (kind, binding) =>
    match binding with
    | .native => s!"- \"{kind}\" (native flow control)"
    | .executable _ => s!"- \"{kind}\"")

end Flowplan.Catalog
