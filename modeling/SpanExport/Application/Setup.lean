import SpanExport.Application.Lifespan

/-!
# Tracing an application

Tracing is configured first, then the application is instrumented, and last its lifespan is
made to shut tracing down. A step that fails leaves what the steps before it did.
-/

namespace SpanExport

/-- What instruments an application, given the URLs to leave out and the provider to use. -/
structure Instrumentation (α : Type) where
  instrument : (excludedUrls : Value) → (provider : Nat) → Call (Host α) Unit

/-- An application with its lifespan, and how it may be instrumented, if it may. -/
structure Application (α σ : Type) where
  host : Host α
  lifespan : Lifespan α σ
  instrumentation : Option (Instrumentation α)

namespace Application

variable {α β σ : Type}

def onHost (call : Call (Host α) β) : Call (Application α σ) β :=
  .within Application.host (fun host app => { app with host }) call

/-- Instruments the application and lets its lifespan shut tracing down. -/
def instrument (c : Configuration) (excludedUrls : Value) (provider : Nat) :
    Call (Application α σ) Unit := do
  match (← Call.get).instrumentation with
  | none =>
    .log .warning
      ("opentelemetry-instrumentation-fastapi not installed. " ++
        "Install with: pip install honeytrace[fastapi]")
    .ofExcept (.error .noInstrumentation)
  | some instrumentation =>
    onHost (instrumentation.instrument excludedUrls provider)
    .log .info ("FastAPI auto-instrumentation enabled for service '" ++ c.serviceName.shown ++ "'")
    .modify fun app => { app with lifespan := app.lifespan.withShutdown }

def setupTracing (c : Configuration) (client : Option Client) (memories : List Nat)
    (excludedUrls : Value) : Call (Application α σ) Unit := do
  let provider ← onHost (Host.tracing (Session.setup c .batch client memories))
  instrument c excludedUrls provider

def run (body : σ → Call (Host α) Unit) : Call (Application α σ) Unit := do
  onHost ((← Call.get).lifespan.run body)

end Application

end SpanExport
