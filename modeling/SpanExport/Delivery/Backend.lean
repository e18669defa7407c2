import SpanExport.Delivery.Exporter

/-!
# The backend

What is behind the clients that are made here: whether they can be made, and how their
transmissions behave.
-/

namespace SpanExport

structure Backend where
  createError : Option String := none
  transmission : Transmission := {}

def userAgent : String := "honeytrace-exporter/0.1.0"

namespace Backend

variable {σ : Type}

/-- Opens a client for a caller. It has been opened even if its target turns out to be none. -/
def connect (number : Nat) (target : Target) (fields : Fields) (transmission : Transmission) :
    Call σ Client := do
  .record [.called number .opened, .transmission number .start]
  let dataset ← .ofExcept ((WriteKey.dataset target.writekey target.dataset).mapError .target)
  return Client.make number { target with dataset } fields transmission

/-- Makes the client that a configuration asks for. The attempt is on record even if it fails. -/
def create (backend : Backend) (number : Nat) (c : Configuration) : Call σ Client := do
  .record [.requested ⟨c.writekey, c.dataset, c.apiHost, userAgent, c.debug⟩]
  match backend.createError with
  | some message => .ofExcept (.error (.client message))
  | none => connect number ⟨c.writekey, c.dataset, c.apiHost, .int 1⟩ .empty backend.transmission

def createExporter (backend : Backend) (number : Nat) (c : Configuration)
    (client : Option Client) : Call σ Exporter := do
  let client ← match client with
    | some client => pure client
    | none => backend.create number c
  let exporter := Exporter.make client c.sampleFraction c.serviceName
  .record [exporter.announcement]
  return exporter

end Backend

end SpanExport
