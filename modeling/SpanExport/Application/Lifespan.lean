import SpanExport.Tracing.Session

/-!
# Lifespans

A lifespan brackets the time in which an application serves: it starts up and yields a state,
and at the end it is told whether serving failed. It may let that failure pass, replace it by
one of its own, or swallow it. With tracing, the session is shut down after it in any case.
-/

namespace SpanExport

/-- The state of an application, and the tracing session it runs in. -/
structure Host (α : Type) where
  session : Session
  app : α

namespace Host

variable {α β : Type}

def tracing (call : Call Session β) : Call (Host α) β :=
  .within Host.session (fun session host => { host with session }) call

end Host

/-- Starting up yields a state or fails. The end is given the failure of the time between, if
there was one, and fails with what comes out. -/
structure Lifespan (α σ : Type) where
  enter : Call (Host α) σ
  exit : Option Failure → Call (Host α) Unit

namespace Lifespan

variable {α σ : Type}

def run (l : Lifespan α σ) (body : σ → Call (Host α) Unit) : Call (Host α) Unit := do
  let state ← l.enter
  match ← Call.attempt (body state) with
  | .ok _ => l.exit none
  | .error e => l.exit (some e)

/-- The lifespan with a call after it: at its end, or when it fails to start. -/
def followedBy (l : Lifespan α σ) (after : Call (Host α) Unit) : Lifespan α σ where
  enter := do
    match ← Call.attempt l.enter with
    | .ok state => return state
    | .error e => Call.ensuring (.ofExcept (.error e)) after
  exit failure := Call.ensuring (l.exit failure) after

def endTracing : Call (Host α) Unit := do
  Host.tracing Session.shutdown
  .log .info "Honeycomb tracing shut down with the application"

def withShutdown (l : Lifespan α σ) : Lifespan α σ := l.followedBy endTracing

end Lifespan

end SpanExport
