import SpanExport.Delivery.Call

/-!
# Clients

A client hands events to a transmission until it is closed. Its builder keeps the settings that
the client had when the builder was made, so changing them later changes no event.

Clients, builders and events are those of `libhoney`. This is assumed of it: an event is dropped
without an error unless it has a key, a dataset and a host and the client is open; to flush a client
is to close its transmission and start it again; and a client counts as closed only once its
transmission could be closed. What a transmission refuses is left open.
-/

namespace SpanExport

/-! ## Clients -/

/-- How the transmission under a client behaves: which of the events handed to it, counted from
zero, it refuses, and with what message it refuses to close. -/
structure Transmission where
  refusal : Nat → Event → Option String := fun _ _ => none
  closeError : Option String := none

structure Client where
  number : Nat
  target : Target
  fields : Fields
  transmission : Transmission
  isOpen : Bool := true
  /-- How many events were handed to the transmission. -/
  handed : Nat := 0

namespace Client

def make (number : Nat) (target : Target) (fields : Fields) (transmission : Transmission) :
    Client where
  number
  target
  fields
  transmission

def set (client : Client) (setting : Setting) : Client :=
  { client with target := client.target.set setting }

def addField (client : Client) (name : String) (value : Value) : Client :=
  { client with fields := client.fields.put name value }

/-- Hands an event to the transmission. It is dropped if it has no complete target or the client
is closed. -/
def send (event : Event) : Call Client Unit := fun client =>
  if event.target.isComplete ∧ client.isOpen then
    let next := { client with handed := client.handed + 1 }
    match client.transmission.refusal client.handed event with
    | some message => ⟨next, [], .error (.client message)⟩
    | none => ⟨next, [.sent client.number event], .ok ()⟩
  else
    ⟨client, [], .ok ()⟩

/-- Closes the transmission of an open client and starts it again, unless it refuses to close. -/
def flush : Call Client Unit := fun client =>
  let called := .called client.number .flushed
  if client.isOpen then
    match client.transmission.closeError with
    | some message =>
      ⟨client, [called, .transmission client.number .close], .error (.client message)⟩
    | none =>
      ⟨client, [called, .transmission client.number .close, .transmission client.number .start],
        .ok ()⟩
  else
    ⟨client, [called], .ok ()⟩

/-- Closes an open client. One that refuses stays open. -/
def close : Call Client Unit := fun client =>
  let called := .called client.number .closed
  if client.isOpen then
    let journal := [called, .transmission client.number .close]
    match client.transmission.closeError with
    | some message => ⟨client, journal, .error (.client message)⟩
    | none => ⟨{ client with isOpen := false }, journal, .ok ()⟩
  else
    ⟨client, [called], .ok ()⟩

end Client

/-! ## Builders -/

structure Builder where
  target : Target
  fields : Fields

namespace Builder

def ofClient (client : Client) : Builder := ⟨client.target, client.fields⟩

def set (builder : Builder) (setting : Setting) : Builder :=
  { builder with target := builder.target.set setting }

def addField (builder : Builder) (name : String) (value : Value) : Builder :=
  { builder with fields := builder.fields.put name value }

/-- The fields that every event begins with: the client's now, under the builder's. -/
def baseFields (builder : Builder) (client : Client) : Fields :=
  client.fields.putAll builder.fields.entries

end Builder

end SpanExport
