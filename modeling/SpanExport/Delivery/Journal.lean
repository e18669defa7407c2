import SpanExport.Event.Basic

/-!
# The journal

What calls did to the world outside, in the order in which they did it: clients made and asked
to flush or close, what their transmissions did then, events handed over, and lines logged.
-/

namespace SpanExport

structure ClientRequest where
  writekey : Value
  dataset : Value
  apiHost : Value
  userAgent : String
  debug : Value

/-- What is asked of a client. -/
inductive ClientCall where
  | opened
  | flushed
  | closed
deriving DecidableEq

/-- What the transmission under a client does. -/
inductive TransmissionCall where
  | start
  | close
deriving DecidableEq

inductive LogLevel where
  | debug
  | info
  | warning
  | error
deriving DecidableEq

/-- An entry names the client it is about by its number. -/
inductive Entry where
  | requested (request : ClientRequest)
  | called (client : Nat) (call : ClientCall)
  | transmission (client : Nat) (call : TransmissionCall)
  | sent (client : Nat) (event : Event)
  | logged (level : LogLevel) (message : String)

abbrev Journal := List Entry

namespace Journal

def requests (journal : Journal) : List ClientRequest :=
  journal.filterMap fun | .requested request => some request | _ => none

def sent (journal : Journal) : List (Nat × Event) :=
  journal.filterMap fun | .sent client event => some (client, event) | _ => none

def events (journal : Journal) : List Event := journal.sent.map Prod.snd

def clientCalls (journal : Journal) : List (Nat × ClientCall) :=
  journal.filterMap fun | .called client call => some (client, call) | _ => none

def transmissionCalls (journal : Journal) : List TransmissionCall :=
  journal.filterMap fun | .transmission _ call => some call | _ => none

def logs (journal : Journal) : List (LogLevel × String) :=
  journal.filterMap fun | .logged level message => some (level, message) | _ => none

/-! ## One entry after another -/

section

variable (journal : Journal) (client : Nat) (event : Event) (call : ClientCall)
  (transmitted : TransmissionCall) (request : ClientRequest) (level : LogLevel) (message : String)

@[simp] theorem sent_nil : sent [] = [] := rfl
@[simp] theorem sent_cons_sent :
    sent (.sent client event :: journal) = (client, event) :: sent journal := rfl
@[simp] theorem sent_cons_called : sent (.called client call :: journal) = sent journal := rfl
@[simp] theorem sent_cons_transmission :
    sent (.transmission client transmitted :: journal) = sent journal := rfl
@[simp] theorem sent_cons_requested : sent (.requested request :: journal) = sent journal := rfl
@[simp] theorem sent_cons_logged : sent (.logged level message :: journal) = sent journal := rfl

@[simp] theorem clientCalls_nil : clientCalls [] = [] := rfl
@[simp] theorem clientCalls_cons_called :
    clientCalls (.called client call :: journal) = (client, call) :: clientCalls journal := rfl
@[simp] theorem clientCalls_cons_sent :
    clientCalls (.sent client event :: journal) = clientCalls journal := rfl
@[simp] theorem clientCalls_cons_transmission :
    clientCalls (.transmission client transmitted :: journal) = clientCalls journal := rfl
@[simp] theorem clientCalls_cons_requested :
    clientCalls (.requested request :: journal) = clientCalls journal := rfl
@[simp] theorem clientCalls_cons_logged :
    clientCalls (.logged level message :: journal) = clientCalls journal := rfl

end

/-! ## One journal after another -/

theorem requests_append (xs ys : Journal) : requests (xs ++ ys) = requests xs ++ requests ys :=
  List.filterMap_append

@[simp]
theorem sent_append (xs ys : Journal) : sent (xs ++ ys) = sent xs ++ sent ys :=
  List.filterMap_append

theorem events_append (xs ys : Journal) : events (xs ++ ys) = events xs ++ events ys := by
  simp [events]

@[simp]
theorem clientCalls_append (xs ys : Journal) :
    clientCalls (xs ++ ys) = clientCalls xs ++ clientCalls ys :=
  List.filterMap_append

end Journal

end SpanExport
