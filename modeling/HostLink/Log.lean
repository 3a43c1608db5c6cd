import HostLink.Error

/-!
# The log

Bridges and transports report what they do as log events.  An event names its cause; its level and
its line are functions of the cause.
-/

namespace HostLink

/-- How much a log line matters. -/
inductive LogLevel where
  | trace
  | debug
  | info
  | warn
  | error
deriving DecidableEq

/-- A reported happening.  `extension` is the name in the bridge's configuration and `transport` the
name of its transport. -/
inductive LogEvent where
  | transportCreated (transport : String)
  | bridgeReady (extension transport : String)
  /-- A message came in after the bridge was gone. -/
  | bridgeGone
  | requestRejected (extension : String) (id : CorrelationId) (command : String)
      (error : BridgeError)
  | requestSent (extension : String) (id : CorrelationId) (command : String)
  | posted (transport message : String)
  | postFailed (extension command : String) (error : BridgeError)
  | faultReported (extension : String) (value : Json)
  | inboundMalformed (extension : String) (error : BridgeError)
  /-- A reply came in for a request that is not pending. -/
  | replyStale (extension : String) (id : CorrelationId)
  | subscribeRejected (extension : String) (error : BridgeError)
  | eventActivated (extension event : String)
  | noSubscribers (extension event : String)
  /-- A bridge found a request overdue. -/
  | requestExpired (extension : String) (id : CorrelationId)
  /-- The holder of a reply found it overdue. -/
  | replyExpired (id : CorrelationId)
  /-- A request was settled although nobody holds its reply any more. -/
  | settledUnheld (id : CorrelationId)
  | delivered (transport message : String)
  | pumpStarted (transport : String)
  | pumpStopped (transport : String)

namespace LogEvent

/-- The level of an event. -/
def level : LogEvent → LogLevel
  | .bridgeReady .. => .info
  | .requestRejected .. | .faultReported .. | .inboundMalformed .. | .subscribeRejected .. => .warn
  | .postFailed .. => .error
  | .requestSent .. | .posted .. | .noSubscribers .. | .delivered .. => .trace
  | .transportCreated .. | .bridgeGone | .replyStale .. | .eventActivated .. | .requestExpired ..
  | .replyExpired .. | .settledUnheld .. | .pumpStarted .. | .pumpStopped .. => .debug

/-- The line of an event. -/
def text : LogEvent → String
  | .transportCreated transport => transport ++ ": create memory transport"
  | .bridgeReady extension transport => extension ++ ": bridge ready on transport " ++ transport
  | .bridgeGone => "bridge dropped, ignoring inbound message"
  | .requestRejected extension id command error =>
    extension ++ ": request " ++ id.text ++ " (" ++ command ++ ") rejected: " ++ error.message
  | .requestSent extension id command =>
    extension ++ ": send " ++ command ++ " as request " ++ id.text
  | .posted transport message => transport ++ ": post " ++ message
  | .postFailed extension command error =>
    extension ++ ": failed to post " ++ command ++ ": " ++ error.message
  | .faultReported extension value =>
    extension ++ ": native side reported: " ++ value.compact
  | .inboundMalformed extension error =>
    extension ++ ": dropping inbound message: " ++ error.message
  | .replyStale extension id =>
    extension ++ ": no pending request for id " ++ id.text ++ ", dropped"
  | .subscribeRejected extension error =>
    extension ++ ": subscribe rejected: " ++ error.message
  | .eventActivated extension event => extension ++ ": activated event " ++ event
  | .noSubscribers extension event => extension ++ ": no subscribers for " ++ event
  | .requestExpired extension id => extension ++ ": request " ++ id.text ++ " timed out"
  | .replyExpired id => "request " ++ id.text ++ " timed out"
  | .settledUnheld id => "request " ++ id.text ++ " settled after its future was dropped"
  | .delivered transport message => transport ++ ": deliver " ++ message
  | .pumpStarted transport => transport ++ ": inbound pump started"
  | .pumpStopped transport => transport ++ ": inbound pump stopped, native side closed"

end LogEvent

/-! ## The order of expiries

Requests that expire together are found in no particular order, so a log lists them by id: every
unbroken run of expiries is sorted, and a line on an unheld reply stays behind the expiry that it
belongs to. -/

/-- An expiry with the lines on unheld replies behind it. -/
structure Expiry where
  extension : String
  id : CorrelationId
  tail : List LogEvent

namespace Expiry

/-- The lines of an expiry. -/
def events (expiry : Expiry) : List LogEvent :=
  .requestExpired expiry.extension expiry.id :: expiry.tail

end Expiry

/-- The lines of a run of expiries, by id. -/
def flushRun (run : List Expiry) : List LogEvent :=
  (run.mergeSort fun a b => a.id.value ≤ b.id.value).flatMap Expiry.events

/-- A log with every unbroken run of expiries in the order of ids; `run` is the run that ends where
the log starts. -/
def sortExpiriesAfter (run : List Expiry) : List LogEvent → List LogEvent
  | [] => flushRun run
  | .requestExpired extension id :: rest => sortExpiriesAfter (run ++ [⟨extension, id, []⟩]) rest
  | .settledUnheld id :: rest =>
    match run.getLast? with
    | none => .settledUnheld id :: sortExpiriesAfter [] rest
    | some last =>
      sortExpiriesAfter (run.dropLast ++ [{ last with tail := last.tail ++ [.settledUnheld id] }])
        rest
  | event :: rest => flushRun run ++ event :: sortExpiriesAfter [] rest

/-- A log with every unbroken run of expiries in the order of ids. -/
def sortExpiries (log : List LogEvent) : List LogEvent := sortExpiriesAfter [] log

end HostLink
