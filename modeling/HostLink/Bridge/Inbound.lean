import HostLink.Bridge.Basic
import HostLink.Envelope

/-!
# What a bridge receives

An inbound message settles a pending request, calls the subscribers of an event, or is reported in
the log.  The bridge's own part is a function: it gives the callbacks that are to be called, and
leaves calling them to its surroundings, where they may come back to the bridge.
-/

namespace HostLink

/-- Callbacks to be called in this order, each with the same payload. -/
structure FanOut (κ : Type) where
  callbacks : List κ
  payload : Snapshot

namespace FanOut

variable {κ : Type}

/-- Nobody is called. -/
def none : FanOut κ := ⟨[], .empty⟩

end FanOut

namespace Bridge

variable {κ : Type}

/-- The subscribers of an event at this moment, to be called with a payload; a line reports if there
are none. -/
def dispatch (bridge : Bridge κ) (event : String) (payload : Json) : List LogEvent × FanOut κ :=
  match bridge.registry.callbacks event with
  | [] => ([.noSubscribers bridge.extension event], .none)
  | callbacks => ([], { callbacks, payload := .freeze payload })

/-- Settle the request `id`, unless it is not pending or has expired. -/
def settle (bridge : Bridge κ) (now : Instant) (id : CorrelationId)
    (outcome : Except Json Json) : Bridge κ × List LogEvent :=
  let (swept, log) := bridge.expireOverdue now
  match swept.pending.take id with
  | (some settler, pending) =>
    let result := match outcome with
      | .ok payload => .ok (Snapshot.freeze payload)
      | .error error => .error (.remote error)
    let (settled, more) := { swept with pending }.settleWith settler result
    (settled, log ++ more)
  | (none, _) => (swept, log ++ [.replyStale bridge.extension id])

/-- Handle an inbound message. -/
def receive (bridge : Bridge κ) (now : Instant) (message : String) :
    Bridge κ × List LogEvent × FanOut κ :=
  match Inbound.parse bridge.config.wire message with
  | .ok (.reply id outcome) =>
    let (settled, log) := bridge.settle now id outcome
    (settled, log, .none)
  | .ok (.event name body) =>
    let (log, calls) := bridge.dispatch name body
    (bridge, log, calls)
  | .ok (.fault error) => (bridge, [.faultReported bridge.extension error], .none)
  | .error cause =>
    (bridge, [.inboundMalformed bridge.extension (.malformedEnvelope cause)], .none)

end Bridge
end HostLink
