import HostLink.Bridge.Inbound
import HostLink.Bridge.Outbound

/-!
# Bridges at work

A `Station` is a bridge with what it looks at: the clock and its transport.  An `Operation` is one
call of the bridge or of one of its replies, or a change that comes from outside, and a run is a
list of them in the order in which they happen.

Every operation is over before the next one starts, and that holds for calls from inside callbacks
too: handling a message ends with the list of callbacks to call, so what a callback does to the
bridge comes behind the message that called it.  A run with re-entrant calls is therefore the list
of its operations in order, and `HostLink.Proofs.Sessions` shows that every session, scripts of
callbacks included, takes each of its bridges through such a run.

The native side may change the transport at any time and in any way: it goes offline, takes
messages, closes the endpoint.  One operation, `Operation.carry`, stands for all of that.
-/

namespace HostLink

/-- A bridge, the clock that it reads, and the transport that it posts on. -/
structure Station (κ : Type) where
  now : Instant
  transport : Transport
  bridge : Bridge κ

/-- What happens at a station. -/
inductive Operation (κ : Type) where
  | send (command : String) (payload : Datum) (timeout : Option Nanoseconds)
  | sendSync (command : String) (payload : Datum)
  | receive (text : String)
  | dispatch (event : String) (payload : Json)
  | subscribe (event : String) (callback : κ)
  | unsubscribe (id : SubscriptionId)
  | pendingCount
  | isPending (id : CorrelationId)
  | poll (ticket : Ticket)
  | arm (ticket : Ticket) (timeout : Nanoseconds)
  | release (ticket : Ticket)
  | advance (time : Nanoseconds)
  /-- The transport changes from outside. -/
  | carry (transport : Transport)
  /-- Nobody holds the bridge any more. -/
  | close

namespace CorrelationId

/-- The id of the request whose reply has this ticket. -/
def ofTicket (ticket : Ticket) : CorrelationId := ⟨UInt64.ofNat ticket⟩

/-- Below `2 ^ 64` requests no two of them have the same id. -/
theorem ofTicket_inj {a b : Ticket} (ha : a < UInt64.size) (hb : b < UInt64.size) :
    ofTicket a = ofTicket b ↔ a = b := by
  constructor
  · intro h
    have hvalue : (UInt64.ofNat a).toNat = (UInt64.ofNat b).toNat :=
      congrArg (fun id : CorrelationId => id.value.toNat) h
    rwa [UInt64.toNat_ofNat_of_lt' ha, UInt64.toNat_ofNat_of_lt' hb] at hvalue
  · rintro rfl
    rfl

end CorrelationId

namespace Station

variable {κ : Type}

/-- A bridge that was just opened. -/
def opened (config : Config) (transport : Transport) (now : Instant) : Station κ :=
  { now, transport, bridge := { config } }

/-- The station behind an operation of its bridge on the transport. -/
def acted {α : Type} (station : Station κ) (acted : Acted κ α) : Station κ :=
  { station with transport := acted.transport, bridge := acted.bridge }

/-- The station behind one operation. -/
def perform (station : Station κ) : Operation κ → Station κ
  | .send command payload timeout =>
    station.acted
      (station.bridge.send station.transport station.now command payload timeout)
  | .sendSync command payload =>
    { station with
      transport :=
        (Bridge.sendSync station.bridge.config station.transport command payload).2 }
  | .receive text =>
    { station with bridge := (station.bridge.receive station.now text).1 }
  | .dispatch _ _ => station
  | .subscribe event callback =>
    station.acted (station.bridge.subscribe station.transport event callback)
  | .unsubscribe id => { station with bridge := (station.bridge.unsubscribe id).2 }
  | .pendingCount => { station with bridge := (station.bridge.pendingCount station.now).2.1 }
  | .isPending id => { station with bridge := (station.bridge.isPending station.now id).2.1 }
  | .poll ticket => { station with bridge := (station.bridge.poll station.now ticket).2.1 }
  | .arm ticket timeout =>
    { station with bridge := station.bridge.arm station.now ticket timeout }
  | .release ticket => { station with bridge := station.bridge.release ticket }
  | .advance time => { station with now := station.now + time }
  | .carry transport => { station with transport }
  | .close => { station with bridge := station.bridge.close }

/-- The station behind a run. -/
def run (station : Station κ) (operations : List (Operation κ)) : Station κ :=
  operations.foldl perform station

@[simp] theorem run_nil (station : Station κ) : station.run [] = station := rfl

@[simp] theorem run_cons (station : Station κ) (operation : Operation κ)
    (rest : List (Operation κ)) :
    station.run (operation :: rest) = (station.perform operation).run rest := rfl

theorem run_append (station : Station κ) (before after : List (Operation κ)) :
    station.run (before ++ after) = (station.run before).run after :=
  List.foldl_append

/-- What every operation keeps, a run keeps. -/
theorem run_induction {motive : Station κ → Prop}
    (step : ∀ station operation, motive station → motive (station.perform operation))
    {station : Station κ} (start : motive station) (operations : List (Operation κ)) :
    motive (station.run operations) := by
  induction operations generalizing station with
  | nil => exact start
  | cons operation rest ih => exact ih (step station operation start)

end Station

namespace Operation

variable {κ : Type}

/-- Whether the operation sends a request. -/
def isSend : Operation κ → Bool
  | .send .. => true
  | _ => false

end Operation
end HostLink
