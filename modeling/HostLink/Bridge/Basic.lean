import HostLink.Config
import HostLink.Pending
import HostLink.Registry

/-!
# Bridges

A bridge matches replies to the requests of one native extension and fans events out to their
subscribers.  It owns the replies it has issued, the table of those that wait, and the
subscriptions.  The number of replies issued so far is also the next correlation id, so no id is
given out twice.

This module has what needs neither a transport nor a message: expiry, the caller's look at a reply,
and closing.  Operations give the bridge they leave behind and the log they wrote.
-/

namespace HostLink

/-- A bridge with callbacks of type `κ`. -/
structure Bridge (κ : Type) where
  config : Config
  /-- All replies issued so far, one per send. -/
  replies : List Reply := []
  pending : PendingTable := {}
  registry : Registry κ := {}
  /-- Whether anyone still holds the bridge. -/
  live : Bool := true

namespace Bridge

variable {κ : Type}

/-- The id of the next request. -/
def nextId (bridge : Bridge κ) : CorrelationId := ⟨UInt64.ofNat bridge.replies.length⟩

/-- The name of the extension. -/
def extension (bridge : Bridge κ) : String := bridge.config.extension

/-! ## Settling and expiry -/

/-- Settle the reply of a settler that was taken out of the table. -/
def settleWith (bridge : Bridge κ) (settler : Settler) (outcome : Outcome) :
    Bridge κ × List LogEvent :=
  let (_, _, replies, log) := settler.settle outcome bridge.replies
  ({ bridge with replies }, log)

/-- Fail the replies of expired requests, one after the other. -/
def failExpired (bridge : Bridge κ) : List Settler → Bridge κ × List LogEvent
  | [] => (bridge, [])
  | settler :: rest =>
    let (settled, log) := bridge.settleWith settler (.error .timeout)
    let (final, more) := settled.failExpired rest
    (final, .requestExpired bridge.extension settler.id :: log ++ more)

/-- Fail every request whose deadline has come. -/
def expireOverdue (bridge : Bridge κ) (now : Instant) : Bridge κ × List LogEvent :=
  let (expired, pending) := bridge.pending.takeExpired now
  { bridge with pending }.failExpired expired

/-- The number of requests that wait, after expiry. -/
def pendingCount (bridge : Bridge κ) (now : Instant) : Nat × Bridge κ × List LogEvent :=
  let (bridge, log) := bridge.expireOverdue now
  (bridge.pending.size, bridge, log)

/-- Whether a request waits under `id`, after expiry. -/
def isPending (bridge : Bridge κ) (now : Instant) (id : CorrelationId) :
    Bool × Bridge κ × List LogEvent :=
  let (bridge, log) := bridge.expireOverdue now
  (bridge.pending.contains id, bridge, log)

/-! ## The caller's end -/

/-- Let a reply expire `timeout` from now, in the table as well as at the caller's end. -/
def arm (bridge : Bridge κ) (now : Instant) (ticket : Ticket) (timeout : Nanoseconds) :
    Bridge κ :=
  match bridge.replies[ticket]? with
  | none => bridge
  | some reply =>
    { bridge with
      replies := bridge.replies.modify ticket (Reply.expireAt (now + timeout))
      pending := bridge.pending.setDeadline reply.id (now + timeout) }

/-- The caller looks at a reply and lets go of it if it is ready.  A reply that is found overdue
leaves the table, so an answer that comes later is stale. -/
def poll (bridge : Bridge κ) (now : Instant) (ticket : Ticket) :
    Option Outcome × Bridge κ × List LogEvent :=
  let (outcome, replies, log) := Reply.poll now ticket bridge.replies
  let pending := match outcome, bridge.replies[ticket]? with
    | some _, some reply =>
      match reply.progress with
      | .waiting => bridge.pending.erase reply.id
      | _ => bridge.pending
    | _, _ => bridge.pending
  (outcome, { bridge with replies, pending }, log)

/-- The caller lets go of a reply; the request goes on waiting. -/
def release (bridge : Bridge κ) (ticket : Ticket) : Bridge κ :=
  { bridge with replies := bridge.replies.modify ticket Reply.release }

/-! ## The end of a bridge -/

/-- Nobody holds the bridge any more: replies that wait are given up, and subscriptions end. -/
def close (bridge : Bridge κ) : Bridge κ :=
  { bridge with
    replies := bridge.pending.entries.foldl (fun replies entry => entry.settler.drop replies)
      bridge.replies
    pending := {}
    registry := { bridge.registry with subscriptions := [] }
    live := false }

/-- Take away a subscription; whether there was one. -/
def unsubscribe (bridge : Bridge κ) (id : SubscriptionId) : Bool × Bridge κ :=
  (bridge.registry.contains id, { bridge with registry := bridge.registry.erase id })

end Bridge
end HostLink
