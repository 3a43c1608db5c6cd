import HostLink.Log
import HostLink.Snapshot

/-!
# Replies and settlers

A request has two ends.  Its caller holds a reply, which becomes ready at most once; whoever answers
holds a settler, which settles at most once.  A reply is ready when it was settled, when its settler
went away without settling it, or when its deadline has come; what happened to it decides before the
deadline does.  The first look at a waiting reply sets an alarm for its deadline, and later looks go
by the alarm; a new deadline takes the alarm away.

Time is counted in nanoseconds, and a deadline or an alarm has come at its very nanosecond.  That
idealizes a timer that counts milliseconds, which may wake its holder up to a millisecond late.

Replies are kept in a list in the order in which they were issued, and a ticket is a position in it.
-/

namespace HostLink

/-- A point in time, in nanoseconds from the start. -/
abbrev Instant := Nat

/-- The place of a reply in its list. -/
abbrev Ticket := Nat

/-- What has happened to a reply. -/
inductive Progress where
  | waiting
  | settled (outcome : Outcome)
  /-- The settler went away without settling. -/
  | abandoned

/-- The caller's end of a request. -/
structure Reply where
  id : CorrelationId
  progress : Progress := .waiting
  deadline : Option Instant := none
  /-- The instant of the alarm that a look has set. -/
  alarm : Option Instant := none
  /-- Whether the caller still holds it. -/
  held : Bool := true

namespace Reply

/-- Whether a deadline has come; one at `now` has. -/
def reached (now : Instant) (deadline : Option Instant) : Bool := deadline.any (· ≤ now)

/-- When a look finds the waiting reply overdue: at its alarm if there is one, else at its
deadline. -/
def due (reply : Reply) : Option Instant :=
  reply.deadline.map fun deadline => reply.alarm.getD deadline

/-- What the reply is ready with, if it is. -/
def outcome? (now : Instant) (reply : Reply) : Option Outcome :=
  match reply.progress with
  | .settled outcome => some outcome
  | .abandoned => some (.error .closed)
  | .waiting => if reached now reply.due then some (.error .timeout) else none

/-- Set the alarm, if there is a deadline. -/
def watch (reply : Reply) : Reply :=
  match reply.due with
  | some instant => { reply with alarm := some instant }
  | none => reply

/-- Settle a reply that still waits. -/
def settle (outcome : Outcome) (reply : Reply) : Reply :=
  match reply.progress with
  | .waiting => { reply with progress := .settled outcome }
  | _ => reply

/-- Give up a reply that still waits. -/
def abandon (reply : Reply) : Reply :=
  match reply.progress with
  | .waiting => { reply with progress := .abandoned }
  | _ => reply

/-- The caller lets go of the reply. -/
def release (reply : Reply) : Reply := { reply with held := false }

/-- The reply gives up at `deadline`. -/
def expireAt (deadline : Instant) (reply : Reply) : Reply :=
  { reply with deadline := some deadline, alarm := none }

/-- The caller looks at a reply, lets go of it if it is ready, and sets its alarm if it is not; a
line reports a deadline that has come. -/
def poll (now : Instant) (ticket : Ticket) (replies : List Reply) :
    Option Outcome × List Reply × List LogEvent :=
  match replies[ticket]? with
  | none => (none, replies, [])
  | some reply =>
    match reply.outcome? now, reply.progress with
    | none, _ => (none, replies.modify ticket watch, [])
    | some outcome, .waiting =>
      (some outcome, replies.modify ticket release, [.replyExpired reply.id])
    | some outcome, _ => (some outcome, replies.modify ticket release, [])

end Reply

/-- How a request is answered: with a payload, with an error value of the far side, or with an error
of this side. -/
inductive Settlement where
  | resolve (payload : Snapshot)
  | reject (error : Json)
  | fail (error : BridgeError)

/-- What the request ends with. -/
def Settlement.outcome : Settlement → Outcome
  | .resolve payload => .ok payload
  | .reject error => .error (.remote error)
  | .fail error => .error error

/-- The answering end of a request. -/
structure Settler where
  id : CorrelationId
  ticket : Ticket
  settled : Bool := false
deriving DecidableEq

namespace Settler

/-- A fresh pair: a settler, and the replies with its reply at the end. -/
def channel (id : CorrelationId) (replies : List Reply) : Settler × List Reply :=
  ({ id, ticket := replies.length }, replies ++ [{ id := id }])

/-- The line that reports the settling of a reply nobody holds. -/
def unheldLog (settler : Settler) (replies : List Reply) : List LogEvent :=
  match replies[settler.ticket]? with
  | some reply => if reply.held then [] else [.settledUnheld settler.id]
  | none => []

/-- Settle the reply, or refuse because that was done before. -/
def settle (settler : Settler) (outcome : Outcome) (replies : List Reply) :
    Except BridgeError Unit × Settler × List Reply × List LogEvent :=
  if settler.settled then (.error (.alreadySettled settler.id), settler, replies, [])
  else
    (.ok (), { settler with settled := true },
      replies.modify settler.ticket (Reply.settle outcome), settler.unheldLog replies)

/-- The settler goes away; a reply that it has not settled is given up. -/
def drop (settler : Settler) (replies : List Reply) : List Reply :=
  if settler.settled then replies else replies.modify settler.ticket Reply.abandon

end Settler
end HostLink
