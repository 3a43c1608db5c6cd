import HostLink.Proofs.Timeline

/-!
# Both ends of a request keep one deadline

The deadline of a request stands in two places, in its entry of the table and in its reply, and once
somebody has looked at the reply the alarm is a third.  Each of the three is written by another call
and read by another: the sweep goes by the entry, the first look by the reply, and later looks by
the alarm.

The reference is the list of the clocks that the calls of a run have started for a request
(`armings`), which knows nothing of tables and replies.  `Station.deadlines_agree` proves that all
three show the deadline of the last one, so that a sweep takes the request at exactly the instants
at which a look at its reply would find it timed out.  The bound on the number of requests is where
ids begin to repeat, which a bridge does not handle: a new timeout for an old request would then
move the deadline in the entry of the request that has its id now.
-/

namespace HostLink

/-! ## The reference model -/

/-- The clock of a request was started. -/
structure Arming where
  time : Instant
  timeout : Nanoseconds

namespace Arming

/-- When the time is over. -/
def deadline (arming : Arming) : Instant := arming.time + arming.timeout

end Arming

namespace Operation

variable {κ : Type}

/-- The clock that an operation at `now` starts for the request of a ticket, when `issued` requests
were sent before.  A send starts the clock of the new request if it comes with a timeout or one is
configured, and a request can be given a new timeout once it was sent. -/
def arming? (config : Config) (ticket : Ticket) (now : Instant) (issued : Nat) :
    Operation κ → Option Arming
  | .send _ _ timeout =>
    if issued = ticket then (timeout <|> config.requestTimeout).map (⟨now, ·⟩) else none
  | .arm other timeout => if other = ticket ∧ ticket < issued then some ⟨now, timeout⟩ else none
  | _ => none

/-- How many requests an operation sends. -/
def sends (operation : Operation κ) : Nat := if operation.isSend then 1 else 0

end Operation

/-- The clocks that a run starts for the request of a ticket, in order. -/
def armings {κ : Type} (config : Config) (ticket : Ticket) (now : Instant) (issued : Nat) :
    List (Operation κ) → List Arming
  | [] => []
  | operation :: rest =>
    (operation.arming? config ticket now issued).toList ++
      armings config ticket (now + operation.elapsed) (issued + operation.sends) rest

/-! ## What one operation does to a deadline -/

namespace Bridge

variable {κ : Type} {bridge after : Bridge κ}

/-- The deadline of a reply, if there is one. -/
def deadline? (bridge : Bridge κ) (ticket : Ticket) : Option Instant :=
  (bridge.replies[ticket]?).bind Reply.deadline

theorem deadline?_of_some {ticket : Ticket} {reply : Reply}
    (h : bridge.replies[ticket]? = some reply) : bridge.deadline? ticket = reply.deadline := by
  rw [deadline?, h]
  rfl

/-- A change of the replies that leaves their deadlines. -/
theorem deadline?_of_map {ticket : Ticket} {f : Reply → Reply}
    (h : after.replies[ticket]? = (bridge.replies[ticket]?).map f)
    (hf : ∀ reply, (f reply).deadline = reply.deadline) :
    after.deadline? ticket = bridge.deadline? ticket := by
  rw [deadline?, deadline?, h, Option.bind_map]
  exact congrArg _ (funext hf)

theorem deadline?_expireOverdue (coherent : bridge.Coherent)
    (bound : bridge.replies.length ≤ UInt64.size) (now : Instant) (ticket : Ticket) :
    (bridge.expireOverdue now).1.deadline? ticket = bridge.deadline? ticket := by
  refine deadline?_of_map (coherent.replies_expireOverdue bound now ticket) fun reply => ?_
  split
  · exact Reply.settle_deadline _ _
  · rfl

theorem deadline?_answered (coherent : bridge.Coherent)
    (bound : bridge.replies.length ≤ UInt64.size) (id : CorrelationId) (outcome : Outcome)
    (ticket : Ticket) :
    (bridge.answered id outcome).deadline? ticket = bridge.deadline? ticket := by
  refine deadline?_of_map (coherent.replies_answered bound id outcome ticket) fun reply => ?_
  split
  · exact Reply.settle_deadline _ _
  · rfl

theorem deadline?_receive (coherent : bridge.Coherent)
    (bound : bridge.replies.length ≤ UInt64.size) (now : Instant) (text : String)
    (ticket : Ticket) : (bridge.receive now text).1.deadline? ticket = bridge.deadline? ticket := by
  unfold receive
  split
  · dsimp only
    rw [settle_eq, deadline?_answered (coherent.expireOverdue bound now)
      ((sameAround_expireOverdue bridge now).length.symm ▸ bound),
      deadline?_expireOverdue coherent bound]
  · rfl
  · rfl
  · rfl

/-- A look at a reply leaves its deadline, and so does letting go of it. -/
theorem deadline?_poll (bridge : Bridge κ) (now : Instant) (looked ticket : Ticket) :
    (bridge.poll now looked).2.1.deadline? ticket = bridge.deadline? ticket := by
  cases hlooked : bridge.replies[looked]? with
  | none => rw [poll_of_none hlooked]
  | some reply =>
    cases hready : reply.outcome? now with
    | none =>
      rw [poll_of_pending hlooked hready]
      refine deadline?_of_map (List.getElem?_modify _ _ _ _) fun reply => ?_
      split
      · exact Reply.watch_deadline reply
      · rfl
    | some outcome =>
      rw [poll_of_ready hlooked hready]
      refine deadline?_of_map (List.getElem?_modify _ _ _ _) fun reply => ?_
      split <;> rfl

theorem deadline?_close (coherent : bridge.Coherent) (bound : bridge.replies.length ≤ UInt64.size)
    (ticket : Ticket) : bridge.close.deadline? ticket = bridge.deadline? ticket := by
  refine deadline?_of_map (coherent.replies_close bound ticket) fun reply => ?_
  split
  · unfold Reply.abandon
    split <;> rfl
  · rfl

/-- Starting the clock of a request sets the deadline of its reply, and no other. -/
theorem deadline?_arm (bridge : Bridge κ) (now : Instant) (armed ticket : Ticket)
    (timeout : Nanoseconds) :
    (bridge.arm now armed timeout).deadline? ticket =
      if armed = ticket ∧ ticket < bridge.replies.length then some (now + timeout)
      else bridge.deadline? ticket := by
  rw [deadline?, replies_arm, List.getElem?_modify, deadline?]
  by_cases hsame : armed = ticket
  · subst hsame
    rcases Nat.lt_or_ge armed bridge.replies.length with hlt | hge
    · rw [if_pos ⟨rfl, hlt⟩, List.getElem?_eq_getElem hlt]
      simp [Reply.expireAt]
    · rw [if_neg fun h => Nat.not_lt_of_ge hge h.2, List.getElem?_eq_none hge]
      rfl
  · simp [hsame]

/-- A new request begins with the deadline that its send gives it. -/
theorem deadline?_withRequest (bridge : Bridge κ) (failure : Option BridgeError)
    (deadline : Option Instant) (ticket : Ticket) :
    (bridge.withRequest failure deadline).deadline? ticket =
      if bridge.replies.length = ticket then deadline else bridge.deadline? ticket := by
  obtain ⟨last, hlast, hreplies⟩ : ∃ last : Reply, last.deadline = deadline ∧
      (bridge.withRequest failure deadline).replies = bridge.replies ++ [last] := by
    cases failure <;> exact ⟨_, rfl, rfl⟩
  rw [deadline?, hreplies, deadline?]
  rcases Nat.lt_trichotomy ticket bridge.replies.length with hlt | rfl | hgt
  · rw [List.getElem?_append_left hlt, if_neg (Nat.ne_of_gt hlt)]
  · rw [List.getElem?_concat_length, if_pos rfl]
    exact hlast
  · rw [List.getElem?_eq_none (by rw [List.length_append]; exact hgt),
      List.getElem?_eq_none (Nat.le_of_lt hgt), if_neg (Nat.ne_of_lt hgt)]

end Bridge

namespace Station

variable {κ : Type} {station : Station κ}

/-- An operation that starts a clock sets the deadline by it, and any other leaves the deadline as
it was. -/
theorem deadline?_perform (coherent : station.bridge.Coherent) (operation : Operation κ)
    (bound : (station.perform operation).bridge.replies.length ≤ UInt64.size) (ticket : Ticket) :
    (station.perform operation).bridge.deadline? ticket =
      ((operation.arming? station.bridge.config ticket station.now
          station.bridge.replies.length).map Arming.deadline).or
        (station.bridge.deadline? ticket) := by
  have hlength := station.length_replies_perform operation
  have hbefore : station.bridge.replies.length ≤ UInt64.size := by omega
  cases operation with
  | send command payload timeout =>
    have hroom : station.bridge.replies.length < UInt64.size := by
      rw [hlength] at bound
      exact bound
    rw [show (station.perform (.send command payload timeout)).bridge = _ from
      Bridge.send_bridge (coherent.fresh hroom) _ _ _ _ _, Bridge.deadline?_withRequest]
    simp only [Operation.arming?]
    split
    · next hnew =>
      have hnone : station.bridge.deadline? ticket = none := by
        rw [Bridge.deadline?, List.getElem?_eq_none (Nat.le_of_eq hnew)]
        rfl
      rw [hnone, Option.or_none, Option.map_map]
      rfl
    · rfl
  | receive text => exact Bridge.deadline?_receive coherent hbefore _ _ _
  | poll looked => exact Bridge.deadline?_poll _ _ _ _
  | pendingCount => exact Bridge.deadline?_expireOverdue coherent hbefore _ _
  | isPending id => exact Bridge.deadline?_expireOverdue coherent hbefore _ _
  | arm armed timeout =>
    refine (Bridge.deadline?_arm _ _ _ _ _).trans ?_
    simp only [Operation.arming?]
    split <;> rfl
  | release released =>
    refine Bridge.deadline?_of_map (List.getElem?_modify _ _ _ _) fun reply => ?_
    split <;> rfl
  | subscribe event callback =>
    obtain ⟨registry, heq⟩ := subscribe_bridge station.bridge station.transport event callback
    rw [show (station.perform (.subscribe event callback)).bridge = _ from heq]
    rfl
  | close => exact Bridge.deadline?_close coherent hbefore _
  | unsubscribe id => rfl
  | sendSync command payload => rfl
  | dispatch event payload => rfl
  | advance time => rfl
  | carry transport => rfl

/-- The last clock that a run starts sets the deadline. -/
theorem deadline?_run (coherent : station.bridge.Coherent) {operations : List (Operation κ)}
    (bound : (station.run operations).bridge.replies.length ≤ UInt64.size) (ticket : Ticket) :
    (station.run operations).bridge.deadline? ticket =
      ((armings station.bridge.config ticket station.now station.bridge.replies.length
          operations).getLast?.map Arming.deadline).or
        (station.bridge.deadline? ticket) := by
  induction operations generalizing station with
  | nil => rfl
  | cons operation rest ih =>
    rw [run_cons] at bound ⊢
    have hgrown := length_replies_run (station.perform operation) rest
    have hbound : (station.perform operation).bridge.replies.length ≤ UInt64.size := by omega
    have hlength : (station.perform operation).bridge.replies.length =
        station.bridge.replies.length + operation.sends := station.length_replies_perform operation
    rw [ih (coherent_perform coherent operation hbound) bound,
      deadline?_perform coherent operation hbound, config_perform, now_perform, hlength, armings,
      List.getLast?_append, Option.map_or, Option.or_assoc]
    cases operation.arming? station.bridge.config ticket station.now
      station.bridge.replies.length <;> rfl

/-! ## The law -/

/-- The three copies of the deadline of a listed request agree with the clock that was started
last. -/
structure OnTime (station : Station κ) (ticket : Ticket) (reply : Reply) (entry : PendingEntry)
    (last : Option Arming) : Prop where
  entry_deadline : entry.deadline = last.map Arming.deadline
  reply_deadline : reply.deadline = last.map Arming.deadline
  alarm : ∀ instant, reply.alarm = some instant → last.map Arming.deadline = some instant
  /-- At every instant, a sweep takes the request exactly if a look at its reply finds the
  timeout. -/
  expires_together : ∀ time : Instant,
    entry.settler ∈ (station.bridge.pending.takeExpired time).1 ↔
      (station.bridge.poll time ticket).1 = some (.error .timeout)

/-- In every state of every run with at most `2 ^ 64` requests: what the table and the reply of a
listed request hold of its deadline is the deadline of the clock that was started last, and the
sweep and the caller's look find the request overdue at the same instants. -/
theorem deadlines_agree (config : Config) (transport : Transport) (now : Instant)
    {operations : List (Operation κ)} (few : operations.countP Operation.isSend ≤ UInt64.size)
    {final : Station κ} (hfinal : (opened config transport now).run operations = final)
    {ticket : Ticket} {reply : Reply} (hreply : final.bridge.replies[ticket]? = some reply)
    {entry : PendingEntry} (hentry : final.bridge.pending.entry? reply.id = some entry) :
    final.OnTime ticket reply entry (armings config ticket now 0 operations).getLast? := by
  have coherent : final.bridge.Coherent := hfinal ▸ coherent_run_opened config transport now few
  have bound : final.bridge.replies.length ≤ UInt64.size := by
    rw [← hfinal, length_replies_run_opened]
    exact few
  have hlast : reply.deadline =
      (armings config ticket now 0 operations).getLast?.map Arming.deadline := by
    subst hfinal
    rw [← Bridge.deadline?_of_some hreply,
      deadline?_run (Bridge.coherent_of_new config) bound ticket]
    exact Option.or_none
  -- The entry of the reply's id is the one with the reply's ticket.
  obtain ⟨hlisted, hid⟩ := PendingTable.mem_of_entry? hentry
  have hlists : final.bridge.Lists ticket := by
    rw [Bridge.Lists, ← coherent.reply_id hreply, ← hid]
    exact List.mem_map_of_mem hlisted
  obtain ⟨other, hother, -, hotherId, hwaiting, hdeadline⟩ :=
    coherent.entry_of_lists bound hreply hlists
  obtain rfl : entry = other := by
    refine coherent.entry_unique hlisted hother ?_
    rw [hid, coherent.reply_id hreply, hotherId]
  refine ⟨hdeadline ▸ hlast, hlast, fun instant halarm => ?_, fun time => ?_⟩
  · rw [← hlast]
    exact coherent.punctual hreply instant halarm
  · have hsweep : entry.settler ∈ (final.bridge.pending.takeExpired time).1 ↔
        entry.overdue time = true := by
      rw [PendingTable.mem_expired_iff]
      refine ⟨?_, fun hoverdue => ⟨entry, hlisted, hoverdue, rfl⟩⟩
      rintro ⟨taken, htaken, hoverdue, hsettler⟩
      rwa [coherent.entry_unique htaken hlisted (congrArg Settler.id hsettler)] at hoverdue
    have hlook : (final.bridge.poll time ticket).1 =
        if entry.overdue time then some (.error .timeout) else none := by
      rw [Bridge.poll_fst, hreply, Option.bind_some, Reply.outcome?, hwaiting,
        (coherent.punctual hreply).due_eq, hdeadline]
      rfl
    rw [hsweep, hlook]
    cases entry.overdue time <;> simp

/-- A configured timeout, a longer one and a shorter one, with looks in between: the last counts,
also for the alarm. -/
theorem deadlines_agree_of_shorter_timeout :
    let config : Config := { requestTimeoutMs := some 1 }
    let operations : List (Operation Unit) :=
      [.send "first" .absent none, .poll 0, .advance 5, .arm 0 3000000, .poll 0, .advance 3,
        .arm 0 20, .poll 0]
    let final := (opened config { id := "host", medium := .memory {} } 0).run operations
    ∃ reply entry, final.bridge.replies[0]? = some reply ∧
      final.bridge.pending.entry? reply.id = some entry ∧ reply.alarm = some 28 ∧
      entry.deadline = some 28 := by
  intro config operations final
  have hfound : ((final.bridge.replies[0]?).bind fun reply =>
      final.bridge.pending.entry? reply.id).isSome = true := by decide +kernel
  obtain ⟨entry, hentry⟩ := Option.isSome_iff_exists.1 hfound
  obtain ⟨reply, hreply, hentry⟩ := Option.bind_eq_some_iff.1 hentry
  have few : operations.countP Operation.isSend ≤ UInt64.size := by decide
  have hontime := deadlines_agree config { id := "host", medium := .memory {} } 0 few rfl hreply
    hentry
  have halarm : (final.bridge.replies[0]?).map Reply.alarm = some (some 28) := by decide +kernel
  rw [hreply] at halarm
  exact ⟨reply, entry, hreply, hentry, Option.some.inj halarm, hontime.entry_deadline⟩

end Station
end HostLink
