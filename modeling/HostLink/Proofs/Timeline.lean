import Mathlib
import HostLink.Proofs.Continuity

/-!
# The timeline of a request

Four paths take a request out of the table and settle it: a reply message, the sweep of overdue
requests, the caller's own look at an overdue reply, and a failed post.  They may come in any order
with messages, clock steps and looks, and still the outcome is that of a reference model which knows
nothing of tables: `verdict` looks for the first reply message for the request that is handled
strictly before the deadline, and if there is none it looks at the clock.

`Station.timeline_law` proves that the holder of a posted request sees exactly the verdict.  The
induction is on the operations after the send.  What carries it is that a request either waits in
the table with its deadline, or has been decided in the way that the verdict already fixes.
-/

namespace HostLink

/-! ## The reference model -/

/-- A reply message that came in, with the instant at which it was handled. -/
structure Arrival where
  time : Instant
  id : CorrelationId
  outcome : Except Json Json

namespace Operation

variable {κ : Type}

/-- The reply message that an operation at `now` brings. -/
def arrival? (wire : WireFormat) (now : Instant) : Operation κ → Option Arrival
  | .receive text =>
    match Inbound.parse wire text with
    | .ok (.reply id outcome) => some ⟨now, id, outcome⟩
    | _ => none
  | _ => none

/-- How far an operation moves the clock. -/
def elapsed : Operation κ → Nanoseconds
  | .advance time => time
  | _ => 0

end Operation

/-- The reply messages that come in during a run which starts at `now`, in order. -/
def arrivals {κ : Type} (wire : WireFormat) (now : Instant) : List (Operation κ) → List Arrival
  | [] => []
  | operation :: rest =>
    (operation.arrival? wire now).toList ++ arrivals wire (now + operation.elapsed) rest

/-- What the request `id` has come to at `now`: the first reply message for it strictly before its
deadline decides, else the deadline once it has come, and else nothing has. -/
def verdict (id : CorrelationId) (deadline : Option Instant) (arrivals : List Arrival)
    (now : Instant) : Option Outcome :=
  match arrivals.find? fun arrival =>
      arrival.id = id ∧ Reply.reached arrival.time deadline = false with
  | some arrival => some (frozenOutcome arrival.outcome)
  | none => if Reply.reached now deadline then some (.error .timeout) else none

theorem reached_mono {earlier later : Instant} {deadline : Option Instant} (h : earlier ≤ later)
    (hreached : Reply.reached earlier deadline = true) : Reply.reached later deadline = true := by
  cases deadline with
  | none => cases hreached
  | some deadline =>
    exact decide_eq_true (Nat.le_trans (of_decide_eq_true hreached) h)

theorem le_time_of_mem_arrivals {κ : Type} {wire : WireFormat} {operations : List (Operation κ)}
    {now : Instant} {arrival : Arrival} (h : arrival ∈ arrivals wire now operations) :
    now ≤ arrival.time := by
  induction operations generalizing now with
  | nil => cases h
  | cons operation rest ih =>
    rcases List.mem_append.1 h with h | h
    · rw [Option.mem_toList] at h
      have htime : arrival.time = now := by
        unfold Operation.arrival? at h
        split at h
        · split at h
          · rw [← Option.some.inj h]
          · cases h
        · cases h
      exact Nat.le_of_eq htime.symm
    · exact Nat.le_trans (Nat.le_add_right _ _) (ih h)

/-- Once the deadline has come nothing that arrives can change the verdict. -/
theorem verdict_of_reached {κ : Type} {wire : WireFormat} {operations : List (Operation κ)}
    {start now : Instant} {deadline : Option Instant} (id : CorrelationId)
    (hreached : Reply.reached start deadline = true) (hle : start ≤ now) :
    verdict id deadline (arrivals wire start operations) now = some (.error .timeout) := by
  have hnone : (arrivals wire start operations).find? (fun arrival =>
      decide (arrival.id = id ∧ Reply.reached arrival.time deadline = false)) = none := by
    rw [List.find?_eq_none]
    intro arrival harrival
    have hlate := reached_mono (le_time_of_mem_arrivals harrival) hreached
    simp [hlate]
  rw [verdict, hnone]
  exact if_pos (reached_mono hle hreached)

namespace Station

variable {κ : Type} {station : Station κ} {ticket : Ticket} {deadline : Option Instant}

/-! ## What one operation does to a request -/

/-- The caller still holds the reply. -/
def Holds (station : Station κ) (ticket : Ticket) : Prop :=
  ∃ reply, station.bridge.replies[ticket]? = some reply ∧ reply.held = true

/-- What the caller holds after a run was held before. -/
theorem Holds.of_run {operations : List (Operation κ)}
    (held : (station.run operations).Holds ticket) {reply : Reply}
    (hreply : station.bridge.replies[ticket]? = some reply) : reply.held = true := by
  obtain ⟨last, hlast, hheld⟩ := held
  obtain ⟨later, hlater, hfollows⟩ := continues_run station operations ticket reply hreply
  rw [hlast] at hlater
  obtain rfl := Option.some.inj hlater
  exact hfollows.held hheld

/-- The request waits in the table for its deadline. -/
def Waits (station : Station κ) (ticket : Ticket) (deadline : Option Instant) : Prop :=
  ∃ reply, station.bridge.replies[ticket]? = some reply ∧ reply.progress = .waiting ∧
    reply.deadline = deadline ∧ station.bridge.Lists ticket

/-- The request was settled. -/
def Decided (station : Station κ) (ticket : Ticket) (outcome : Outcome) : Prop :=
  ∃ reply, station.bridge.replies[ticket]? = some reply ∧ reply.progress = .settled outcome

/-- What may become of a waiting request in one operation: it goes on waiting and the operation
brought no answer to it in time, its holder has let go of it, its deadline had come and it has timed
out, or it is settled by an answer in time. -/
inductive Turn (wire : WireFormat) (station : Station κ) (operation : Operation κ)
    (ticket : Ticket) (deadline : Option Instant) : Prop where
  | waits (waits : (station.perform operation).Waits ticket deadline)
      (unanswered : ∀ arrival, operation.arrival? wire station.now = some arrival →
        ¬(arrival.id = .ofTicket ticket ∧ Reply.reached arrival.time deadline = false))
  | released (released : ¬(station.perform operation).Holds ticket)
  | expired (reached : Reply.reached station.now deadline = true)
      (timedOut : (station.perform operation).Decided ticket (.error .timeout))
  | answered (outcome : Except Json Json)
      (arrived : operation.arrival? wire station.now =
        some ⟨station.now, .ofTicket ticket, outcome⟩)
      (early : Reply.reached station.now deadline = false)
      (settled : (station.perform operation).Decided ticket (frozenOutcome outcome))

/-- A sweep lets a request time out whose deadline has come, and leaves it waiting else. -/
theorem waits_or_decided_sweep (coherent : station.bridge.Coherent)
    (bound : station.bridge.replies.length ≤ UInt64.size) (h : station.Waits ticket deadline) :
    let swept : Station κ :=
      { station with bridge := (station.bridge.expireOverdue station.now).1 }
    (Reply.reached station.now deadline = false ∧ swept.Waits ticket deadline) ∨
      (Reply.reached station.now deadline = true ∧ swept.Decided ticket (.error .timeout) ∧
        ¬swept.bridge.Lists ticket) := by
  obtain ⟨reply, hreply, hwaiting, rfl, hlists⟩ := h
  have hafter := coherent.replies_expireOverdue bound station.now ticket
  have hlisted := coherent.lists_expireOverdue bound station.now hreply
  rw [hreply, Option.map_some] at hafter
  cases hreached : Reply.reached station.now reply.deadline with
  | false =>
    rw [hreached, if_neg (by simp)] at hafter
    exact .inl ⟨rfl, reply, hafter, hwaiting, rfl, hlisted.2 ⟨hlists, hreached⟩⟩
  | true =>
    rw [hreached, if_pos ⟨hlists, rfl⟩, Reply.settle_of_waiting hwaiting] at hafter
    refine .inr ⟨rfl, ⟨_, hafter, rfl⟩, fun hstill => ?_⟩
    have hopen := (hlisted.1 hstill).2
    rw [hreached] at hopen
    cases hopen

theorem turn_receive (coherent : station.bridge.Coherent)
    (bound : station.bridge.replies.length ≤ UInt64.size) (text : String)
    (h : station.Waits ticket deadline) :
    Turn station.bridge.config.wire station (.receive text) ticket deadline := by
  cases hparse : Inbound.parse station.bridge.config.wire text with
  | error cause =>
    refine .waits ?_ fun arrival harrival => ?_
    · simpa only [Waits, perform, Bridge.receive, hparse] using h
    · simp only [Operation.arrival?, hparse] at harrival
      cases harrival
  | ok inbound =>
    cases inbound with
    | event name body =>
      refine .waits ?_ fun arrival harrival => ?_
      · simpa only [Waits, perform, Bridge.receive, hparse] using h
      · simp only [Operation.arrival?, hparse] at harrival
        cases harrival
    | fault error =>
      refine .waits ?_ fun arrival harrival => ?_
      · simpa only [Waits, perform, Bridge.receive, hparse] using h
      · simp only [Operation.arrival?, hparse] at harrival
        cases harrival
    | reply id outcome =>
      have harrival : (Operation.receive (κ := κ) text).arrival? station.bridge.config.wire
          station.now = some ⟨station.now, id, outcome⟩ := by
        simp only [Operation.arrival?, hparse]
      have hbridge : (station.perform (.receive text)).bridge =
          (station.bridge.expireOverdue station.now).1.answered id (frozenOutcome outcome) := by
        simp only [perform, Bridge.receive, hparse]
        exact Bridge.settle_eq _ _ _ _
      have hswept := coherent.expireOverdue bound station.now
      have hsweptBound : (station.bridge.expireOverdue station.now).1.replies.length ≤
          UInt64.size := by
        rw [(Bridge.sameAround_expireOverdue _ _).length]
        exact bound
      have hreplies := hswept.replies_answered hsweptBound id (frozenOutcome outcome) ticket
      rcases waits_or_decided_sweep coherent bound h with
        ⟨hearly, reply, hreply, hwaiting, hdeadline, hlists⟩ |
        ⟨hreached, ⟨reply, hreply, hprogress⟩, hunlisted⟩
      · dsimp only at hreply hlists
        rw [hreply, Option.map_some] at hreplies
        by_cases hid : CorrelationId.ofTicket ticket = id
        · rw [if_pos ⟨hlists, hid⟩, Reply.settle_of_waiting hwaiting] at hreplies
          exact .answered outcome (by rw [harrival, hid]) hearly
            ⟨_, by rw [hbridge]; exact hreplies, rfl⟩
        · rw [if_neg fun hand => hid hand.2] at hreplies
          refine .waits ⟨reply, by rw [hbridge]; exact hreplies, hwaiting, hdeadline, ?_⟩ ?_
          · rw [hbridge, Bridge.Coherent.lists_answered]
            exact ⟨hlists, hid⟩
          · intro arrival hother hand
            rw [harrival] at hother
            obtain rfl := Option.some.inj hother
            exact hid hand.1.symm
      · dsimp only at hreply hunlisted
        rw [hreply, Option.map_some, if_neg fun hand => hunlisted hand.1] at hreplies
        exact .expired hreached ⟨reply, by rw [hbridge]; exact hreplies, hprogress⟩

theorem turn_poll (coherent : station.bridge.Coherent)
    (bound : station.bridge.replies.length ≤ UInt64.size) (other : Ticket)
    (h : station.Waits ticket deadline) (wire : WireFormat) :
    Turn wire station (.poll other) ticket deadline := by
  obtain ⟨reply, hreply, hwaiting, hdeadline, hlists⟩ := h
  cases hother : station.bridge.replies[other]? with
  | none =>
    have hbridge : (station.perform (.poll other)).bridge = station.bridge :=
      congrArg (fun looked => looked.2.1) (Bridge.poll_of_none hother)
    refine .waits ⟨reply, ?_, hwaiting, hdeadline, ?_⟩ fun _ => nofun
    · rw [hbridge]
      exact hreply
    · rw [hbridge]
      exact hlists
  | some looked =>
    cases hready : looked.outcome? station.now with
    | none =>
      have hbridge := congrArg (fun looked => looked.2.1) (Bridge.poll_of_pending hother hready)
      refine .waits ⟨if other = ticket then reply.watch else reply, ?_, ?_, ?_, ?_⟩ fun _ => nofun
      · rw [show (station.perform (.poll other)).bridge = _ from hbridge]
        exact (List.getElem?_modify _ _ _ _).trans (by rw [hreply]; rfl)
      · split
        · rwa [Reply.watch_progress]
        · exact hwaiting
      · split
        · rwa [Reply.watch_deadline]
        · exact hdeadline
      · rw [show (station.perform (.poll other)).bridge = _ from hbridge]
        exact hlists
    | some outcome =>
      have hbridge := Bridge.poll_of_ready hother hready
      by_cases hsame : other = ticket
      · subst hsame
        refine .released ?_
        rintro ⟨last, hlast, hheld⟩
        rw [show (station.perform (.poll other)).bridge = _ from hbridge] at hlast
        rw [List.getElem?_modify_eq, hother] at hlast
        rw [← Option.some.inj hlast] at hheld
        cases hheld
      · refine .waits ⟨reply, ?_, hwaiting, hdeadline, ?_⟩ fun _ => nofun
        · rw [show (station.perform (.poll other)).bridge = _ from hbridge]
          rw [List.getElem?_modify_ne _ _ hsame]
          exact hreply
        · rw [show (station.perform (.poll other)).bridge = _ from hbridge]
          simp only [Bridge.Lists]
          split
          · have hlt := (List.getElem?_eq_some_iff.1 hreply).1
            have hlt' := (List.getElem?_eq_some_iff.1 hother).1
            rw [PendingTable.ids_erase, coherent.reply_id hother]
            have hne : CorrelationId.ofTicket ticket ≠ .ofTicket other := fun heq =>
              hsame ((CorrelationId.ofTicket_inj (Nat.lt_of_lt_of_le hlt bound)
                (Nat.lt_of_lt_of_le hlt' bound)).1 heq).symm
            simpa using ⟨hlists, hne⟩
          · exact hlists

theorem turn_send (coherent : station.bridge.Coherent)
    (room : station.bridge.replies.length < UInt64.size) (command : String) (payload : Datum)
    (timeout : Option Nanoseconds) (h : station.Waits ticket deadline) (wire : WireFormat) :
    Turn wire station (.send command payload timeout) ticket deadline := by
  obtain ⟨reply, hreply, hwaiting, hdeadline, hlists⟩ := h
  have hlt := (List.getElem?_eq_some_iff.1 hreply).1
  have hsent : (station.perform (.send command payload timeout)).bridge = _ :=
    Bridge.send_bridge (coherent.fresh room) station.transport station.now command payload timeout
  refine .waits ⟨reply, ?_, hwaiting, hdeadline, ?_⟩ fun _ => nofun
  · rw [hsent]
    cases station.bridge.sendError? station.transport command payload <;>
      exact (List.getElem?_append_left hlt).trans hreply
  · rw [hsent]
    cases station.bridge.sendError? station.transport command payload with
    | some error => exact hlists
    | none =>
      rw [Bridge.Lists, Bridge.withRequest, PendingTable.ids, List.map_append]
      exact List.mem_append_left _ hlists

/-- Restarting another clock leaves the request alone. -/
theorem turn_arm {other : Ticket} (hne : other ≠ ticket) (timeout : Nanoseconds)
    (h : station.Waits ticket deadline) (wire : WireFormat) :
    Turn wire station (.arm other timeout) ticket deadline := by
  obtain ⟨reply, hreply, hwaiting, hdeadline, hlists⟩ := h
  refine .waits ⟨reply, ?_, hwaiting, hdeadline, ?_⟩ fun _ => nofun
  · rw [perform, Bridge.replies_arm, List.getElem?_modify_ne _ _ hne]
    exact hreply
  · unfold perform Bridge.Lists
    dsimp only
    cases hother : station.bridge.replies[other]? with
    | none => rwa [Bridge.arm_of_none hother]
    | some armed =>
      rw [Bridge.arm_of_some hother, PendingTable.ids_setDeadline]
      exact hlists

theorem turn_release (other : Ticket) (h : station.Waits ticket deadline) (wire : WireFormat) :
    Turn wire station (.release other) ticket deadline := by
  obtain ⟨reply, hreply, hwaiting, hdeadline, hlists⟩ := h
  by_cases hsame : other = ticket
  · subst hsame
    refine .released ?_
    rintro ⟨last, hlast, hheld⟩
    rw [perform, Bridge.release, List.getElem?_modify_eq, hreply] at hlast
    rw [← Option.some.inj hlast] at hheld
    cases hheld
  · refine .waits ⟨reply, ?_, hwaiting, hdeadline, hlists⟩ fun arrival harrival => ?_
    · rw [perform, Bridge.release, List.getElem?_modify_ne _ _ hsame]
      exact hreply
    · cases harrival

/-- Each operation gives a waiting request one of the four turns, unless it restarts its clock or
closes the bridge. -/
theorem turn_perform (coherent : station.bridge.Coherent) (operation : Operation κ)
    (bound : (station.perform operation).bridge.replies.length ≤ UInt64.size)
    (unclosed : operation ≠ .close)
    (unarmed : ∀ timeout, operation ≠ .arm ticket timeout) (h : station.Waits ticket deadline) :
    Turn station.bridge.config.wire station operation ticket deadline := by
  have hlength := station.length_replies_perform operation
  have hbefore : station.bridge.replies.length ≤ UInt64.size := by omega
  have hsweep (hbridge : (station.perform operation).bridge =
      (station.bridge.expireOverdue station.now).1)
      (hnone : operation.arrival? station.bridge.config.wire station.now = none) :
      Turn station.bridge.config.wire station operation ticket deadline := by
    rcases waits_or_decided_sweep coherent hbefore h with ⟨-, hwaits⟩ | ⟨hreached, hdecided, -⟩
    · refine .waits ?_ fun arrival harrival => ?_
      · unfold Waits
        rw [hbridge]
        exact hwaits
      · rw [hnone] at harrival
        cases harrival
    · refine .expired hreached ?_
      unfold Decided
      rw [hbridge]
      exact hdecided
  cases operation with
  | receive text => exact turn_receive coherent hbefore text h
  | poll other => exact turn_poll coherent hbefore other h _
  | pendingCount => exact hsweep rfl rfl
  | isPending id => exact hsweep rfl rfl
  | send command payload timeout =>
    rw [hlength] at bound
    exact turn_send coherent bound command payload timeout h _
  | arm other timeout =>
    have hne : other ≠ ticket := fun heq => unarmed timeout (heq ▸ rfl)
    exact turn_arm hne timeout h _
  | release other => exact turn_release other h _
  | subscribe event callback =>
    obtain ⟨registry, heq⟩ := subscribe_bridge station.bridge station.transport event callback
    refine .waits ?_ fun _ => nofun
    unfold Waits
    rw [show (station.perform (.subscribe event callback)).bridge = _ from heq]
    exact h
  | close => exact absurd rfl unclosed
  | unsubscribe id => exact .waits h fun _ => nofun
  | sendSync command payload => exact .waits h fun _ => nofun
  | dispatch event payload => exact .waits h fun _ => nofun
  | advance time => exact .waits h fun _ => nofun
  | carry transport => exact .waits h fun _ => nofun

theorem now_perform (station : Station κ) (operation : Operation κ) :
    (station.perform operation).now = station.now + operation.elapsed := by
  cases operation <;> rfl

/-! ## The law -/

/-- The outcome of a request that was decided stays. -/
theorem poll_run_of_decided {outcome : Outcome} (h : station.Decided ticket outcome)
    (operations : List (Operation κ)) :
    ((station.run operations).bridge.poll (station.run operations).now ticket).1 =
      some outcome := by
  obtain ⟨reply, hreply, hprogress⟩ := h
  obtain ⟨later, hlater, hfollows⟩ := continues_run station operations ticket reply hreply
  have hsame : later.progress = .settled outcome := by
    rw [hfollows.progress (by rw [hprogress]; exact nofun), hprogress]
  rw [Bridge.poll_fst, hlater]
  simp [Reply.outcome?, hsame]

/-- A request that waits comes to its verdict. -/
theorem poll_run_of_waits (coherent : station.bridge.Coherent) {operations : List (Operation κ)}
    (bound : (station.run operations).bridge.replies.length ≤ UInt64.size)
    (alive : (station.run operations).bridge.live = true)
    (unarmed : ∀ timeout, .arm ticket timeout ∉ operations)
    (held : (station.run operations).Holds ticket) (h : station.Waits ticket deadline) :
    ((station.run operations).bridge.poll (station.run operations).now ticket).1 =
      verdict (.ofTicket ticket) deadline
        (arrivals station.bridge.config.wire station.now operations)
        (station.run operations).now := by
  induction operations generalizing station with
  | nil =>
    obtain ⟨reply, hreply, hwaiting, rfl, -⟩ := h
    rw [Bridge.poll_fst, run_nil, hreply]
    simp [Reply.outcome?, hwaiting, (coherent.punctual hreply).due_eq, verdict, arrivals]
  | cons operation rest ih =>
    rw [run_cons] at bound alive held ⊢
    have hgrown := length_replies_run (station.perform operation) rest
    have hbound : (station.perform operation).bridge.replies.length ≤ UInt64.size := by omega
    have hcoherent := coherent_perform coherent operation hbound
    have hunarmed : ∀ timeout, operation ≠ .arm ticket timeout := by
      rintro timeout rfl
      exact unarmed timeout List.mem_cons_self
    have hunclosed : operation ≠ .close := by
      rintro rfl
      exact absurd (live_of_live_run alive) Bool.false_ne_true
    rcases turn_perform coherent operation hbound hunclosed hunarmed h with
      ⟨hwaits, hunanswered⟩ | hreleased | ⟨hreached, htimedOut⟩ |
      ⟨outcome, harrived, hearly, hsettled⟩
    · have hrest := ih hcoherent bound alive
        (fun timeout hmem => unarmed timeout (List.mem_cons_of_mem _ hmem)) held hwaits
      rw [hrest, config_perform, now_perform]
      unfold verdict
      rw [arrivals, List.find?_append]
      cases harrival : operation.arrival? station.bridge.config.wire station.now with
      | none => rfl
      | some arrival =>
        have hskip : [arrival].find? (fun arrival =>
            decide (arrival.id = .ofTicket ticket ∧
              Reply.reached arrival.time deadline = false)) = none := by
          rw [List.find?_singleton]
          exact if_neg (by simpa using hunanswered arrival harrival)
        rw [Option.toList_some, hskip]
        rfl
    · obtain ⟨reply, hreply, -⟩ := h
      obtain ⟨next, hnext, -⟩ := continues_perform station operation ticket reply hreply
      exact absurd ⟨next, hnext, held.of_run hnext⟩ hreleased
    · rw [poll_run_of_decided htimedOut]
      refine (verdict_of_reached _ hreached ?_).symm
      exact Nat.le_trans (now_le_perform station operation) (now_le_run _ _)
    · rw [poll_run_of_decided hsettled]
      unfold verdict
      rw [arrivals, harrived, Option.toList_some, List.singleton_append,
        List.find?_cons_of_pos (by simpa using hearly)]

/-- In every run of a bridge that stays alive, with fewer than `2 ^ 64` requests: the reply of a
request that was posted, as long as it is held and its clock is not restarted, shows the verdict of
the messages that have come in since. -/
theorem timeline_law (config : Config) (transport : Transport) (now : Instant)
    {before after : List (Operation κ)} {command text : String} {payload : Datum}
    {timeout : Option Nanoseconds} {sent final : Station κ}
    (hsent : (opened config transport now).run before = sent)
    (hfinal : sent.run (.send command payload timeout :: after) = final)
    (few : (before ++ .send command payload timeout :: after).countP Operation.isSend < UInt64.size)
    (alive : final.bridge.live = true)
    (encoded : Bridge.encodeRequest config sent.bridge.nextId command payload = .ok text)
    (posted : (sent.transport.post text).1 = .ok ())
    (unarmed : ∀ time, .arm sent.bridge.replies.length time ∉ after)
    (held : final.Holds sent.bridge.replies.length) :
    (final.bridge.poll final.now sent.bridge.replies.length).1 =
      verdict sent.bridge.nextId (sent.bridge.sendDeadline sent.now timeout)
        (arrivals config.wire sent.now after) final.now := by
  have hconfig : sent.bridge.config = config := by
    rw [← hsent, config_run]
    rfl
  have hbound : final.bridge.replies.length ≤ UInt64.size := by
    rw [← hfinal, ← hsent, ← run_append, length_replies_run_opened]
    exact Nat.le_of_lt few
  have hroom : sent.bridge.replies.length < UInt64.size := by
    rw [List.countP_append, List.countP_cons_of_pos rfl] at few
    rw [← hsent, length_replies_run_opened]
    omega
  have hcoherent : sent.bridge.Coherent := by
    rw [← hsent, length_replies_run_opened] at hroom
    rw [← hsent]
    exact coherent_run_opened config transport now (Nat.le_of_lt hroom)
  have herror : sent.bridge.sendError? sent.transport command payload = none := by
    simp [Bridge.sendError?, hconfig, encoded, posted]
  have hsend := Bridge.send_bridge (hcoherent.fresh hroom) sent.transport sent.now command payload
    timeout
  rw [herror] at hsend
  have hbridge : (sent.perform (.send command payload timeout)).bridge = _ := hsend
  have hwaits : (sent.perform (.send command payload timeout)).Waits sent.bridge.replies.length
      (sent.bridge.sendDeadline sent.now timeout) := by
    refine ⟨_, by rw [hbridge]; exact List.getElem?_concat_length, rfl, rfl, ?_⟩
    rw [hbridge, Bridge.Lists, Bridge.withRequest, PendingTable.ids, List.map_append]
    exact List.mem_append_right _ (List.mem_singleton.2 rfl)
  have hafter : (sent.perform (.send command payload timeout)).bridge.Coherent := by
    rw [hbridge]
    exact hcoherent.withRequest hroom _ _
  subst hfinal
  have hlaw := poll_run_of_waits hafter hbound alive unarmed held hwaits
  rw [config_perform, hconfig, now_perform] at hlaw
  exact hlaw

/-- A request that waits for ten nanoseconds is answered after three, behind an answer to another
request, and its holder looks only when the deadline is over. -/
theorem timeline_law_of_answer_in_time :
    let sent : Station Unit :=
      (opened {} { id := "host", medium := .memory {} } 0).run [.send "first" .absent none]
    let after : List (Operation Unit) :=
      [.advance 3, .receive "\x7b\"_promise_id\":\"0\"\x7d",
        .receive "\x7b\"_promise_id\":\"1\",\"data\":true\x7d", .advance 20]
    let final := sent.run (.send "second" .absent (some 10) :: after)
    (final.bridge.poll final.now sent.bridge.replies.length).1 =
      some (frozenOutcome (.ok (.bool true))) := by
  intro sent after final
  have hheld : (final.bridge.replies[sent.bridge.replies.length]?.any Reply.held) = true := by
    decide +kernel
  obtain ⟨reply, hreply, hreplyHeld⟩ := (Option.any_eq_true _ _).1 hheld
  have hsent : (opened {} { id := "host", medium := .memory {} } 0).run
      [.send "first" .absent none] = sent := rfl
  have hfinal : sent.run (.send "second" .absent (some 10) :: after) = final := rfl
  have hencoded : Bridge.encodeRequest {} sent.bridge.nextId "second" .absent =
      .ok "\x7b\"_promise_id\":\"1\",\"cmd\":\"second\"\x7d" := by
    cbv
  have hlaw := timeline_law {} { id := "host", medium := .memory {} } 0 hsent hfinal (by decide)
    (by decide +kernel) hencoded (by cbv) (by simp [after]) ⟨reply, hreply, hreplyHeld⟩
  rw [hlaw]
  cbv

end Station
end HostLink
