import HostLink.Proofs.Runs

/-!
# Every request is accounted for

A request lives in three places: the table lists it, its settler waits in the table, and the caller
holds its reply.  `Station.Accounted` says that these agree.  A listed id was given out, once, and
its settler has not settled; a held reply is pending exactly while its id is listed and its deadline
has not come; and the counts that the bridge reports are those of the requests that still wait.

`Station.requests_accounted` is the law for whole runs.  Every state of a run is accounted for, an
id that is no longer listed is never listed again, and the id of a request that failed in place is
never listed after its send.
-/

namespace HostLink
namespace Station

variable {κ : Type}

/-- No request of the station is orphaned or listed twice. -/
structure Accounted (station : Station κ) : Prop where
  /-- What is found under an id is an unsettled settler of that id, and the id was given out. -/
  listed_allocated : ∀ id entry, station.bridge.pending.entry? id = some entry →
    entry.settler.id = id ∧ entry.settler.settled = false ∧
      ∃ ticket : Ticket, ticket < station.bridge.replies.length ∧ id = .ofTicket ticket
  listed_once : station.bridge.pending.ids.Nodup
  /-- A held reply whose id is not listed is ready. -/
  ready_of_unlisted : ∀ (ticket : Ticket) reply,
    station.bridge.replies[ticket]? = some reply → reply.held = true →
      station.bridge.pending.contains reply.id = false →
        ∃ outcome, (station.bridge.poll station.now ticket).1 = some outcome
  /-- A reply whose id is listed is pending until its deadline, and then ready with the timeout. -/
  poll_of_listed : ∀ (ticket : Ticket) reply,
    station.bridge.replies[ticket]? = some reply →
      station.bridge.pending.contains reply.id = true →
        (station.bridge.poll station.now ticket).1 =
          if Reply.reached station.now reply.deadline then some (.error .timeout) else none
  /-- Letting go of a reply leaves the table as it was. -/
  release_pending : ∀ ticket : Ticket,
    (station.bridge.release ticket).pending = station.bridge.pending
  /-- The bridge counts the listed requests whose deadline has not come. -/
  pendingCount_eq : (station.bridge.pendingCount station.now).1 =
    station.bridge.pending.entries.countP fun entry => entry.deadline.all (station.now < ·)
  /-- An id is pending if it is listed and its deadline has not come. -/
  isPending_iff : ∀ id, (station.bridge.isPending station.now id).1 = true ↔
    ∃ entry ∈ station.bridge.pending.entries,
      entry.id = id ∧ entry.deadline.all (station.now < ·) = true

theorem not_reached_iff (now : Instant) (deadline : Option Instant) :
    (!Reply.reached now deadline) = deadline.all (now < ·) := by
  cases deadline with
  | none => rfl
  | some deadline =>
    simp only [Reply.reached, Option.any_some, Option.all_some, ← Nat.not_le, decide_not]

/-- A coherent station is accounted for. -/
theorem accounted_of_coherent {station : Station κ} (coherent : station.bridge.Coherent)
    (bound : station.bridge.replies.length ≤ UInt64.size) : station.Accounted := by
  have hcontains {ticket : Ticket} {reply : Reply}
      (hreply : station.bridge.replies[ticket]? = some reply) :
      station.bridge.pending.contains reply.id = true ↔ station.bridge.Lists ticket := by
    rw [PendingTable.contains_iff_mem_ids, coherent.reply_id hreply, Bridge.Lists]
  refine ⟨?_, coherent.nodup, ?_, ?_, fun _ => rfl, ?_, ?_⟩
  · intro id entry hfound
    obtain ⟨hentry, hid⟩ := PendingTable.mem_of_entry? hfound
    refine ⟨hid, coherent.unsettled entry hentry, entry.settler.ticket,
      coherent.ticket_lt hentry, ?_⟩
    rw [← hid, coherent.entry_id entry hentry]
  · intro ticket reply hreply hheld hunlisted
    have hwaiting : reply.progress ≠ .waiting := by
      intro hwaiting
      have hlists := coherent.held_listed hreply hheld hwaiting
      rw [(hcontains hreply).2 hlists] at hunlisted
      cases hunlisted
    rw [Bridge.poll_fst, hreply]
    cases hprogress : reply.progress with
    | waiting => exact absurd hprogress hwaiting
    | settled outcome => exact ⟨outcome, by simp [Reply.outcome?, hprogress]⟩
    | abandoned => exact ⟨.error .closed, by simp [Reply.outcome?, hprogress]⟩
  · intro ticket reply hreply hlisted
    obtain ⟨entry, -, -, -, hwaiting, -⟩ :=
      coherent.entry_of_lists bound hreply ((hcontains hreply).1 hlisted)
    rw [Bridge.poll_fst, hreply]
    simp [Reply.outcome?, hwaiting, (coherent.punctual hreply).due_eq]
  · simp only [Bridge.pendingCount, Bridge.pending_expireOverdue, PendingTable.size,
      PendingTable.takeExpired, List.countP_eq_length_filter]
    refine congrArg List.length (List.filter_congr fun entry _ => ?_)
    rw [← not_reached_iff, PendingEntry.overdue]
  · intro id
    simp only [Bridge.isPending, Bridge.pending_expireOverdue,
      PendingTable.contains_iff_mem_ids, PendingTable.ids, List.mem_map,
      PendingTable.mem_kept_iff]
    constructor
    · rintro ⟨entry, ⟨hentry, hkept⟩, hid⟩
      refine ⟨entry, hentry, hid, ?_⟩
      rw [← not_reached_iff]
      simpa [PendingEntry.overdue] using hkept
    · rintro ⟨entry, hentry, hid, hopen⟩
      rw [← not_reached_iff] at hopen
      exact ⟨entry, ⟨hentry, by simpa [PendingEntry.overdue] using hopen⟩, hid⟩

/-! ## Ids that have left the table -/

/-- Only sending lists an id that was not listed, and that is the next one. -/
theorem mem_ids_perform {station : Station κ} (coherent : station.bridge.Coherent)
    (operation : Operation κ)
    (bound : (station.perform operation).bridge.replies.length ≤ UInt64.size)
    {id : CorrelationId} (hid : id ∈ (station.perform operation).bridge.pending.ids) :
    id ∈ station.bridge.pending.ids ∨
      ∃ command payload timeout, operation = .send command payload timeout ∧
        id = station.bridge.nextId ∧
        station.bridge.sendError? station.transport command payload = none := by
  have hsweep {id : CorrelationId}
      (h : id ∈ (station.bridge.expireOverdue station.now).1.pending.ids) :
      id ∈ station.bridge.pending.ids := by
    rw [Bridge.pending_expireOverdue] at h
    exact (List.filter_sublist.map _).subset h
  cases operation with
  | send command payload timeout =>
    have hroom : station.bridge.replies.length < UInt64.size := by
      rw [length_replies_perform] at bound
      exact bound
    rw [show (station.perform (.send command payload timeout)).bridge = _ from
      Bridge.send_bridge (coherent.fresh hroom) _ _ _ _ _] at hid
    cases herror : station.bridge.sendError? station.transport command payload with
    | some error =>
      rw [herror] at hid
      exact .inl hid
    | none =>
      rw [herror, Bridge.withRequest, PendingTable.ids, List.map_append, List.mem_append] at hid
      rcases hid with hid | hid
      · exact .inl hid
      · exact .inr ⟨command, payload, timeout, rfl, List.mem_singleton.1 hid, herror⟩
  | receive text =>
    left
    simp only [perform, Bridge.receive] at hid
    split at hid
    · dsimp only at hid
      rw [Bridge.settle_eq, Bridge.pending_answered, PendingTable.ids_erase] at hid
      exact hsweep (List.mem_of_mem_filter hid)
    · exact hid
    · exact hid
    · exact hid
  | subscribe event callback =>
    obtain ⟨registry, heq⟩ := subscribe_bridge station.bridge station.transport event callback
    rw [show (station.perform (.subscribe event callback)).bridge = _ from heq] at hid
    exact .inl hid
  | pendingCount => exact .inl (hsweep hid)
  | isPending id => exact .inl (hsweep hid)
  | poll ticket =>
    left
    simp only [perform] at hid
    cases hreply : station.bridge.replies[ticket]? with
    | none => rwa [Bridge.poll_of_none hreply] at hid
    | some reply =>
      cases hready : reply.outcome? station.now with
      | none =>
        rw [Bridge.poll_of_pending hreply hready] at hid
        exact hid
      | some outcome =>
        rw [Bridge.poll_of_ready hreply hready] at hid
        cases hprogress : reply.progress <;> simp only [hprogress] at hid
        · rw [PendingTable.ids_erase] at hid
          exact List.mem_of_mem_filter hid
        · exact hid
        · exact hid
  | arm ticket timeout =>
    left
    simp only [perform] at hid
    cases hreply : station.bridge.replies[ticket]? with
    | none => rwa [Bridge.arm_of_none hreply] at hid
    | some reply =>
      rw [Bridge.arm_of_some hreply, PendingTable.ids_setDeadline] at hid
      exact hid
  | close => cases hid
  | unsubscribe id => exact .inl hid
  | release ticket => exact .inl hid
  | sendSync command payload => exact .inl hid
  | dispatch event payload => exact .inl hid
  | advance time => exact .inl hid
  | carry transport => exact .inl hid

/-- An id that was given out and is not listed is never listed again. -/
theorem not_mem_ids_run {station : Station κ} (coherent : station.bridge.Coherent)
    {operations : List (Operation κ)}
    (bound : (station.run operations).bridge.replies.length ≤ UInt64.size) {ticket : Ticket}
    (allocated : ticket < station.bridge.replies.length)
    (unlisted : ¬station.bridge.Lists ticket) : ¬(station.run operations).bridge.Lists ticket := by
  induction operations generalizing station with
  | nil => exact unlisted
  | cons operation rest ih =>
    rw [run_cons] at bound ⊢
    have hstep := station.length_replies_perform operation
    have hgrown := length_replies_run (station.perform operation) rest
    have hbound : (station.perform operation).bridge.replies.length ≤ UInt64.size := by omega
    refine ih (coherent_perform coherent operation hbound) bound
      (Nat.lt_of_lt_of_le allocated (by omega)) fun hlists => ?_
    rcases mem_ids_perform coherent operation hbound hlists with hold | ⟨_, _, _, rfl, hnext, -⟩
    · exact unlisted hold
    · -- The next id is that of a request still to come.
      rw [Operation.isSend, if_pos rfl] at hstep
      have hroom : station.bridge.replies.length < UInt64.size := by omega
      exact Nat.ne_of_lt allocated ((CorrelationId.ofTicket_inj
        (Nat.lt_trans allocated hroom) hroom).1 hnext)

/-! ## The law -/

/-- In every run of a bridge with fewer than `2 ^ 64` requests, whatever the transport, the native
side and the callbacks do: every state is accounted for, an id that was given out and is no longer
listed stays out of the table, and so does the id of a request that failed in place. -/
theorem requests_accounted (config : Config) (transport : Transport) (now : Instant)
    (operations : List (Operation κ)) (few : operations.countP Operation.isSend < UInt64.size) :
    ((opened config transport now).run operations).Accounted ∧
    (∀ before after, operations = before ++ after →
      ∀ ticket : Ticket, ticket < ((opened config transport now).run before).bridge.replies.length →
        ((opened config transport now).run before).bridge.pending.contains (.ofTicket ticket) =
            false →
          ((opened config transport now).run operations).bridge.pending.contains
            (.ofTicket ticket) = false) ∧
    (∀ before command payload timeout after,
      operations = before ++ .send command payload timeout :: after →
        ((opened config transport now).run before).bridge.sendError?
            ((opened config transport now).run before).transport command payload ≠ none →
          ((opened config transport now).run operations).bridge.pending.contains
            ((opened config transport now).run before).bridge.nextId = false) := by
  have hunlisted {station : Station κ} {ticket : Ticket} :
      station.bridge.pending.contains (.ofTicket ticket) = false ↔
        ¬station.bridge.Lists ticket := by
    rw [← Bool.not_eq_true, PendingTable.contains_iff_mem_ids, Bridge.Lists]
  refine ⟨?_, ?_, ?_⟩
  · have hbound := Nat.le_of_lt few
    refine accounted_of_coherent (coherent_run_opened config transport now hbound) ?_
    rw [length_replies_run_opened]
    exact hbound
  · rintro before after rfl ticket hallocated hout
    rw [List.countP_append] at few
    rw [hunlisted] at hout ⊢
    rw [run_append]
    refine not_mem_ids_run (coherent_run_opened config transport now (by omega)) ?_ hallocated hout
    rw [← run_append, length_replies_run_opened, List.countP_append]
    exact Nat.le_of_lt few
  · rintro before command payload timeout after rfl hfailed
    have hsplit : (before ++ .send command payload timeout :: after).countP Operation.isSend =
        before.countP Operation.isSend + (after.countP Operation.isSend + 1) := by
      rw [List.countP_append, List.countP_cons_of_pos rfl]
    rw [hsplit] at few
    have hbefore : ((opened config transport now).run before).bridge.Coherent :=
      coherent_run_opened config transport now (by omega)
    have hroom :
        ((opened config transport now).run before).bridge.replies.length < UInt64.size := by
      rw [length_replies_run_opened]
      omega
    have hfresh := hbefore.fresh hroom
    obtain ⟨error, herror⟩ := Option.ne_none_iff_exists'.1 hfailed
    have hsent := Bridge.send_bridge hfresh
      ((opened config transport now).run before).transport
      ((opened config transport now).run before).now command payload timeout
    rw [herror] at hsent
    rw [show ((opened config transport now).run before).bridge.nextId = .ofTicket _ from rfl,
      hunlisted, run_append, run_cons]
    refine not_mem_ids_run (coherent_perform hbefore _ ?_) ?_ ?_ ?_
    · rw [length_replies_perform]
      exact hroom
    · rw [← run_cons, ← run_append, length_replies_run_opened, hsplit]
      exact Nat.le_of_lt few
    · rw [length_replies_perform]
      exact Nat.lt_succ_self _
    · rw [Bridge.Lists, show (perform _ (.send command payload timeout)).bridge = _ from hsent]
      exact hfresh

/-- One request waits for five nanoseconds and one fails in place; later the first has timed out at
its holder's look, and the answer that comes then is stale. -/
theorem requests_accounted_of_timeout :
    let before : List (Operation Unit) :=
      [.send "first" .absent (some 5), .send "" .absent none, .advance 7, .poll 0]
    let operations := before ++ [.receive "\x7b\"_promise_id\":\"0\"\x7d"]
    let final := (opened {} { id := "host", medium := .memory {} } 0).run operations
    final.Accounted ∧ final.bridge.pending.contains (.ofTicket 0) = false ∧
      final.bridge.pending.contains (.ofTicket 1) = false := by
  intro before operations final
  obtain ⟨haccounted, hunlisted, hfailed⟩ :=
    requests_accounted {} { id := "host", medium := .memory {} } 0 operations (by decide)
  refine ⟨haccounted, ?_, ?_⟩
  · exact hunlisted before _ rfl 0 (by decide +kernel) (by decide +kernel)
  · refine hfailed [.send "first" .absent (some 5)] "" .absent none _ rfl ?_
    exact Option.isSome_iff_ne_none.1 (by decide +kernel)

end Station
end HostLink
