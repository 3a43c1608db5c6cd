import HostLink.Proofs.Runs

/-!
# Matched bridges

Every entry of the table is the answering end of a reply that waits, and no two entries have the
same id.  This part of coherence needs no bound on the number of requests: when ids come round
again, a new request takes the place of an old one of its id, and what is left is matched as before.
So `Station.matched_run_opened` speaks of every run whatever.
-/

namespace HostLink
namespace Bridge

variable {κ : Type}

/-- The entries of the table belong to replies that wait. -/
structure Matched (bridge : Bridge κ) : Prop where
  nodup : bridge.pending.ids.Nodup
  unsettled : ∀ entry ∈ bridge.pending.entries, entry.settler.settled = false
  entry_id : ∀ entry ∈ bridge.pending.entries, entry.id = .ofTicket entry.settler.ticket
  waiting : ∀ entry ∈ bridge.pending.entries, ∃ reply,
    bridge.replies[entry.settler.ticket]? = some reply ∧ reply.progress = .waiting

theorem matched_of_new (config : Config) : ({ config } : Bridge κ).Matched := by
  constructor <;> simp [PendingTable.ids]

namespace Matched

variable {bridge after : Bridge κ}

/-- Only the replies and the table matter. -/
theorem of_same (h : bridge.Matched) (hreplies : after.replies = bridge.replies)
    (hpending : after.pending = bridge.pending) : after.Matched := by
  obtain ⟨hnodup, hunsettled, hid, hwaiting⟩ := h
  rw [← hpending] at hnodup hunsettled hid hwaiting
  rw [← hreplies] at hwaiting
  exact ⟨hnodup, hunsettled, hid, hwaiting⟩

/-- An id has one entry. -/
theorem entry_unique (h : bridge.Matched) {entry other : PendingEntry}
    (hentry : entry ∈ bridge.pending.entries) (hother : other ∈ bridge.pending.entries)
    (hid : entry.id = other.id) : entry = other :=
  List.inj_on_of_nodup_map h.nodup hentry hother hid

/-- A ticket has one entry. -/
theorem entry_of_ticket (h : bridge.Matched) {entry other : PendingEntry}
    (hentry : entry ∈ bridge.pending.entries) (hother : other ∈ bridge.pending.entries)
    (hticket : entry.settler.ticket = other.settler.ticket) : entry = other := by
  refine h.entry_unique hentry hother ?_
  rw [h.entry_id entry hentry, h.entry_id other hother, hticket]

/-- The entry of an id is the one that is found under it. -/
theorem entry?_eq_some_iff (h : bridge.Matched) {id : CorrelationId} {entry : PendingEntry} :
    bridge.pending.entry? id = some entry ↔ entry ∈ bridge.pending.entries ∧ entry.id = id := by
  refine ⟨PendingTable.mem_of_entry?, ?_⟩
  rintro ⟨hentry, rfl⟩
  cases hfound : bridge.pending.entry? entry.id with
  | none =>
    exact absurd (List.mem_map_of_mem hentry) (PendingTable.entry?_eq_none.1 hfound)
  | some found =>
    obtain ⟨hmem, hid⟩ := PendingTable.mem_of_entry? hfound
    rw [h.entry_unique hmem hentry hid]

/-- A bridge stays matched when entries go or change their deadlines, if the replies of those that
stay go on waiting. -/
theorem shrink (h : bridge.Matched)
    (hsettlers : (after.pending.entries.map PendingEntry.settler).Sublist
      (bridge.pending.entries.map PendingEntry.settler))
    (hwaiting : ∀ entry ∈ after.pending.entries, ∀ reply,
      bridge.replies[entry.settler.ticket]? = some reply → reply.progress = .waiting →
        ∃ later, after.replies[entry.settler.ticket]? = some later ∧
          later.progress = .waiting) : after.Matched := by
  have hids (b : Bridge κ) :
      b.pending.ids = (b.pending.entries.map PendingEntry.settler).map Settler.id := by
    rw [List.map_map]
    rfl
  have hold : ∀ entry ∈ after.pending.entries, ∃ old ∈ bridge.pending.entries,
      old.settler = entry.settler := fun entry hentry =>
    List.mem_map.1 (hsettlers.subset (List.mem_map_of_mem hentry))
  refine ⟨?_, fun entry hentry => ?_, fun entry hentry => ?_, fun entry hentry => ?_⟩
  · have hnodup := h.nodup
    rw [hids] at hnodup ⊢
    exact hnodup.sublist (hsettlers.map _)
  · obtain ⟨old, hmem, hsettler⟩ := hold entry hentry
    rw [← hsettler]
    exact h.unsettled old hmem
  · obtain ⟨old, hmem, hsettler⟩ := hold entry hentry
    rw [PendingEntry.id, ← hsettler]
    exact h.entry_id old hmem
  · obtain ⟨old, hmem, hsettler⟩ := hold entry hentry
    obtain ⟨reply, hreply, hprogress⟩ := h.waiting old hmem
    rw [hsettler] at hreply
    exact hwaiting entry hentry reply hreply hprogress

/-! ### The sweep -/

/-- A sweep settles the replies of the overdue entries, and no others. -/
theorem replies_expireOverdue (h : bridge.Matched) (now : Instant) (ticket : Ticket) :
    (bridge.expireOverdue now).1.replies[ticket]? = (bridge.replies[ticket]?).map fun reply =>
      if ∃ entry ∈ bridge.pending.entries,
          entry.overdue now = true ∧ entry.settler.ticket = ticket then
        { reply with progress := .settled (.error .timeout) }
      else reply := by
  rw [getElem?_replies_expireOverdue h.unsettled]
  cases hreply : bridge.replies[ticket]? with
  | none => rfl
  | some reply =>
    simp only [Option.map_some]
    split
    · next hexpired =>
      obtain ⟨entry, hentry, -, rfl⟩ := hexpired
      obtain ⟨found, hfound, hwaiting⟩ := h.waiting entry hentry
      obtain rfl := Option.some.inj (hfound.symm.trans hreply)
      rw [Reply.settle_of_waiting hwaiting]
    · rfl

theorem expireOverdue (h : bridge.Matched) (now : Instant) :
    (bridge.expireOverdue now).1.Matched := by
  refine h.shrink ?_ fun entry hentry reply hreply hwaiting => ?_
  · rw [pending_expireOverdue]
    exact List.filter_sublist.map _
  · rw [pending_expireOverdue, PendingTable.mem_kept_iff] at hentry
    have hkept : ¬∃ other ∈ bridge.pending.entries,
        other.overdue now = true ∧ other.settler.ticket = entry.settler.ticket := by
      rintro ⟨other, hother, hoverdue, hticket⟩
      rw [h.entry_of_ticket hother hentry.1 hticket, hentry.2] at hoverdue
      cases hoverdue
    rw [h.replies_expireOverdue, hreply, Option.map_some, if_neg hkept]
    exact ⟨reply, rfl, hwaiting⟩

/-! ### The other operations on requests -/

theorem answered (h : bridge.Matched) (id : CorrelationId) (outcome : Outcome) :
    (bridge.answered id outcome).Matched := by
  cases hfound : bridge.pending.entry? id with
  | none => rwa [answered_of_not_found hfound]
  | some entry =>
    obtain ⟨hentry, hid⟩ := PendingTable.mem_of_entry? hfound
    rw [answered_of_found hfound (h.unsettled entry hentry)]
    refine h.shrink (List.filter_sublist.map _) fun other hother reply hreply hwaiting => ?_
    obtain ⟨hmem, hne⟩ := PendingTable.mem_erase.1 hother
    have hticket : entry.settler.ticket ≠ other.settler.ticket := by
      intro hsame
      rw [h.entry_of_ticket hentry hmem hsame] at hid
      exact hne hid
    rw [List.getElem?_modify, hreply]
    exact ⟨_, congrArg some (if_neg hticket), hwaiting⟩

/-- A look at a reply and letting go of it leave what has happened to it. -/
theorem modify_reply (h : bridge.Matched) (ticket : Ticket) {f : Reply → Reply}
    (hprogress : ∀ reply, (f reply).progress = reply.progress) :
    Matched { bridge with replies := bridge.replies.modify ticket f } := by
  refine h.shrink (List.Sublist.refl _) fun entry _ reply hreply hwaiting => ?_
  rw [List.getElem?_modify, hreply]
  refine ⟨_, rfl, ?_⟩
  beta_reduce
  split
  · exact (hprogress reply).trans hwaiting
  · exact hwaiting

theorem poll (h : bridge.Matched) (now : Instant) (ticket : Ticket) :
    (bridge.poll now ticket).2.1.Matched := by
  cases hreply : bridge.replies[ticket]? with
  | none => rwa [poll_of_none hreply]
  | some reply =>
    cases hready : reply.outcome? now with
    | none =>
      rw [poll_of_pending hreply hready]
      exact h.modify_reply ticket Reply.watch_progress
    | some outcome =>
      rw [poll_of_ready hreply hready]
      have hreleased := h.modify_reply ticket (f := Reply.release) fun _ => rfl
      split
      · exact hreleased.shrink (List.filter_sublist.map _) fun _ _ later hlater hwaiting =>
          ⟨later, hlater, hwaiting⟩
      · exact hreleased

theorem arm (h : bridge.Matched) (now : Instant) (ticket : Ticket) (timeout : Nanoseconds) :
    (bridge.arm now ticket timeout).Matched := by
  cases hreply : bridge.replies[ticket]? with
  | none => rwa [arm_of_none hreply]
  | some armed =>
    have hsettlers : ((bridge.pending.setDeadline armed.id (now + timeout)).entries.map
        PendingEntry.settler) = bridge.pending.entries.map PendingEntry.settler := by
      rw [PendingTable.setDeadline, List.map_map]
      refine List.map_congr_left fun entry _ => ?_
      rw [Function.comp]
      split <;> rfl
    rw [arm_of_some hreply]
    refine h.shrink ?_ fun entry _ reply hreply hwaiting => ?_
    · rw [hsettlers]
    · rw [List.getElem?_modify, hreply]
      refine ⟨_, rfl, ?_⟩
      beta_reduce
      split <;> exact hwaiting

theorem close (bridge : Bridge κ) : bridge.close.Matched := by
  constructor <;> simp [Bridge.close, PendingTable.ids]

/-! ### Sending -/

/-- One more reply changes nothing for those that wait. -/
theorem append_reply (h : bridge.Matched) (reply : Reply) :
    Matched { bridge with replies := bridge.replies ++ [reply] } := by
  refine h.shrink (List.Sublist.refl _) fun entry _ old hold hwaiting => ?_
  have hlt := (List.getElem?_eq_some_iff.1 hold).1
  exact ⟨old, (List.getElem?_append_left hlt).trans hold, hwaiting⟩

/-- A new request takes the place of an old one of its id, if there is one. -/
theorem openRequest (h : bridge.Matched) : bridge.openRequest.2.Matched := by
  -- An old entry of the id is gone before the new one is added, so the ids stay different.
  have hold : ∀ entry ∈ (bridge.pending.erase bridge.nextId).entries,
      entry ∈ bridge.pending.entries := fun entry hentry => (PendingTable.mem_erase.1 hentry).1
  have hmem {entry : PendingEntry} (hentry : entry ∈ bridge.openRequest.2.pending.entries) :
      entry ∈ bridge.pending.entries ∨
        entry = { settler := { id := bridge.nextId, ticket := bridge.replies.length } } := by
    rcases List.mem_append.1 hentry with hentry | hentry
    · exact .inl (hold entry hentry)
    · exact .inr (List.mem_singleton.1 hentry)
  refine ⟨?_, fun entry hentry => ?_, fun entry hentry => ?_, fun entry hentry => ?_⟩
  · rw [Bridge.openRequest, Settler.channel]
    dsimp only
    rw [PendingTable.ids_register]
    refine List.Nodup.append (h.nodup.filter _) (List.nodup_singleton _) ?_
    simp [List.disjoint_singleton]
  · rcases hmem hentry with hentry | rfl
    · exact h.unsettled entry hentry
    · rfl
  · rcases hmem hentry with hentry | rfl
    · exact h.entry_id entry hentry
    · rfl
  · rcases hmem hentry with hentry | rfl
    · exact (h.append_reply { id := bridge.nextId }).waiting entry hentry
    · exact ⟨{ id := bridge.nextId }, List.getElem?_concat_length, rfl⟩

theorem send (h : bridge.Matched) (transport : Transport) (now : Instant) (command : String)
    (payload : Datum) (timeout : Option Nanoseconds) :
    (bridge.send transport now command payload timeout).bridge.Matched := by
  have huntimed : (bridge.sendUntimed transport command payload).bridge.Matched := by
    unfold sendUntimed
    split
    · unfold postRequest
      dsimp only
      split
      · exact h.openRequest
      · rw [withdraw_eq]
        exact h.openRequest.answered _ _
    · exact h.append_reply _
  simp only [Bridge.send]
  split
  · exact huntimed.arm _ _ _
  · exact huntimed

end Matched
end Bridge

namespace Station

variable {κ : Type}

/-- Every operation keeps the bridge matched. -/
theorem matched_perform {station : Station κ} (h : station.bridge.Matched)
    (operation : Operation κ) : (station.perform operation).bridge.Matched := by
  cases operation with
  | send command payload timeout => exact h.send _ _ _ _ _
  | receive text =>
    simp only [perform, Bridge.receive]
    split
    · dsimp only
      rw [Bridge.settle_eq]
      exact (h.expireOverdue _).answered _ _
    · exact h
    · exact h
    · exact h
  | subscribe event callback =>
    obtain ⟨registry, heq⟩ := subscribe_bridge station.bridge station.transport event callback
    rw [show (station.perform (.subscribe event callback)).bridge = _ from heq]
    exact h.of_same rfl rfl
  | unsubscribe id => exact h.of_same rfl rfl
  | pendingCount => exact h.expireOverdue _
  | isPending id => exact h.expireOverdue _
  | poll ticket => exact h.poll _ _
  | arm ticket timeout => exact h.arm _ _ _
  | release ticket => exact h.modify_reply _ fun _ => rfl
  | close => exact .close _
  | sendSync command payload => exact h
  | dispatch event payload => exact h
  | advance time => exact h
  | carry transport => exact h

theorem matched_run_opened (config : Config) (transport : Transport) (now : Instant)
    (operations : List (Operation κ)) :
    ((opened config transport now).run operations).bridge.Matched :=
  run_induction (motive := fun station => station.bridge.Matched)
    (fun _ operation h => matched_perform h operation) (Bridge.matched_of_new config) operations

end Station
end HostLink
