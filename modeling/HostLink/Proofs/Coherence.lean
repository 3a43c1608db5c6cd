import HostLink.Proofs.Sending
import Mathlib.Data.List.Nodup

/-!
# Coherent bridges

A request is known in two places: the caller's end is a reply in the list of all replies, the
answering end is an entry of the table.  A bridge is *coherent* when the two tell the same story.
An entry belongs to a reply that waits and expires when the reply does, no id is listed twice, and a
reply that somebody holds waits only while its request is listed.  An alarm that a look has set is
set for the deadline.

Every operation keeps a bridge coherent as long as ids do not repeat, that is for up to `2 ^ 64`
requests (`Station.coherent_run`).  The proofs go through one lemma on operations that take entries
away (`Bridge.Coherent.shrink`); sending, which adds one, and starting the clock are on their own.
-/

namespace HostLink
namespace Bridge

variable {κ : Type}

/-- The request with this ticket is in the table. -/
def Lists (bridge : Bridge κ) (ticket : Ticket) : Prop :=
  CorrelationId.ofTicket ticket ∈ bridge.pending.ids

instance (bridge : Bridge κ) (ticket : Ticket) : Decidable (bridge.Lists ticket) :=
  inferInstanceAs (Decidable (_ ∈ _))

/-- The replies and the table of a bridge are in step. -/
structure Coherent (bridge : Bridge κ) : Prop where
  reply_id : ∀ {ticket : Ticket} {reply : Reply},
    bridge.replies[ticket]? = some reply → reply.id = .ofTicket ticket
  nodup : bridge.pending.ids.Nodup
  unsettled : ∀ entry ∈ bridge.pending.entries, entry.settler.settled = false
  entry_id : ∀ entry ∈ bridge.pending.entries, entry.id = .ofTicket entry.settler.ticket
  entry_reply : ∀ entry ∈ bridge.pending.entries, ∃ reply,
    bridge.replies[entry.settler.ticket]? = some reply ∧ reply.progress = .waiting ∧
      reply.deadline = entry.deadline
  held_listed : ∀ {ticket : Ticket} {reply : Reply}, bridge.replies[ticket]? = some reply →
    reply.held = true → reply.progress = .waiting → bridge.Lists ticket
  abandoned : ∀ {ticket : Ticket} {reply : Reply}, bridge.replies[ticket]? = some reply →
    reply.progress = .abandoned → bridge.live = false
  punctual : ∀ {ticket : Ticket} {reply : Reply}, bridge.replies[ticket]? = some reply →
    reply.Punctual

theorem coherent_of_new (config : Config) : ({ config } : Bridge κ).Coherent := by
  constructor <;> simp [PendingTable.ids]

namespace Coherent

variable {bridge after : Bridge κ}

/-! ## Entries and tickets -/

theorem ticket_lt (h : bridge.Coherent) {entry : PendingEntry}
    (hentry : entry ∈ bridge.pending.entries) : entry.settler.ticket < bridge.replies.length := by
  obtain ⟨reply, hreply, -, -⟩ := h.entry_reply entry hentry
  exact (List.getElem?_eq_some_iff.1 hreply).1

/-- An id has one entry. -/
theorem entry_unique (h : bridge.Coherent) {entry other : PendingEntry}
    (hentry : entry ∈ bridge.pending.entries) (hother : other ∈ bridge.pending.entries)
    (hid : entry.id = other.id) : entry = other :=
  List.inj_on_of_nodup_map h.nodup hentry hother hid

/-- A request that is listed has an entry with its ticket, and its reply waits as long as that
entry. -/
theorem entry_of_lists (h : bridge.Coherent) (bound : bridge.replies.length ≤ UInt64.size)
    {ticket : Ticket} {reply : Reply} (hreply : bridge.replies[ticket]? = some reply)
    (hlists : bridge.Lists ticket) :
    ∃ entry ∈ bridge.pending.entries, entry.settler.ticket = ticket ∧
      entry.id = .ofTicket ticket ∧ reply.progress = .waiting ∧
        reply.deadline = entry.deadline := by
  obtain ⟨entry, hentry, hid⟩ := List.mem_map.1 hlists
  have hticket : entry.settler.ticket = ticket := by
    have hlt := (List.getElem?_eq_some_iff.1 hreply).1
    rw [h.entry_id entry hentry] at hid
    exact (CorrelationId.ofTicket_inj (Nat.lt_of_lt_of_le (h.ticket_lt hentry) bound)
      (Nat.lt_of_lt_of_le hlt bound)).1 hid
  obtain ⟨found, hfound, hwaiting, hdeadline⟩ := h.entry_reply entry hentry
  rw [hticket, hreply] at hfound
  obtain rfl := Option.some.inj hfound
  exact ⟨entry, hentry, hticket, hid, hwaiting, hdeadline⟩

theorem lists_of_entry (h : bridge.Coherent) {entry : PendingEntry}
    (hentry : entry ∈ bridge.pending.entries) : bridge.Lists entry.settler.ticket := by
  rw [Lists, ← h.entry_id entry hentry]
  exact List.mem_map_of_mem hentry

/-- The next id is new to the table. -/
theorem fresh (h : bridge.Coherent) (bound : bridge.replies.length < UInt64.size) :
    bridge.nextId ∉ bridge.pending.ids := by
  intro hmem
  obtain ⟨entry, hentry, hid⟩ := List.mem_map.1 hmem
  have hlt := h.ticket_lt hentry
  rw [h.entry_id entry hentry] at hid
  exact Nat.ne_of_lt hlt ((CorrelationId.ofTicket_inj (Nat.lt_trans hlt bound) bound).1 hid)

/-! ## Operations that take entries away -/

/-- A bridge stays coherent when entries are taken away and replies change, if a reply whose entry
stays goes on waiting with its deadline, and a reply whose entry is gone no longer waits for a
holder. -/
theorem shrink (h : bridge.Coherent) (f : Ticket → Reply → Reply)
    (hlive : after.live = bridge.live)
    (hentries : after.pending.entries.Sublist bridge.pending.entries)
    (hreplies : ∀ ticket : Ticket,
      after.replies[ticket]? = (bridge.replies[ticket]?).map (f ticket))
    (hid : ∀ ticket reply, (f ticket reply).id = reply.id)
    (hstays : ∀ entry ∈ after.pending.entries, ∀ reply,
      bridge.replies[entry.settler.ticket]? = some reply →
        (f entry.settler.ticket reply).progress = reply.progress ∧
          (f entry.settler.ticket reply).deadline = reply.deadline)
    (hgone : ∀ ticket reply, bridge.replies[ticket]? = some reply →
      (f ticket reply).held = true → (f ticket reply).progress = .waiting → after.Lists ticket)
    (habandoned : ∀ ticket reply,
      (f ticket reply).progress = .abandoned → reply.progress = .abandoned)
    (hpunctual : ∀ ticket reply, reply.Punctual → (f ticket reply).Punctual) :
    after.Coherent := by
  have hback {ticket : Ticket} {reply : Reply} (hreply : after.replies[ticket]? = some reply) :
      ∃ old, bridge.replies[ticket]? = some old ∧ f ticket old = reply := by
    rwa [hreplies, Option.map_eq_some_iff] at hreply
  refine ⟨?_, h.nodup.sublist (hentries.map _),
    fun entry hentry => h.unsettled _ (hentries.subset hentry),
    fun entry hentry => h.entry_id _ (hentries.subset hentry), fun entry hentry => ?_, ?_, ?_, ?_⟩
  · intro ticket reply hreply
    obtain ⟨old, hold, rfl⟩ := hback hreply
    rw [hid, h.reply_id hold]
  · obtain ⟨old, hold, hwaiting, hdeadline⟩ := h.entry_reply entry (hentries.subset hentry)
    obtain ⟨hprogress, hsame⟩ := hstays entry hentry old hold
    exact ⟨f _ old, by rw [hreplies, hold]; rfl, hprogress.trans hwaiting, hsame.trans hdeadline⟩
  · intro ticket reply hreply hheld hwaiting
    obtain ⟨old, hold, rfl⟩ := hback hreply
    exact hgone ticket old hold hheld hwaiting
  · intro ticket reply hreply hprogress
    obtain ⟨old, hold, rfl⟩ := hback hreply
    rw [hlive]
    exact h.abandoned hold (habandoned ticket old hprogress)
  · intro ticket reply hreply
    obtain ⟨old, hold, rfl⟩ := hback hreply
    exact hpunctual ticket old (h.punctual hold)

/-! ### The sweep -/

/-- A sweep settles the replies of the requests that are listed and overdue, and no others. -/
theorem replies_expireOverdue (h : bridge.Coherent) (bound : bridge.replies.length ≤ UInt64.size)
    (now : Instant) (ticket : Ticket) :
    (bridge.expireOverdue now).1.replies[ticket]? = (bridge.replies[ticket]?).map fun reply =>
      if bridge.Lists ticket ∧ Reply.reached now reply.deadline = true then
        reply.settle (.error .timeout)
      else reply := by
  rw [getElem?_replies_expireOverdue h.unsettled]
  cases hreply : bridge.replies[ticket]? with
  | none => rfl
  | some reply =>
    have hiff : (∃ entry ∈ bridge.pending.entries,
          entry.overdue now = true ∧ entry.settler.ticket = ticket) ↔
        bridge.Lists ticket ∧ Reply.reached now reply.deadline = true := by
      constructor
      · rintro ⟨entry, hentry, hoverdue, rfl⟩
        obtain ⟨found, hfound, -, hdeadline⟩ := h.entry_reply entry hentry
        rw [hreply] at hfound
        obtain rfl := Option.some.inj hfound
        exact ⟨h.lists_of_entry hentry, by rw [hdeadline]; exact hoverdue⟩
      · rintro ⟨hlists, hreached⟩
        obtain ⟨entry, hentry, hticket, -, -, hdeadline⟩ := h.entry_of_lists bound hreply hlists
        rw [hdeadline] at hreached
        exact ⟨entry, hentry, hreached, hticket⟩
    simp only [hiff, Option.map_some]

/-- A sweep leaves the requests listed that are not overdue. -/
theorem lists_expireOverdue (h : bridge.Coherent) (bound : bridge.replies.length ≤ UInt64.size)
    (now : Instant) {ticket : Ticket} {reply : Reply}
    (hreply : bridge.replies[ticket]? = some reply) :
    (bridge.expireOverdue now).1.Lists ticket ↔
      bridge.Lists ticket ∧ Reply.reached now reply.deadline = false := by
  simp only [Lists, PendingTable.ids, List.mem_map, pending_expireOverdue,
    PendingTable.mem_kept_iff]
  constructor
  · rintro ⟨entry, ⟨hentry, hkept⟩, hid⟩
    have hlists : bridge.Lists ticket := List.mem_map.2 ⟨entry, hentry, hid⟩
    obtain ⟨found, hfound, -, hfoundId, -, hdeadline⟩ := h.entry_of_lists bound hreply hlists
    obtain rfl := h.entry_unique hentry hfound (hid.trans hfoundId.symm)
    exact ⟨⟨entry, hentry, hid⟩, by rw [hdeadline]; exact hkept⟩
  · rintro ⟨hlists, hreached⟩
    obtain ⟨entry, hentry, -, hid, -, hdeadline⟩ :=
      h.entry_of_lists bound hreply (List.mem_map.2 hlists)
    rw [hdeadline] at hreached
    exact ⟨entry, ⟨hentry, hreached⟩, hid⟩

theorem expireOverdue (h : bridge.Coherent) (bound : bridge.replies.length ≤ UInt64.size)
    (now : Instant) : (bridge.expireOverdue now).1.Coherent := by
  refine h.shrink _ (sameAround_expireOverdue bridge now).live ?_
    (h.replies_expireOverdue bound now) ?_ ?_ ?_ ?_ ?_
  · rw [pending_expireOverdue]
    exact List.filter_sublist
  · intro ticket reply
    split <;> simp
  · intro entry hentry reply hreply
    have hkept :
        ¬(bridge.Lists entry.settler.ticket ∧ Reply.reached now reply.deadline = true) := by
      rw [pending_expireOverdue, PendingTable.mem_kept_iff] at hentry
      obtain ⟨found, hfound, -, hdeadline⟩ := h.entry_reply entry hentry.1
      rw [hreply] at hfound
      obtain rfl := Option.some.inj hfound
      rintro ⟨-, hreached⟩
      rw [hdeadline] at hreached
      exact Bool.false_ne_true (hentry.2.symm.trans hreached)
    rw [if_neg hkept]
    exact ⟨rfl, rfl⟩
  · intro ticket reply hreply hheld hwaiting
    rw [h.lists_expireOverdue bound now hreply]
    split at hwaiting
    · exact absurd hwaiting (Reply.settle_progress_ne _ _)
    · next hnot =>
      rw [if_neg hnot] at hheld
      have hlists := h.held_listed hreply hheld hwaiting
      exact ⟨hlists, Bool.eq_false_iff.2 fun hreached => hnot ⟨hlists, hreached⟩⟩
  · intro ticket reply hprogress
    split at hprogress
    · exact Reply.progress_of_settle_abandoned hprogress
    · exact hprogress
  · intro ticket reply hpunctual
    split
    · exact hpunctual.settle _
    · exact hpunctual

/-! ### An answer -/

/-- An answer settles the reply of its request, if that is listed, and no other. -/
theorem replies_answered (h : bridge.Coherent) (bound : bridge.replies.length ≤ UInt64.size)
    (id : CorrelationId) (outcome : Outcome) (ticket : Ticket) :
    (bridge.answered id outcome).replies[ticket]? = (bridge.replies[ticket]?).map fun reply =>
      if bridge.Lists ticket ∧ .ofTicket ticket = id then reply.settle outcome else reply := by
  cases hreply : bridge.replies[ticket]? with
  | none =>
    rw [Option.map_none, List.getElem?_eq_none_iff, (sameAround_answered bridge id outcome).length]
    exact List.getElem?_eq_none_iff.1 hreply
  | some reply =>
    rw [Option.map_some]
    cases hfound : bridge.pending.entry? id with
    | none =>
      rw [answered_of_not_found hfound, if_neg, hreply]
      rintro ⟨hlists, rfl⟩
      exact PendingTable.entry?_eq_none.1 hfound hlists
    | some entry =>
      obtain ⟨hentry, rfl⟩ := PendingTable.mem_of_entry? hfound
      rw [answered_of_found hfound (h.unsettled entry hentry)]
      have hiff : (bridge.Lists ticket ∧ .ofTicket ticket = entry.id) ↔
          entry.settler.ticket = ticket := by
        constructor
        · rintro ⟨hlists, hid⟩
          obtain ⟨found, hfound, hticket, hfoundId, -⟩ := h.entry_of_lists bound hreply hlists
          rw [h.entry_unique hentry hfound (hid.symm.trans hfoundId.symm), hticket]
        · rintro rfl
          exact ⟨h.lists_of_entry hentry, (h.entry_id entry hentry).symm⟩
      simp [List.getElem?_modify, hreply, hiff]

/-- An answer takes its request out of the table, and no other. -/
theorem lists_answered (bridge : Bridge κ) (id : CorrelationId) (outcome : Outcome)
    (ticket : Ticket) :
    (bridge.answered id outcome).Lists ticket ↔
      bridge.Lists ticket ∧ CorrelationId.ofTicket ticket ≠ id := by
  rw [Lists, pending_answered, PendingTable.ids_erase]
  simp [Lists]

theorem answered (h : bridge.Coherent) (bound : bridge.replies.length ≤ UInt64.size)
    (id : CorrelationId) (outcome : Outcome) : (bridge.answered id outcome).Coherent := by
  refine h.shrink _ (sameAround_answered bridge id outcome).live ?_
    (h.replies_answered bound id outcome) ?_ ?_ ?_ ?_ ?_
  · rw [pending_answered]
    exact List.filter_sublist
  · intro ticket reply
    split <;> simp
  · intro entry hentry reply _
    rw [pending_answered, PendingTable.mem_erase] at hentry
    rw [if_neg fun hand => hentry.2 ((h.entry_id entry hentry.1).trans hand.2)]
    exact ⟨rfl, rfl⟩
  · intro ticket reply hreply hheld hwaiting
    rw [lists_answered]
    split at hwaiting
    · exact absurd hwaiting (Reply.settle_progress_ne _ _)
    · next hnot =>
      rw [if_neg hnot] at hheld
      have hlists := h.held_listed hreply hheld hwaiting
      exact ⟨hlists, fun hid => hnot ⟨hlists, hid⟩⟩
  · intro ticket reply hprogress
    split at hprogress
    · exact Reply.progress_of_settle_abandoned hprogress
    · exact hprogress
  · intro ticket reply hpunctual
    split
    · exact hpunctual.settle _
    · exact hpunctual

/-! ### The caller's look, and letting go -/

/-- A change of one reply that leaves what the table knows of it, and at most lets go of it. -/
theorem modify_reply (h : bridge.Coherent) (ticket : Ticket) {f : Reply → Reply}
    (hid : ∀ reply, (f reply).id = reply.id)
    (hprogress : ∀ reply, (f reply).progress = reply.progress)
    (hdeadline : ∀ reply, (f reply).deadline = reply.deadline)
    (hheld : ∀ reply, (f reply).held = true → reply.held = true)
    (hpunctual : ∀ reply, reply.Punctual → (f reply).Punctual) :
    Coherent { bridge with replies := bridge.replies.modify ticket f } := by
  refine h.shrink (fun other reply => if ticket = other then f reply else reply) rfl
    (List.Sublist.refl _) (fun other => List.getElem?_modify _ _ _ _) ?_ ?_ ?_ ?_ ?_
  · intro other reply
    split
    · exact hid reply
    · rfl
  · intro entry _ reply _
    split
    · exact ⟨hprogress reply, hdeadline reply⟩
    · exact ⟨rfl, rfl⟩
  · intro other reply hreply hstill hwaiting
    split at hstill
    · next hsame =>
      rw [if_pos hsame, hprogress] at hwaiting
      exact h.held_listed hreply (hheld reply hstill) hwaiting
    · next hne =>
      rw [if_neg hne] at hwaiting
      exact h.held_listed hreply hstill hwaiting
  · intro other reply habandoned
    split at habandoned
    · rwa [hprogress] at habandoned
    · exact habandoned
  · intro other reply hold
    split
    · exact hpunctual reply hold
    · exact hold

theorem release (h : bridge.Coherent) (ticket : Ticket) : (bridge.release ticket).Coherent :=
  h.modify_reply ticket (fun _ => rfl) (fun _ => rfl) (fun _ => rfl)
    (fun _ hheld => absurd hheld Bool.false_ne_true) fun _ hpunctual => hpunctual

theorem poll (h : bridge.Coherent) (bound : bridge.replies.length ≤ UInt64.size) (now : Instant)
    (ticket : Ticket) : (bridge.poll now ticket).2.1.Coherent := by
  cases hreply : bridge.replies[ticket]? with
  | none => rwa [poll_of_none hreply]
  | some reply =>
    cases hready : reply.outcome? now with
    | none =>
      rw [poll_of_pending hreply hready]
      exact h.modify_reply ticket Reply.watch_id Reply.watch_progress Reply.watch_deadline
        (fun reply hheld => by rwa [Reply.watch_held] at hheld) fun _ => .watch
    | some outcome =>
      rw [poll_of_ready hreply hready]
      refine h.shrink (fun other reply => if ticket = other then reply.release else reply) rfl
        ?_ ?_ ?_ ?_ ?_ ?_ ?_
      · dsimp only
        split
        · exact List.filter_sublist
        · exact List.Sublist.refl _
      · intro other
        exact List.getElem?_modify _ _ _ _
      · intro other reply
        split <;> rfl
      · intro entry _ reply _
        split <;> exact ⟨rfl, rfl⟩
      · intro other old hold hheld hwaiting
        split at hheld
        · cases hheld
        · next hne =>
          rw [if_neg hne] at hwaiting
          have hlists := h.held_listed hold hheld hwaiting
          -- The entry that the look takes away is that of another request.
          have hid : CorrelationId.ofTicket other ≠ reply.id := by
            rw [h.reply_id hreply]
            have hlt := (List.getElem?_eq_some_iff.1 hreply).1
            have hlt' := (List.getElem?_eq_some_iff.1 hold).1
            exact fun heq => hne ((CorrelationId.ofTicket_inj (Nat.lt_of_lt_of_le hlt' bound)
              (Nat.lt_of_lt_of_le hlt bound)).1 heq).symm
          simp only [Lists]
          split
          · rw [PendingTable.ids_erase]
            simpa using ⟨hlists, hid⟩
          · exact hlists
      · intro other reply hprogress
        split at hprogress <;> exact hprogress
      · intro other reply hpunctual
        split <;> exact hpunctual

/-! ### The end of the bridge -/

/-- Closing gives up the replies of the requests that are listed. -/
theorem replies_close (h : bridge.Coherent) (bound : bridge.replies.length ≤ UInt64.size)
    (ticket : Ticket) :
    bridge.close.replies[ticket]? = (bridge.replies[ticket]?).map fun reply =>
      if bridge.Lists ticket then reply.abandon else reply := by
  have hdropped := getElem?_dropAll h.unsettled bridge.replies ticket
  rw [show bridge.close.replies[ticket]? = _ from hdropped]
  cases hreply : bridge.replies[ticket]? with
  | none => rfl
  | some reply =>
    have hiff : (∃ entry ∈ bridge.pending.entries, entry.settler.ticket = ticket) ↔
        bridge.Lists ticket := by
      constructor
      · rintro ⟨entry, hentry, rfl⟩
        exact h.lists_of_entry hentry
      · intro hlists
        obtain ⟨entry, hentry, hticket, -⟩ := h.entry_of_lists bound hreply hlists
        exact ⟨entry, hentry, hticket⟩
    simp only [hiff]

theorem close (h : bridge.Coherent) (bound : bridge.replies.length ≤ UInt64.size) :
    bridge.close.Coherent := by
  have hback {ticket : Ticket} {reply : Reply}
      (hreply : bridge.close.replies[ticket]? = some reply) :
      ∃ old, bridge.replies[ticket]? = some old ∧
        (if bridge.Lists ticket then old.abandon else old) = reply := by
    rwa [h.replies_close bound, Option.map_eq_some_iff] at hreply
  refine ⟨?_, List.nodup_nil, by simp [Bridge.close], by simp [Bridge.close],
    by simp [Bridge.close], ?_, fun _ _ => rfl, ?_⟩
  · intro ticket reply hreply
    obtain ⟨old, hold, rfl⟩ := hback hreply
    rw [← h.reply_id hold]
    split
    · unfold Reply.abandon
      split <;> rfl
    · rfl
  · intro ticket reply hreply hheld hwaiting
    obtain ⟨old, hold, rfl⟩ := hback hreply
    split at hwaiting
    · exact absurd hwaiting (Reply.abandon_progress_ne old)
    · next hnot =>
      rw [if_neg hnot] at hheld
      exact absurd (h.held_listed hold hheld hwaiting) hnot
  · intro ticket reply hreply
    obtain ⟨old, hold, rfl⟩ := hback hreply
    split
    · exact (h.punctual hold).abandon
    · exact h.punctual hold

/-! ## Sending and starting the clock -/

/-- One more request keeps a bridge coherent while there is an id left for it. -/
theorem withRequest (h : bridge.Coherent) (bound : bridge.replies.length < UInt64.size)
    (failure : Option BridgeError) (deadline : Option Instant) :
    (bridge.withRequest failure deadline).Coherent := by
  have hkeeps {last : Reply} {entry : PendingEntry} (hentry : entry ∈ bridge.pending.entries) :
      ∃ reply, (bridge.replies ++ [last])[entry.settler.ticket]? = some reply ∧
        reply.progress = .waiting ∧ reply.deadline = entry.deadline := by
    rw [List.getElem?_append_left (h.ticket_lt hentry)]
    exact h.entry_reply entry hentry
  have hpunctual {last reply : Reply} {ticket : Ticket} (hlast : last.Punctual)
      (hreply : (bridge.replies ++ [last])[ticket]? = some reply) : reply.Punctual := by
    rcases Reply.of_getElem?_append hreply with hreply | ⟨rfl, rfl⟩
    · exact h.punctual hreply
    · exact hlast
  cases failure with
  | some error =>
    refine ⟨?_, h.nodup, h.unsettled, h.entry_id, fun entry hentry => hkeeps hentry, ?_, ?_,
      hpunctual nofun⟩
    · intro ticket reply hreply
      rcases Reply.of_getElem?_append hreply with hreply | ⟨rfl, rfl⟩
      · exact h.reply_id hreply
      · rfl
    · intro ticket reply hreply hheld hwaiting
      rcases Reply.of_getElem?_append hreply with hreply | ⟨rfl, rfl⟩
      · exact h.held_listed hreply hheld hwaiting
      · cases hwaiting
    · intro ticket reply hreply hprogress
      rcases Reply.of_getElem?_append hreply with hreply | ⟨rfl, rfl⟩
      · exact h.abandoned hreply hprogress
      · cases hprogress
  | none =>
    have hids : (bridge.withRequest none deadline).pending.ids =
        bridge.pending.ids ++ [bridge.nextId] := List.map_append
    refine ⟨?_, ?_, ?_, ?_, ?_, ?_, ?_, hpunctual nofun⟩
    · intro ticket reply hreply
      rcases Reply.of_getElem?_append hreply with hreply | ⟨rfl, rfl⟩
      · exact h.reply_id hreply
      · rfl
    · rw [hids, List.nodup_append]
      refine ⟨h.nodup, List.nodup_singleton _, ?_⟩
      rintro id hid other hother rfl
      rw [List.mem_singleton.1 hother] at hid
      exact h.fresh bound hid
    · intro entry hentry
      rcases List.mem_append.1 hentry with hentry | hentry
      · exact h.unsettled entry hentry
      · rw [List.mem_singleton.1 hentry]
    · intro entry hentry
      rcases List.mem_append.1 hentry with hentry | hentry
      · exact h.entry_id entry hentry
      · rw [List.mem_singleton.1 hentry]
        rfl
    · intro entry hentry
      rcases List.mem_append.1 hentry with hentry | hentry
      · exact hkeeps hentry
      · rw [List.mem_singleton.1 hentry]
        exact ⟨_, List.getElem?_concat_length, rfl, rfl⟩
    · intro ticket reply hreply hheld hwaiting
      rw [Lists, hids, List.mem_append, List.mem_singleton]
      rcases Reply.of_getElem?_append hreply with hreply | ⟨rfl, rfl⟩
      · exact .inl (h.held_listed hreply hheld hwaiting)
      · exact .inr rfl
    · intro ticket reply hreply hprogress
      rcases Reply.of_getElem?_append hreply with hreply | ⟨rfl, rfl⟩
      · exact h.abandoned hreply hprogress
      · cases hprogress

theorem arm (h : bridge.Coherent) (bound : bridge.replies.length ≤ UInt64.size) (now : Instant)
    (ticket : Ticket) (timeout : Nanoseconds) : (bridge.arm now ticket timeout).Coherent := by
  cases hreply : bridge.replies[ticket]? with
  | none => rwa [arm_of_none hreply]
  | some reply =>
    have hlt : ticket < UInt64.size :=
      Nat.lt_of_lt_of_le (List.getElem?_eq_some_iff.1 hreply).1 bound
    have hback {other : Ticket} {armed : Reply}
        (harmed : (bridge.arm now ticket timeout).replies[other]? = some armed) :
        ∃ old, bridge.replies[other]? = some old ∧ armed.id = old.id ∧
          armed.progress = old.progress ∧ armed.held = old.held := by
      rw [replies_arm, List.getElem?_modify] at harmed
      obtain ⟨old, hold, rfl⟩ := Option.map_eq_some_iff.1 harmed
      refine ⟨old, hold, ?_⟩
      split <;> exact ⟨rfl, rfl, rfl⟩
    have hids : (bridge.arm now ticket timeout).pending.ids = bridge.pending.ids := by
      rw [arm_of_some hreply]
      exact PendingTable.ids_setDeadline _ _ _
    have hentry {entry : PendingEntry}
        (hentry : entry ∈ (bridge.arm now ticket timeout).pending.entries) :
        ∃ old ∈ bridge.pending.entries, entry.settler = old.settler ∧
          entry.deadline =
            if old.settler.ticket = ticket then some (now + timeout) else old.deadline := by
      rw [arm_of_some hreply] at hentry
      obtain ⟨old, hold, rfl⟩ := PendingTable.mem_setDeadline.1 hentry
      have hiff : old.id = reply.id ↔ old.settler.ticket = ticket := by
        rw [h.entry_id old hold, h.reply_id hreply]
        exact CorrelationId.ofTicket_inj (Nat.lt_of_lt_of_le (h.ticket_lt hold) bound) hlt
      refine ⟨old, hold, ?_⟩
      by_cases hsame : old.settler.ticket = ticket
      · rw [if_pos (hiff.2 hsame), if_pos hsame]
        exact ⟨rfl, rfl⟩
      · rw [if_neg (mt hiff.1 hsame), if_neg hsame]
        exact ⟨rfl, rfl⟩
    refine ⟨?_, hids ▸ h.nodup, ?_, ?_, ?_, ?_, ?_, ?_⟩
    · intro other armed harmed
      obtain ⟨old, hold, hid, -⟩ := hback harmed
      rw [hid, h.reply_id hold]
    · intro entry hmem
      obtain ⟨old, hold, hsettler, -⟩ := hentry hmem
      rw [hsettler, h.unsettled old hold]
    · intro entry hmem
      obtain ⟨old, hold, hsettler, -⟩ := hentry hmem
      rw [PendingEntry.id, hsettler]
      exact h.entry_id old hold
    · intro entry hmem
      obtain ⟨old, hold, hsettler, hdeadline⟩ := hentry hmem
      obtain ⟨found, hfound, hwaiting, hsame⟩ := h.entry_reply old hold
      rw [hsettler, hdeadline, replies_arm, List.getElem?_modify, hfound]
      refine ⟨_, rfl, ?_⟩
      beta_reduce
      by_cases hticket : old.settler.ticket = ticket
      · rw [if_pos hticket, if_pos hticket.symm]
        exact ⟨hwaiting, rfl⟩
      · rw [if_neg hticket, if_neg (Ne.symm hticket)]
        exact ⟨hwaiting, hsame⟩
    · intro other armed harmed hheld hwaiting
      obtain ⟨old, hold, -, hprogress, hsame⟩ := hback harmed
      rw [Lists, hids]
      exact h.held_listed hold (hsame ▸ hheld) (hprogress ▸ hwaiting)
    · intro other armed harmed habandoned
      obtain ⟨old, hold, -, hprogress, -⟩ := hback harmed
      rw [(sameAround_arm bridge now ticket timeout).live]
      exact h.abandoned hold (hprogress ▸ habandoned)
    · intro other armed harmed
      rw [replies_arm, List.getElem?_modify] at harmed
      obtain ⟨old, hold, rfl⟩ := Option.map_eq_some_iff.1 harmed
      split
      · exact .expireAt _ _
      · exact h.punctual hold

end Coherent
end Bridge
end HostLink
