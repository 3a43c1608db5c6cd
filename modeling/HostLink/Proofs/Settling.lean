import HostLink.Proofs.Station

/-!
# What the operations of a bridge do to its replies and its table

Every operation touches two parts of a bridge that have to stay in step: the replies, by ticket, and
the table of pending requests, by id.  The lemmas here say for each operation what becomes of either
part, so that later modules never open the operations again.
-/

namespace HostLink

/-! ## Membership in the table -/

namespace PendingTable

theorem mem_erase {table : PendingTable} {id : CorrelationId} {entry : PendingEntry} :
    entry ∈ (table.erase id).entries ↔ entry ∈ table.entries ∧ entry.id ≠ id := by
  simp [erase]

theorem mem_setDeadline {table : PendingTable} {id : CorrelationId} {deadline : Instant}
    {entry : PendingEntry} :
    entry ∈ (table.setDeadline id deadline).entries ↔
      ∃ old ∈ table.entries,
        (if old.id = id then { old with deadline := some deadline } else old) = entry := by
  simp [setDeadline]

theorem mem_kept_iff {table : PendingTable} {now : Instant} {entry : PendingEntry} :
    entry ∈ (table.takeExpired now).2.entries ↔
      entry ∈ table.entries ∧ entry.overdue now = false := by
  simp [takeExpired]

theorem mem_expired_iff {table : PendingTable} {now : Instant} {settler : Settler} :
    settler ∈ (table.takeExpired now).1 ↔
      ∃ entry ∈ table.entries, entry.overdue now = true ∧ entry.settler = settler := by
  simp [takeExpired, and_assoc]

theorem erase_of_not_mem {table : PendingTable} {id : CorrelationId} (h : id ∉ table.ids) :
    table.erase id = table := by
  have hall : ∀ entry ∈ table.entries, decide (entry.id ≠ id) = true := by
    intro entry hentry
    have hmem : entry.id ∈ table.ids := List.mem_map_of_mem hentry
    exact decide_eq_true (ne_of_mem_of_not_mem hmem h)
  rw [erase, List.filter_eq_self.2 hall]

theorem setDeadline_of_not_mem {table : PendingTable} {id : CorrelationId} {deadline : Instant}
    (h : id ∉ table.ids) : table.setDeadline id deadline = table := by
  have hall : ∀ entry ∈ table.entries,
      (if entry.id = id then { entry with deadline := some deadline } else entry) = entry := by
    intro entry hentry
    have hmem : entry.id ∈ table.ids := List.mem_map_of_mem hentry
    rw [if_neg (ne_of_mem_of_not_mem hmem h)]
  rw [setDeadline, List.map_congr_left hall, List.map_id']

theorem entry?_eq_none {table : PendingTable} {id : CorrelationId} :
    table.entry? id = none ↔ id ∉ table.ids := by
  simp [ids, entry?]

/-- What is found under an id is an entry of that id. -/
theorem mem_of_entry? {table : PendingTable} {id : CorrelationId} {entry : PendingEntry}
    (h : table.entry? id = some entry) : entry ∈ table.entries ∧ entry.id = id := by
  unfold entry? at h
  exact ⟨List.mem_of_find?_eq_some h, by simpa using List.find?_some h⟩

end PendingTable

/-- What a request ends with when a reply with this outcome settles it. -/
def frozenOutcome : Except Json Json → Outcome
  | .ok payload => .ok (Snapshot.freeze payload)
  | .error error => .error (.remote error)

/-! ## Settling replies -/

namespace Reply

@[simp] theorem settle_id (outcome : Outcome) (reply : Reply) :
    (reply.settle outcome).id = reply.id := by
  unfold settle; split <;> rfl

@[simp] theorem settle_deadline (outcome : Outcome) (reply : Reply) :
    (reply.settle outcome).deadline = reply.deadline := by
  unfold settle; split <;> rfl

@[simp] theorem settle_alarm (outcome : Outcome) (reply : Reply) :
    (reply.settle outcome).alarm = reply.alarm := by
  unfold settle; split <;> rfl

@[simp] theorem settle_held (outcome : Outcome) (reply : Reply) :
    (reply.settle outcome).held = reply.held := by
  unfold settle; split <;> rfl

/-- Settling settles a reply that waits. -/
theorem settle_of_waiting {reply : Reply} (h : reply.progress = .waiting) (outcome : Outcome) :
    reply.settle outcome = { reply with progress := .settled outcome } := by
  unfold settle; rw [h]

/-- A reply that no longer waits stays as it is. -/
theorem settle_of_ne_waiting {reply : Reply} (h : reply.progress ≠ .waiting) (outcome : Outcome) :
    reply.settle outcome = reply := by
  unfold settle; split
  · next hwaiting => exact absurd hwaiting h
  · rfl

/-- No reply waits once it was settled. -/
theorem settle_progress_ne (outcome : Outcome) (reply : Reply) :
    (reply.settle outcome).progress ≠ .waiting := by
  by_cases h : reply.progress = .waiting
  · rw [settle_of_waiting h]; simp
  · rwa [settle_of_ne_waiting h]

/-- The first settling decides. -/
theorem settle_settle (first second : Outcome) (reply : Reply) :
    (reply.settle first).settle second = reply.settle first :=
  settle_of_ne_waiting (settle_progress_ne first reply) second

/-- No reply waits once it was given up. -/
theorem abandon_progress_ne (reply : Reply) : reply.abandon.progress ≠ .waiting := by
  unfold abandon
  split
  · simp
  · assumption

theorem abandon_abandon (reply : Reply) : reply.abandon.abandon = reply.abandon := by
  have hne := abandon_progress_ne reply
  generalize reply.abandon = given at hne
  unfold abandon
  split
  · next hwaiting => exact absurd hwaiting hne
  · rfl

/-- Settling abandons nothing. -/
theorem progress_of_settle_abandoned {outcome : Outcome} {reply : Reply}
    (h : (reply.settle outcome).progress = .abandoned) : reply.progress = .abandoned := by
  by_cases hwaiting : reply.progress = .waiting
  · rw [settle_of_waiting hwaiting] at h
    cases h
  · rwa [settle_of_ne_waiting hwaiting] at h

/-! ## Alarms -/

@[simp] theorem watch_id (reply : Reply) : reply.watch.id = reply.id := by
  unfold watch; split <;> rfl

@[simp] theorem watch_progress (reply : Reply) : reply.watch.progress = reply.progress := by
  unfold watch; split <;> rfl

@[simp] theorem watch_deadline (reply : Reply) : reply.watch.deadline = reply.deadline := by
  unfold watch; split <;> rfl

@[simp] theorem watch_held (reply : Reply) : reply.watch.held = reply.held := by
  unfold watch; split <;> rfl

/-- An alarm that is set is set for the deadline. -/
def Punctual (reply : Reply) : Prop :=
  ∀ instant, reply.alarm = some instant → reply.deadline = some instant

namespace Punctual

variable {reply : Reply}

theorem due_eq (h : reply.Punctual) : reply.due = reply.deadline := by
  unfold due
  cases halarm : reply.alarm with
  | none => cases reply.deadline <;> rfl
  | some instant =>
    rw [h instant halarm]
    rfl

theorem of_same {later : Reply} (h : reply.Punctual) (halarm : later.alarm = reply.alarm)
    (hdeadline : later.deadline = reply.deadline) : later.Punctual := by
  unfold Punctual
  rwa [halarm, hdeadline]

theorem settle (h : reply.Punctual) (outcome : Outcome) : (reply.settle outcome).Punctual :=
  h.of_same (settle_alarm _ _) (settle_deadline _ _)

theorem abandon (h : reply.Punctual) : reply.abandon.Punctual := by
  unfold Reply.abandon
  split <;> exact h

theorem watch (h : reply.Punctual) : reply.watch.Punctual := by
  unfold Reply.watch
  rw [h.due_eq]
  split
  · next instant hdeadline =>
    intro other halarm
    rwa [← Option.some.inj halarm]
  · exact h

/-- A new deadline takes the alarm away. -/
theorem expireAt (deadline : Instant) (reply : Reply) : (reply.expireAt deadline).Punctual :=
  fun _ => nofun

end Punctual
end Reply

namespace Bridge

variable {κ : Type}

/-- The bridge after an answer to the request `id`, which settles its reply if it is listed. -/
def answered (bridge : Bridge κ) (id : CorrelationId) (outcome : Outcome) : Bridge κ :=
  match bridge.pending.take id with
  | (some settler, pending) => ({ bridge with pending }.settleWith settler outcome).1
  | (none, _) => bridge

/-- An inbound reply is a sweep and an answer. -/
theorem settle_eq (bridge : Bridge κ) (now : Instant) (id : CorrelationId)
    (outcome : Except Json Json) :
    (bridge.settle now id outcome).1 =
      (bridge.expireOverdue now).1.answered id (frozenOutcome outcome) := by
  unfold settle answered
  rcases bridge.expireOverdue now with ⟨swept, log⟩
  dsimp only
  rcases swept.pending.take id with ⟨_ | settler, pending⟩ <;> rfl

/-- A request that cannot be posted is answered with the error. -/
theorem withdraw_eq (bridge : Bridge κ) (id : CorrelationId) (error : BridgeError) :
    (bridge.withdraw id error).1 = bridge.answered id (.error error) := by
  unfold withdraw answered
  rcases bridge.pending.take id with ⟨_ | settler, pending⟩ <;> rfl

/-! ## What the operations on requests leave alone -/

/-- The second state of a bridge differs from the first in its requests only, of which there are as
many as before. -/
structure SameAround (bridge after : Bridge κ) : Prop where
  config : after.config = bridge.config
  registry : after.registry = bridge.registry
  live : after.live = bridge.live
  length : after.replies.length = bridge.replies.length

theorem SameAround.refl (bridge : Bridge κ) : SameAround bridge bridge := ⟨rfl, rfl, rfl, rfl⟩

theorem SameAround.trans {first second third : Bridge κ} (h : SameAround first second)
    (h' : SameAround second third) : SameAround first third :=
  ⟨h'.config.trans h.config, h'.registry.trans h.registry, h'.live.trans h.live,
    h'.length.trans h.length⟩

theorem sameAround_settleWith (bridge : Bridge κ) (settler : Settler) (outcome : Outcome) :
    SameAround bridge (bridge.settleWith settler outcome).1 := by
  refine ⟨rfl, rfl, rfl, ?_⟩
  simp only [settleWith, Settler.settle]
  split <;> simp

theorem failExpired_cons (settler : Settler) (rest : List Settler) (bridge : Bridge κ) :
    (bridge.failExpired (settler :: rest)).1 =
      ((bridge.settleWith settler (.error .timeout)).1.failExpired rest).1 := rfl

theorem sameAround_failExpired (settlers : List Settler) (bridge : Bridge κ) :
    SameAround bridge (bridge.failExpired settlers).1 := by
  induction settlers generalizing bridge with
  | nil => exact .refl bridge
  | cons settler rest ih =>
    rw [failExpired_cons]
    exact (sameAround_settleWith bridge settler _).trans (ih _)

theorem sameAround_expireOverdue (bridge : Bridge κ) (now : Instant) :
    SameAround bridge (bridge.expireOverdue now).1 := by
  obtain ⟨hconfig, hregistry, hlive, hlength⟩ :=
    sameAround_failExpired (bridge.pending.takeExpired now).1
      { bridge with pending := (bridge.pending.takeExpired now).2 }
  exact ⟨hconfig, hregistry, hlive, hlength⟩

theorem sameAround_answered (bridge : Bridge κ) (id : CorrelationId) (outcome : Outcome) :
    SameAround bridge (bridge.answered id outcome) := by
  unfold answered
  split
  · next settler pending _ =>
    obtain ⟨hconfig, hregistry, hlive, hlength⟩ :=
      sameAround_settleWith { bridge with pending } settler outcome
    exact ⟨hconfig, hregistry, hlive, hlength⟩
  · exact .refl bridge

theorem sameAround_settle (bridge : Bridge κ) (now : Instant) (id : CorrelationId)
    (outcome : Except Json Json) : SameAround bridge (bridge.settle now id outcome).1 := by
  rw [settle_eq]
  exact (sameAround_expireOverdue bridge now).trans (sameAround_answered _ _ _)

theorem sameAround_receive (bridge : Bridge κ) (now : Instant) (text : String) :
    SameAround bridge (bridge.receive now text).1 := by
  unfold receive
  split
  · exact sameAround_settle bridge now _ _
  · exact .refl bridge
  · exact .refl bridge
  · exact .refl bridge

theorem sameAround_arm (bridge : Bridge κ) (now : Instant) (ticket : Ticket)
    (timeout : Nanoseconds) : SameAround bridge (bridge.arm now ticket timeout) := by
  unfold arm
  split
  · exact .refl bridge
  · exact ⟨rfl, rfl, rfl, List.length_modify ..⟩

theorem sameAround_poll (bridge : Bridge κ) (now : Instant) (ticket : Ticket) :
    SameAround bridge (bridge.poll now ticket).2.1 := by
  refine ⟨rfl, rfl, rfl, ?_⟩
  simp only [poll, Reply.poll]
  split
  · rfl
  · split <;> simp

/-! ## Settling and sweeping -/

/-- Settling through a settler that has not settled touches the replies alone. -/
theorem settleWith_eq {settler : Settler} (h : settler.settled = false) (bridge : Bridge κ)
    (outcome : Outcome) :
    (bridge.settleWith settler outcome).1 =
      { bridge with
        replies := bridge.replies.modify settler.ticket (Reply.settle outcome) } := by
  simp [settleWith, Settler.settle, h]

/-- Nothing settles twice: a settler that has settled is refused. -/
theorem settleWith_of_settled {settler : Settler} (h : settler.settled = true) (bridge : Bridge κ)
    (outcome : Outcome) : (bridge.settleWith settler outcome).1 = bridge := by
  simp [settleWith, Settler.settle, h]

/-- A sweep that fails some settlers changes nothing but the replies, and of these the ones of the
settlers that have not settled yet. -/
theorem failExpired_spec (settlers : List Settler) (bridge : Bridge κ) :
    ∃ replies, (bridge.failExpired settlers).1 = { bridge with replies } ∧
      replies.length = bridge.replies.length ∧
      ∀ ticket : Ticket, replies[ticket]? = (bridge.replies[ticket]?).map fun reply =>
        if ∃ settler ∈ settlers, settler.settled = false ∧ settler.ticket = ticket then
          reply.settle (.error .timeout)
        else reply := by
  induction settlers generalizing bridge with
  | nil => exact ⟨bridge.replies, rfl, rfl, by simp⟩
  | cons settler rest ih =>
    obtain ⟨replies, heq, hlength, hreplies⟩ :=
      ih (bridge.settleWith settler (.error .timeout)).1
    rw [failExpired_cons]
    cases hsettled : settler.settled with
    | true =>
      rw [settleWith_of_settled hsettled] at heq hlength hreplies ⊢
      exact ⟨replies, heq, hlength, fun ticket => by simp [hreplies, hsettled]⟩
    | false =>
      rw [settleWith_eq hsettled] at heq hlength hreplies ⊢
      refine ⟨replies, heq, by simpa using hlength, fun ticket => ?_⟩
      rw [hreplies, List.getElem?_modify]
      cases bridge.replies[ticket]? with
      | none => rfl
      | some reply =>
        by_cases hticket : settler.ticket = ticket
        · by_cases hrest : ∃ other ∈ rest, other.settled = false ∧ other.ticket = ticket <;>
            simp [hsettled, hticket, hrest, Reply.settle_settle]
        · simp [hticket]

/-- A sweep takes away the overdue entries. -/
theorem pending_expireOverdue (bridge : Bridge κ) (now : Instant) :
    (bridge.expireOverdue now).1.pending = (bridge.pending.takeExpired now).2 := by
  have hkeeps (settlers : List Settler) (b : Bridge κ) :
      (b.failExpired settlers).1.pending = b.pending := by
    induction settlers generalizing b with
    | nil => rfl
    | cons settler rest ih => rw [failExpired_cons, ih]; rfl
  exact hkeeps _ _

/-- A sweep settles the replies of the settlers that it takes and that have not settled yet. -/
theorem getElem?_expireOverdue (bridge : Bridge κ) (now : Instant) (ticket : Ticket) :
    (bridge.expireOverdue now).1.replies[ticket]? = (bridge.replies[ticket]?).map fun reply =>
      if ∃ settler ∈ (bridge.pending.takeExpired now).1,
          settler.settled = false ∧ settler.ticket = ticket then
        reply.settle (.error .timeout)
      else reply := by
  obtain ⟨replies, heq, -, hreplies⟩ := failExpired_spec (bridge.pending.takeExpired now).1
    { bridge with pending := (bridge.pending.takeExpired now).2 }
  have hafter : (bridge.expireOverdue now).1.replies = replies := congrArg Bridge.replies heq
  rw [hafter, hreplies]

/-- Where no settler of the table has settled, a sweep settles the replies of the overdue entries.
-/
theorem getElem?_replies_expireOverdue {bridge : Bridge κ}
    (h : ∀ entry ∈ bridge.pending.entries, entry.settler.settled = false) (now : Instant)
    (ticket : Ticket) :
    (bridge.expireOverdue now).1.replies[ticket]? = (bridge.replies[ticket]?).map fun reply =>
      if ∃ entry ∈ bridge.pending.entries,
          entry.overdue now = true ∧ entry.settler.ticket = ticket then
        reply.settle (.error .timeout)
      else reply := by
  have hiff : (∃ settler ∈ (bridge.pending.takeExpired now).1,
      settler.settled = false ∧ settler.ticket = ticket) ↔
      ∃ entry ∈ bridge.pending.entries,
        entry.overdue now = true ∧ entry.settler.ticket = ticket := by
    constructor
    · rintro ⟨settler, hsettler, -, hticket⟩
      obtain ⟨entry, hentry, hoverdue, rfl⟩ := PendingTable.mem_expired_iff.1 hsettler
      exact ⟨entry, hentry, hoverdue, hticket⟩
    · rintro ⟨entry, hentry, hoverdue, hticket⟩
      exact ⟨entry.settler, PendingTable.mem_expired_iff.2 ⟨entry, hentry, hoverdue, rfl⟩,
        h entry hentry, hticket⟩
  rw [getElem?_expireOverdue]
  simp only [hiff]

/-! ## Answers and looks -/

theorem answered_of_not_found {bridge : Bridge κ} {id : CorrelationId}
    (h : bridge.pending.entry? id = none) (outcome : Outcome) :
    bridge.answered id outcome = bridge := by
  unfold answered PendingTable.take
  rw [h]
  rfl

theorem answered_of_found {bridge : Bridge κ} {id : CorrelationId} {entry : PendingEntry}
    (h : bridge.pending.entry? id = some entry) (hsettled : entry.settler.settled = false)
    (outcome : Outcome) :
    bridge.answered id outcome =
      { bridge with
        replies := bridge.replies.modify entry.settler.ticket (Reply.settle outcome)
        pending := bridge.pending.erase id } := by
  unfold answered PendingTable.take
  rw [h]
  exact settleWith_eq hsettled _ outcome

theorem pending_answered (bridge : Bridge κ) (id : CorrelationId) (outcome : Outcome) :
    (bridge.answered id outcome).pending = bridge.pending.erase id := by
  unfold answered PendingTable.take
  cases hfound : bridge.pending.entry? id with
  | none =>
    have hunlisted := PendingTable.entry?_eq_none.1 hfound
    exact (PendingTable.erase_of_not_mem hunlisted).symm
  | some entry => rfl

theorem poll_of_none {bridge : Bridge κ} {ticket : Ticket} {now : Instant}
    (h : bridge.replies[ticket]? = none) : bridge.poll now ticket = (none, bridge, []) := by
  simp [poll, Reply.poll, h]

/-- A look at a reply that is not ready sets its alarm. -/
theorem poll_of_pending {bridge : Bridge κ} {ticket : Ticket} {now : Instant} {reply : Reply}
    (h : bridge.replies[ticket]? = some reply) (hpending : reply.outcome? now = none) :
    bridge.poll now ticket =
      (none, { bridge with replies := bridge.replies.modify ticket Reply.watch }, []) := by
  simp [poll, Reply.poll, h, hpending]

/-- A look at a ready reply lets go of it, and takes its request away if it was still open. -/
theorem poll_of_ready {bridge : Bridge κ} {ticket : Ticket} {now : Instant} {reply : Reply}
    {outcome : Outcome} (h : bridge.replies[ticket]? = some reply)
    (hready : reply.outcome? now = some outcome) :
    (bridge.poll now ticket).2.1 =
      { bridge with
        replies := bridge.replies.modify ticket Reply.release
        pending := match reply.progress with
          | .waiting => bridge.pending.erase reply.id
          | _ => bridge.pending } := by
  cases hprogress : reply.progress <;> simp [poll, Reply.poll, h, hready, hprogress]

theorem arm_of_none {bridge : Bridge κ} {ticket : Ticket} (h : bridge.replies[ticket]? = none)
    (now : Instant) (timeout : Nanoseconds) : bridge.arm now ticket timeout = bridge := by
  simp [arm, h]

theorem arm_of_some {bridge : Bridge κ} {ticket : Ticket} {reply : Reply}
    (h : bridge.replies[ticket]? = some reply) (now : Instant) (timeout : Nanoseconds) :
    bridge.arm now ticket timeout =
      { bridge with
        replies := bridge.replies.modify ticket (Reply.expireAt (now + timeout))
        pending := bridge.pending.setDeadline reply.id (now + timeout) } := by
  simp [arm, h]

theorem replies_arm (bridge : Bridge κ) (now : Instant) (ticket : Ticket)
    (timeout : Nanoseconds) :
    (bridge.arm now ticket timeout).replies =
      bridge.replies.modify ticket (Reply.expireAt (now + timeout)) := by
  cases hreply : bridge.replies[ticket]? with
  | none => rw [arm_of_none hreply, List.modify_eq_self (List.getElem?_eq_none_iff.1 hreply)]
  | some reply => rw [arm_of_some hreply]

theorem length_replies_close (bridge : Bridge κ) :
    bridge.close.replies.length = bridge.replies.length := by
  have hdrop (entries : List PendingEntry) (replies : List Reply) :
      (entries.foldl (fun replies entry => entry.settler.drop replies) replies).length =
        replies.length := by
    induction entries generalizing replies with
    | nil => rfl
    | cons entry rest ih =>
      rw [List.foldl_cons, ih, Settler.drop]
      split <;> simp
  exact hdrop _ _

/-- Dropping unsettled settlers gives up their replies. -/
theorem getElem?_dropAll {entries : List PendingEntry}
    (h : ∀ entry ∈ entries, entry.settler.settled = false) (replies : List Reply)
    (ticket : Ticket) :
    (entries.foldl (fun replies entry => entry.settler.drop replies) replies)[ticket]? =
      (replies[ticket]?).map fun reply =>
        if ∃ entry ∈ entries, entry.settler.ticket = ticket then reply.abandon else reply := by
  induction entries generalizing replies with
  | nil => simp
  | cons entry rest ih =>
    have hdrop :
        entry.settler.drop replies = replies.modify entry.settler.ticket Reply.abandon := by
      simp [Settler.drop, h entry List.mem_cons_self]
    rw [List.foldl_cons, ih fun other hother => h other (List.mem_cons_of_mem _ hother), hdrop,
      List.getElem?_modify]
    cases replies[ticket]? with
    | none => rfl
    | some reply =>
      by_cases hticket : entry.settler.ticket = ticket
      · by_cases hrest : ∃ other ∈ rest, other.settler.ticket = ticket <;>
          simp [hticket, hrest, Reply.abandon_abandon]
      · simp [hticket]

/-- What the caller sees. -/
theorem poll_fst (bridge : Bridge κ) (now : Instant) (ticket : Ticket) :
    (bridge.poll now ticket).1 = (bridge.replies[ticket]?).bind (Reply.outcome? now) := by
  cases hreply : bridge.replies[ticket]? with
  | none => simp [poll_of_none hreply]
  | some reply =>
    cases hready : reply.outcome? now with
    | none => simp [poll_of_pending hreply hready, hready]
    | some outcome =>
      cases hprogress : reply.progress <;> simp [poll, Reply.poll, hreply, hready, hprogress]

end Bridge
end HostLink
