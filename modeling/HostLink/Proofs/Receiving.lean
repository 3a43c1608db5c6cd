import HostLink.Proofs.Matching

/-!
# What becomes of a message

A message that comes in settles one request, or has its callbacks called, or is reported by one line
of the log.  `Station.Fate` lists these three ways and `Station.Meets` says for each of them what it
takes and everything that it does to the bridge.  `Station.message_accounted` proves that every
message meets exactly one fate, in every state that a run can reach.

A message that is a reply first lets the overdue requests fail.  `Bridge.Swept` is that part of its
effect, and no other message has it.
-/

namespace HostLink

/-- The line belongs to the settling of a request: its deadline has come, or nobody holds its
reply. -/
def LogEvent.OfSettling : LogEvent → Prop
  | .requestExpired .. | .settledUnheld .. => True
  | _ => False

namespace Bridge

variable {κ : Type} {bridge : Bridge κ} {now : Instant} {id : CorrelationId}

/-- The overdue requests have failed with the timeout: their entries are gone, their replies are
settled, and nothing else has changed. -/
structure Swept (bridge : Bridge κ) (now : Instant) (after : Bridge κ) : Prop where
  entries : after.pending.entries =
    bridge.pending.entries.filter fun entry => !entry.overdue now
  replies : ∀ ticket : Ticket, after.replies[ticket]? = (bridge.replies[ticket]?).map fun reply =>
    if ∃ entry ∈ bridge.pending.entries,
        entry.overdue now = true ∧ entry.settler.ticket = ticket then
      { reply with progress := .settled (.error .timeout) }
    else reply
  around : SameAround bridge after

theorem Matched.swept_expireOverdue (h : bridge.Matched) (now : Instant) :
    bridge.Swept now (bridge.expireOverdue now).1 :=
  ⟨congrArg PendingTable.entries (pending_expireOverdue bridge now),
    h.replies_expireOverdue now, sameAround_expireOverdue bridge now⟩

/-! ## The lines of a settling -/

theorem ofSettling_unheldLog (settler : Settler) (replies : List Reply) :
    ∀ line ∈ settler.unheldLog replies, line.OfSettling := by
  intro line hline
  unfold Settler.unheldLog at hline
  split at hline
  · split at hline
    · cases hline
    · rw [List.mem_singleton.1 hline]
      trivial
  · cases hline

theorem ofSettling_settleWith (bridge : Bridge κ) (settler : Settler) (outcome : Outcome) :
    ∀ line ∈ (bridge.settleWith settler outcome).2, line.OfSettling := by
  intro line hline
  simp only [settleWith, Settler.settle] at hline
  split at hline
  · cases hline
  · exact ofSettling_unheldLog settler bridge.replies line hline

theorem ofSettling_expireOverdue (bridge : Bridge κ) (now : Instant) :
    ∀ line ∈ (bridge.expireOverdue now).2, line.OfSettling := by
  have hfail (settlers : List Settler) (b : Bridge κ) :
      ∀ line ∈ (b.failExpired settlers).2, line.OfSettling := by
    induction settlers generalizing b with
    | nil =>
      intro line hline
      cases hline
    | cons settler rest ih =>
      intro line hline
      rcases List.mem_cons.1 hline with rfl | hline
      · trivial
      · rcases List.mem_append.1 hline with hline | hline
        · exact ofSettling_settleWith b settler _ line hline
        · exact ih _ line hline
  exact hfail _ _

/-! ## Replies -/

/-- An answer that finds its request: the sweep, the settling, and no other line. -/
theorem settle_of_found {entry : PendingEntry}
    (h : (bridge.expireOverdue now).1.pending.entry? id = some entry)
    (outcome : Except Json Json) :
    bridge.settle now id outcome =
      ((bridge.expireOverdue now).1.answered id (frozenOutcome outcome),
        (bridge.expireOverdue now).2 ++
          ({ (bridge.expireOverdue now).1 with
              pending := (bridge.expireOverdue now).1.pending.erase id }.settleWith entry.settler
            (frozenOutcome outcome)).2) := by
  unfold settle answered PendingTable.take
  rcases hswept : bridge.expireOverdue now with ⟨swept, log⟩
  rw [hswept] at h
  simp only at h ⊢
  rw [h]
  cases outcome <;> rfl

/-- An answer that finds no request is reported behind the sweep. -/
theorem settle_of_not_found (h : (bridge.expireOverdue now).1.pending.entry? id = none)
    (outcome : Except Json Json) :
    bridge.settle now id outcome =
      ((bridge.expireOverdue now).1,
        (bridge.expireOverdue now).2 ++ [.replyStale bridge.extension id]) := by
  unfold settle PendingTable.take
  rcases hswept : bridge.expireOverdue now with ⟨swept, log⟩
  rw [hswept] at h
  simp only at h ⊢
  rw [h]
  rfl

/-- The sweep leaves the entry of an id that is listed and not overdue. -/
theorem Matched.entry?_swept (h : bridge.Matched) (now : Instant) {entry : PendingEntry} :
    (bridge.expireOverdue now).1.pending.entry? id = some entry ↔
      entry ∈ bridge.pending.entries ∧ entry.overdue now = false ∧ entry.id = id := by
  rw [(h.expireOverdue now).entry?_eq_some_iff, pending_expireOverdue,
    PendingTable.mem_kept_iff, and_assoc]

/-- Taking away the id of an entry takes away that entry alone. -/
theorem Matched.erase_eq (h : bridge.Matched) {entry : PendingEntry}
    (hentry : entry ∈ bridge.pending.entries) :
    bridge.pending.erase entry.id = ⟨bridge.pending.entries.filter (· ≠ entry)⟩ := by
  refine congrArg PendingTable.mk (List.filter_congr fun other hother => ?_)
  refine decide_eq_decide.2 (not_congr ⟨h.entry_unique hother hentry, ?_⟩)
  rintro rfl
  rfl

end Bridge

namespace Station

variable {κ : Type}

/-! ## Fates -/

/-- What may become of a message. -/
inductive Fate (κ : Type) where
  /-- It settles the request of an entry. -/
  | settles (entry : PendingEntry) (outcome : Except Json Json)
  /-- It is an event, and these callbacks are called. -/
  | calls (callbacks : List κ) (body : Json)
  /-- A line of the log reports it. -/
  | reported (line : LogEvent)

/-- What handling a message writes to the log. -/
def lines (station : Station κ) (text : String) : List LogEvent :=
  (station.bridge.receive station.now text).2.1

/-- What handling a message calls. -/
def fanOut (station : Station κ) (text : String) : FanOut κ :=
  (station.bridge.receive station.now text).2.2

/-- The message as the bridge reads it. -/
def read (station : Station κ) (text : String) : Except EnvelopeError Inbound :=
  Inbound.parse station.bridge.config.wire text

/-- The message is a reply to a listed request that is not overdue.  That entry alone leaves the
table and its reply is settled with the outcome, next to the sweep; no callback is called. -/
structure Settles (station : Station κ) (text : String) (entry : PendingEntry)
    (outcome : Except Json Json) : Prop where
  message : station.read text = .ok (.reply entry.id outcome)
  listed : entry ∈ station.bridge.pending.entries
  early : entry.overdue station.now = false
  waiting : ∃ reply, station.bridge.replies[entry.settler.ticket]? = some reply ∧
    reply.progress = .waiting
  bridge : ∃ swept, station.bridge.Swept station.now swept ∧
    (station.perform (.receive text)).bridge =
      { swept with
        pending := ⟨swept.pending.entries.filter (· ≠ entry)⟩
        replies := swept.replies.modify entry.settler.ticket fun reply =>
          { reply with progress := .settled (frozenOutcome outcome) } }
  lines : ∀ line ∈ station.lines text, line.OfSettling
  silent : (station.fanOut text).callbacks = []

/-- The message is an event that somebody listens for.  Exactly the callbacks of its subscriptions
are called with it, and the bridge changes nothing and reports nothing. -/
structure Calls (station : Station κ) (text : String) (callbacks : List κ) (body : Json) :
    Prop where
  message : ∃ name, station.read text = .ok (.event name body) ∧
    callbacks = (station.bridge.registry.subscriptions.filter fun subscription =>
      subscription.event = name).map Subscription.callback
  heard : callbacks ≠ []
  fanOut : station.fanOut text = { callbacks, payload := .freeze body }
  bridge : (station.perform (.receive text)).bridge = station.bridge
  lines : station.lines text = []

/-- The line reports the message: a reply to no request that still waits, a fault report, a
malformed message, or an event that nobody listens for. -/
inductive Reports (station : Station κ) (text : String) : LogEvent → Prop
  | stale {id : CorrelationId} {outcome : Except Json Json}
      (message : station.read text = .ok (.reply id outcome))
      (unlisted : ∀ entry ∈ station.bridge.pending.entries,
        entry.id = id → entry.overdue station.now = true) :
      Reports station text (.replyStale station.bridge.extension id)
  | fault {error : Json} (message : station.read text = .ok (.fault error)) :
      Reports station text (.faultReported station.bridge.extension error)
  | malformed {cause : EnvelopeError} (message : station.read text = .error cause) :
      Reports station text
        (.inboundMalformed station.bridge.extension (.malformedEnvelope cause))
  | unheard {name : String} {body : Json}
      (message : station.read text = .ok (.event name body))
      (silent : ∀ subscription ∈ station.bridge.registry.subscriptions,
        subscription.event ≠ name) :
      Reports station text (.noSubscribers station.bridge.extension name)

/-- The message is reported by one line.  No callback is called and no request is settled by it: a
reply leaves what the sweep leaves, and any other message leaves the bridge as it was. -/
structure Reported (station : Station κ) (text : String) (line : LogEvent) : Prop where
  reports : station.Reports text line
  lines : ∃ settlings, station.lines text = settlings ++ [line] ∧
    ∀ other ∈ settlings, other.OfSettling
  swept : (∃ id outcome, station.read text = .ok (.reply id outcome)) →
    station.bridge.Swept station.now (station.perform (.receive text)).bridge
  untouched : (∀ id outcome, station.read text ≠ .ok (.reply id outcome)) →
    (station.perform (.receive text)).bridge = station.bridge ∧ station.lines text = [line]
  silent : (station.fanOut text).callbacks = []

/-- The message meets a fate. -/
def Meets (station : Station κ) (text : String) : Fate κ → Prop
  | .settles entry outcome => station.Settles text entry outcome
  | .calls callbacks body => station.Calls text callbacks body
  | .reported line => station.Reported text line

variable {station : Station κ} {text : String}

/-! ## Every message meets a fate -/

theorem receive_of_malformed {cause : EnvelopeError} (h : station.read text = .error cause) :
    station.bridge.receive station.now text =
      (station.bridge,
        [.inboundMalformed station.bridge.extension (.malformedEnvelope cause)], .none) := by
  unfold read at h
  simp only [Bridge.receive, h]

theorem receive_of_fault {error : Json} (h : station.read text = .ok (.fault error)) :
    station.bridge.receive station.now text =
      (station.bridge, [.faultReported station.bridge.extension error], .none) := by
  unfold read at h
  simp only [Bridge.receive, h]

theorem receive_of_event {name : String} {body : Json}
    (h : station.read text = .ok (.event name body)) :
    station.bridge.receive station.now text =
      (station.bridge, station.bridge.dispatch name body) := by
  unfold read at h
  simp only [Bridge.receive, h]

theorem receive_of_reply {id : CorrelationId} {outcome : Except Json Json}
    (h : station.read text = .ok (.reply id outcome)) :
    station.bridge.receive station.now text =
      ((station.bridge.settle station.now id outcome).1,
        (station.bridge.settle station.now id outcome).2, .none) := by
  unfold read at h
  simp only [Bridge.receive, h]

theorem settles_of_found (matched : station.bridge.Matched) {entry : PendingEntry}
    {outcome : Except Json Json} (message : station.read text = .ok (.reply entry.id outcome))
    (listed : entry ∈ station.bridge.pending.entries)
    (early : entry.overdue station.now = false) : station.Settles text entry outcome := by
  -- The sweep leaves the entry where it is, so the answer finds it.
  have hswept := matched.expireOverdue station.now
  have hfound := (matched.entry?_swept station.now).2 ⟨listed, early, rfl⟩
  have hkept := (PendingTable.mem_of_entry? hfound).1
  have hreceive := receive_of_reply message
  rw [Bridge.settle_of_found hfound] at hreceive
  have hanswered := Bridge.answered_of_found hfound (hswept.unsettled entry hkept)
    (frozenOutcome outcome)
  rw [hswept.erase_eq hkept] at hanswered
  obtain ⟨reply, hreply, hwaiting⟩ := hswept.waiting entry hkept
  refine ⟨message, listed, early, matched.waiting entry listed,
    ⟨_, matched.swept_expireOverdue station.now, ?_⟩, ?_, ?_⟩
  · -- Its reply waits, so settling it is writing the outcome.
    have hmodify : (station.bridge.expireOverdue station.now).1.replies.modify
        entry.settler.ticket (Reply.settle (frozenOutcome outcome)) =
        (station.bridge.expireOverdue station.now).1.replies.modify entry.settler.ticket
          fun reply => { reply with progress := .settled (frozenOutcome outcome) } := by
      refine List.ext_getElem? fun ticket => ?_
      rw [List.getElem?_modify, List.getElem?_modify]
      by_cases hticket : entry.settler.ticket = ticket
      · subst hticket
        rw [hreply]
        simp [Reply.settle_of_waiting hwaiting]
      · simp [hticket]
    simp only [perform, hreceive]
    rw [hanswered, hmodify]
  · intro line hline
    rw [lines, hreceive] at hline
    rcases List.mem_append.1 hline with hline | hline
    · exact Bridge.ofSettling_expireOverdue _ _ line hline
    · exact Bridge.ofSettling_settleWith _ _ _ line hline
  · rw [fanOut, hreceive]
    rfl

theorem reported_of_stale (matched : station.bridge.Matched) {id : CorrelationId}
    {outcome : Except Json Json} (message : station.read text = .ok (.reply id outcome))
    (unlisted : ∀ entry ∈ station.bridge.pending.entries,
      entry.id = id → entry.overdue station.now = true) :
    station.Reported text (.replyStale station.bridge.extension id) := by
  have hnone : (station.bridge.expireOverdue station.now).1.pending.entry? id = none := by
    rw [Option.eq_none_iff_forall_ne_some]
    intro entry hfound
    obtain ⟨hlisted, hearly, hid⟩ := (matched.entry?_swept station.now).1 hfound
    rw [unlisted entry hlisted hid] at hearly
    cases hearly
  have hreceive := receive_of_reply message
  rw [Bridge.settle_of_not_found hnone] at hreceive
  refine ⟨.stale message unlisted,
    ⟨_, congrArg (fun received => received.2.1) hreceive,
      Bridge.ofSettling_expireOverdue _ _⟩, fun _ => ?_, fun hno => ?_, ?_⟩
  · simp only [perform, hreceive]
    exact matched.swept_expireOverdue station.now
  · exact absurd message (hno id outcome)
  · rw [fanOut, hreceive]
    rfl

/-- A message that is no reply and calls nobody is reported by the one line that it leaves. -/
theorem reported_of_line {line : LogEvent} (reports : station.Reports text line)
    (h : ∀ id outcome, station.read text ≠ .ok (.reply id outcome))
    (hreceive : station.bridge.receive station.now text = (station.bridge, [line], .none)) :
    station.Reported text line := by
  have hlines : station.lines text = [line] := congrArg (fun received => received.2.1) hreceive
  refine ⟨reports, ⟨[], hlines, by simp⟩, ?_, fun _ => ⟨?_, hlines⟩, ?_⟩
  · rintro ⟨id, outcome, hreply⟩
    exact absurd hreply (h id outcome)
  · simp only [perform, hreceive]
  · rw [fanOut, hreceive]
    rfl

/-- An event calls its callbacks, or is reported if there are none. -/
theorem exists_meets_of_event {name : String} {body : Json}
    (message : station.read text = .ok (.event name body)) :
    ∃ fate, station.Meets text fate := by
  have hreceive := receive_of_event message
  unfold Bridge.dispatch at hreceive
  cases hcallbacks : station.bridge.registry.callbacks name with
  | nil =>
    rw [hcallbacks] at hreceive
    have silent : ∀ subscription ∈ station.bridge.registry.subscriptions,
        subscription.event ≠ name := by
      rw [Registry.callbacks, List.map_eq_nil_iff, List.filter_eq_nil_iff] at hcallbacks
      intro subscription hmem hname
      exact hcallbacks subscription hmem (decide_eq_true hname)
    exact ⟨.reported _, reported_of_line (.unheard message silent) (by simp [message]) hreceive⟩
  | cons first rest =>
    rw [hcallbacks] at hreceive
    refine ⟨.calls (first :: rest) body, ⟨name, message, hcallbacks.symm⟩,
      List.cons_ne_nil first rest, ?_, ?_, ?_⟩
    · exact congrArg (fun received => received.2.2) hreceive
    · simp only [perform, hreceive]
    · exact congrArg (fun received => received.2.1) hreceive

/-- A reply settles its request, or is reported if there is none that still waits. -/
theorem exists_meets_of_reply (matched : station.bridge.Matched) {id : CorrelationId}
    {outcome : Except Json Json} (message : station.read text = .ok (.reply id outcome)) :
    ∃ fate, station.Meets text fate := by
  by_cases hlisted : ∃ entry ∈ station.bridge.pending.entries,
      entry.id = id ∧ entry.overdue station.now = false
  · obtain ⟨entry, hentry, rfl, hearly⟩ := hlisted
    exact ⟨.settles entry outcome, settles_of_found matched message hentry hearly⟩
  · refine ⟨.reported _, reported_of_stale matched message fun entry hentry hid => ?_⟩
    rw [← Bool.not_eq_false]
    exact fun hearly => hlisted ⟨entry, hentry, hid, hearly⟩

theorem exists_meets (matched : station.bridge.Matched) (text : String) :
    ∃ fate, station.Meets text fate := by
  cases message : station.read text with
  | error cause =>
    exact ⟨.reported _, reported_of_line (.malformed message) (by simp [message])
      (receive_of_malformed message)⟩
  | ok inbound =>
    cases inbound with
    | reply id outcome => exact exists_meets_of_reply matched message
    | event name body => exact exists_meets_of_event message
    | fault error =>
      exact ⟨.reported _, reported_of_line (.fault message) (by simp [message])
        (receive_of_fault message)⟩

/-! ## No message meets two -/

/-- A message has one report. -/
theorem Reports.unique {line other : LogEvent} (h : station.Reports text line)
    (h' : station.Reports text other) : line = other := by
  cases h with
  | stale message =>
    cases h' with
    | stale message' => cases message.symm.trans message'; rfl
    | fault message' | malformed message' | unheard message' =>
      cases message.symm.trans message'
  | fault message =>
    cases h' with
    | fault message' => cases message.symm.trans message'; rfl
    | stale message' | malformed message' | unheard message' =>
      cases message.symm.trans message'
  | malformed message =>
    cases h' with
    | malformed message' => cases message.symm.trans message'; rfl
    | stale message' | fault message' | unheard message' =>
      cases message.symm.trans message'
  | unheard message =>
    cases h' with
    | unheard message' => cases message.symm.trans message'; rfl
    | stale message' | fault message' | malformed message' =>
      cases message.symm.trans message'

/-- A reply that settles a request is not reported as well. -/
theorem Settles.not_reports {entry : PendingEntry} {outcome : Except Json Json} {line : LogEvent}
    (h : station.Settles text entry outcome) : ¬station.Reports text line := by
  intro hreports
  cases hreports with
  | stale message unlisted =>
    cases h.message.symm.trans message
    cases h.early.symm.trans (unlisted entry h.listed rfl)
  | fault message | malformed message | unheard message =>
    cases h.message.symm.trans message

/-- An event that calls somebody is not reported as well. -/
theorem Calls.not_reports {callbacks : List κ} {body : Json} {line : LogEvent}
    (h : station.Calls text callbacks body) : ¬station.Reports text line := by
  intro hreports
  obtain ⟨name, hmessage, hcallbacks⟩ := h.message
  cases hreports with
  | unheard message silent =>
    cases hmessage.symm.trans message
    refine h.heard ?_
    rw [hcallbacks, List.map_eq_nil_iff, List.filter_eq_nil_iff]
    exact fun subscription hmem hname => silent subscription hmem (of_decide_eq_true hname)
  | fault message | malformed message | stale message =>
    cases hmessage.symm.trans message

theorem Settles.not_calls {entry : PendingEntry} {outcome : Except Json Json}
    {callbacks : List κ} {body : Json} (h : station.Settles text entry outcome) :
    ¬station.Calls text callbacks body := by
  intro hcalls
  obtain ⟨name, hmessage, -⟩ := hcalls.message
  cases h.message.symm.trans hmessage

theorem Settles.unique (matched : station.bridge.Matched) {entry other : PendingEntry}
    {outcome outcome' : Except Json Json} (h : station.Settles text entry outcome)
    (h' : station.Settles text other outcome') : entry = other ∧ outcome = outcome' := by
  have hsame := h.message.symm.trans h'.message
  injection hsame with hreply
  injection hreply with hid houtcome
  exact ⟨matched.entry_unique h.listed h'.listed hid, houtcome⟩

theorem Calls.unique {callbacks callbacks' : List κ} {body body' : Json}
    (h : station.Calls text callbacks body) (h' : station.Calls text callbacks' body') :
    callbacks = callbacks' ∧ body = body' := by
  obtain ⟨name, hmessage, rfl⟩ := h.message
  obtain ⟨name', hmessage', rfl⟩ := h'.message
  cases hmessage.symm.trans hmessage'
  exact ⟨rfl, rfl⟩

theorem Meets.unique (matched : station.bridge.Matched) {fate other : Fate κ}
    (h : station.Meets text fate) (h' : station.Meets text other) : fate = other := by
  cases fate with
  | settles entry outcome =>
    cases other with
    | settles entry' outcome' =>
      obtain ⟨rfl, rfl⟩ := Settles.unique matched h h'
      rfl
    | calls => exact absurd h' (Settles.not_calls h)
    | reported => exact absurd h'.reports (Settles.not_reports h)
  | calls callbacks body =>
    cases other with
    | settles => exact absurd h (Settles.not_calls h')
    | calls callbacks' body' =>
      obtain ⟨rfl, rfl⟩ := Calls.unique h h'
      rfl
    | reported => exact absurd h'.reports (Calls.not_reports h)
  | reported line =>
    cases other with
    | settles => exact absurd h.reports (Settles.not_reports h')
    | calls => exact absurd h.reports (Calls.not_reports h')
    | reported line' => rw [Reports.unique h.reports h'.reports]

/-- Whatever text comes in, in whatever state a run has brought a bridge to: exactly one thing
becomes of the message, and `Station.Meets` says what that does.  Besides, handling it posts
nothing, gives no id away, and changes neither the subscriptions nor the configuration. -/
theorem message_accounted (config : Config) (transport : Transport) (now : Instant)
    (operations : List (Operation κ)) (text : String) :
    let station : Station κ := (opened config transport now).run operations
    let after := station.perform (.receive text)
    (∃! fate, station.Meets text fate) ∧
      after.now = station.now ∧ after.transport = station.transport ∧
      after.bridge.nextId = station.bridge.nextId ∧
      Bridge.SameAround station.bridge after.bridge := by
  intro station after
  have matched : station.bridge.Matched := matched_run_opened config transport now operations
  obtain ⟨fate, hfate⟩ := exists_meets matched text
  have around : Bridge.SameAround station.bridge after.bridge := Bridge.sameAround_receive _ _ _
  exact ⟨⟨fate, hfate, fun other hother => Meets.unique matched hother hfate⟩, rfl, rfl,
    congrArg CorrelationId.ofTicket around.length, around⟩

end Station
end HostLink
