import HostLink.Proofs.Sessions
import HostLink.Proofs.Timeline

/-!
# Readiness

A reply that is ready because something has happened to it stays ready with that outcome.  A reply
that is ready because its deadline has come is another matter: nobody has acted on the deadline yet,
and whoever acts first decides.  At a bridge the sweep and the caller's own look both find the
timeout, and every inbound reply begins with a sweep, so nothing can overtake the deadline but the
end of the bridge.  A reply without a bridge has no sweep.  A settler does not know the deadline, so
whatever it does late overtakes it.

`readiness_law` says what an overdue reply comes to on either side, and `readiness_overtaken` has
short runs in which it is not the timeout.
-/

namespace HostLink

/-! ## Decisions -/

namespace Reply

/-- What has happened to the reply has decided its outcome. -/
def decision? (reply : Reply) : Option Outcome :=
  match reply.progress with
  | .settled outcome => some outcome
  | .abandoned => some (.error .closed)
  | .waiting => none

variable {reply : Reply} {outcome : Outcome}

theorem decision?_eq_none : reply.decision? = none ↔ reply.progress = .waiting := by
  unfold decision?
  split <;> simp_all

theorem outcome?_of_decision (h : reply.decision? = some outcome) (now : Instant) :
    reply.outcome? now = some outcome := by
  unfold decision? at h
  unfold outcome?
  cases hprogress : reply.progress <;> simp_all

theorem outcome?_of_waiting (h : reply.progress = .waiting) (now : Instant) :
    reply.outcome? now = if reached now reply.due then some (.error .timeout) else none := by
  rw [outcome?, h]

/-- A decision stays. -/
theorem Follows.decision? {later : Reply} (hfollows : reply.Follows later)
    (h : reply.decision? = some outcome) : later.decision? = some outcome := by
  have hdecided : reply.progress ≠ .waiting := fun hwaiting => by
    rw [decision?_eq_none.2 hwaiting] at h
    cases h
  unfold Reply.decision?
  rw [hfollows.progress hdecided]
  exact h

/-- A look goes by the same instant as the looks before. -/
theorem due_watch (reply : Reply) : reply.watch.due = reply.due := by
  unfold watch
  split
  · next instant hdue =>
    rw [hdue]
    unfold due at hdue ⊢
    cases hdeadline : reply.deadline with
    | none => simp [hdeadline] at hdue
    | some deadline => simp
  · rfl

/-- What a look leaves of the reply. -/
def looked (now : Instant) (reply : Reply) : Reply :=
  if (reply.outcome? now).isSome then reply.release else reply.watch

theorem poll_eq (now : Instant) (ticket : Ticket) (replies : List Reply) :
    (poll now ticket replies).1 = (replies[ticket]?).bind (outcome? now) ∧
      (poll now ticket replies).2.1 = replies.modify ticket (looked now) := by
  unfold poll
  cases hreply : replies[ticket]? with
  | none => exact ⟨rfl, (List.modify_eq_self (List.getElem?_eq_none_iff.1 hreply)).symm⟩
  | some reply =>
    -- Only the reply that is looked at matters for what `modify` does.
    have hmodify (f : Reply → Reply) (h : looked now reply = f reply) :
        replies.modify ticket f = replies.modify ticket (looked now) := by
      refine List.ext_getElem? fun other => ?_
      simp only [List.getElem?_modify]
      split
      · next heq => simp [← heq, hreply, h]
      · rfl
    cases hready : reply.outcome? now with
    | none =>
      have hwatched := hmodify watch (by simp [looked, hready])
      simpa [hready] using hwatched
    | some outcome =>
      have hreleased := hmodify release (by simp [looked, hready])
      cases hprogress : reply.progress <;> simpa [hready, hprogress] using hreleased

theorem looked_progress (now : Instant) (reply : Reply) :
    (reply.looked now).progress = reply.progress := by
  unfold looked
  split
  · rfl
  · exact watch_progress reply

theorem due_looked (now : Instant) (reply : Reply) : (reply.looked now).due = reply.due := by
  unfold looked
  split
  · rfl
  · exact due_watch reply

theorem held_of_looked {now : Instant} (h : (reply.looked now).held = true) :
    reply.held = true := by
  unfold looked at h
  split at h
  · cases h
  · rwa [watch_held] at h

end Reply

/-! ## Replies of a bridge -/

namespace Station

variable {κ : Type} {station : Station κ} {ticket : Ticket} {outcome : Outcome}

/-- What the caller would find at a look. -/
def look (station : Station κ) (ticket : Ticket) : Option Outcome :=
  (station.bridge.poll station.now ticket).1

theorem look_eq (station : Station κ) (ticket : Ticket) :
    station.look ticket = (station.bridge.replies[ticket]?).bind (Reply.outcome? station.now) :=
  Bridge.poll_fst _ _ _

/-- A decided reply shows its decision ever after. -/
theorem look_run_of_decision {reply : Reply} (hreply : station.bridge.replies[ticket]? = some reply)
    (h : reply.decision? = some outcome) (operations : List (Operation κ)) :
    (station.run operations).look ticket = some outcome := by
  obtain ⟨later, hlater, hfollows⟩ := continues_run station operations ticket reply hreply
  rw [look_eq, hlater]
  exact Reply.outcome?_of_decision (hfollows.decision? h) _

/-- The end of the bridge decides a waiting request. -/
theorem Waits.close {deadline : Option Instant} (h : station.Waits ticket deadline)
    (coherent : station.bridge.Coherent)
    (bound : (station.perform .close).bridge.replies.length ≤ UInt64.size) :
    ∃ later, (station.perform .close).bridge.replies[ticket]? = some later ∧
      later.decision? = some (.error .closed) := by
  obtain ⟨reply, hreply, hwaiting, -, hlists⟩ := h
  have hbefore : station.bridge.replies.length ≤ UInt64.size := by
    rw [length_replies_perform] at bound
    exact bound
  have hclosed := coherent.replies_close hbefore ticket
  rw [hreply, Option.map_some, if_pos hlists] at hclosed
  refine ⟨reply.abandon, hclosed, ?_⟩
  rw [Reply.abandon, hwaiting]
  rfl

/-- An overdue reply comes to the timeout, unless the bridge is closed before anyone looks. -/
theorem look_run_of_overdue {deadline : Option Instant} (coherent : station.bridge.Coherent)
    {operations : List (Operation κ)}
    (bound : (station.run operations).bridge.replies.length ≤ UInt64.size)
    (unarmed : ∀ timeout, .arm ticket timeout ∉ operations)
    (held : (station.run operations).Holds ticket) (h : station.Waits ticket deadline)
    (overdue : Reply.reached station.now deadline = true) :
    (station.run operations).look ticket = some (.error .timeout) ∨
      .close ∈ operations ∧ (station.run operations).look ticket = some (.error .closed) := by
  induction operations generalizing station with
  | nil =>
    obtain ⟨reply, hreply, hwaiting, rfl, -⟩ := h
    refine .inl ?_
    rw [run_nil, look_eq, hreply, Option.bind_some, Reply.outcome?_of_waiting hwaiting,
      (coherent.punctual hreply).due_eq, if_pos overdue]
  | cons operation rest ih =>
    rw [run_cons] at bound held ⊢
    have hgrown := length_replies_run (station.perform operation) rest
    have hbound : (station.perform operation).bridge.replies.length ≤ UInt64.size := by omega
    by_cases hclose : operation = .close
    · subst hclose
      obtain ⟨later, hlater, hdecision⟩ := h.close coherent hbound
      exact .inr ⟨List.mem_cons_self, look_run_of_decision hlater hdecision rest⟩
    · have hunarmed : ∀ timeout, operation ≠ .arm ticket timeout := by
        rintro timeout rfl
        exact unarmed timeout List.mem_cons_self
      rcases turn_perform coherent operation hbound hclose hunarmed h with
        ⟨hwaits, -⟩ | hreleased | ⟨-, reply, hreply, hsettled⟩ | ⟨-, -, hearly, -⟩
      · have hlater : Reply.reached (station.perform operation).now deadline = true :=
          reached_mono (now_le_perform station operation) overdue
        refine (ih (coherent_perform coherent operation hbound) bound
          (fun timeout hmem => unarmed timeout (List.mem_cons_of_mem _ hmem)) held hwaits
          hlater).imp_right ?_
        exact And.imp_left (List.mem_cons_of_mem _)
      · obtain ⟨reply, hreply, -⟩ := h
        obtain ⟨next, hnext, -⟩ := continues_perform station operation ticket reply hreply
        exact absurd ⟨next, hnext, held.of_run hnext⟩ hreleased
      · refine .inl (look_run_of_decision hreply ?_ rest)
        rw [Reply.decision?, hsettled]
      · rw [overdue] at hearly
        cases hearly

/-- A look that finds an outcome at one point of a run finds the same later, as long as the reply is
held and its clock is not restarted; only an overdue reply can instead be found closed, once the
bridge was. -/
theorem look_run (reachable : station.Reachable) {operations : List (Operation κ)}
    (bound : (station.run operations).bridge.replies.length ≤ UInt64.size)
    (unarmed : ∀ timeout, .arm ticket timeout ∉ operations)
    (held : (station.run operations).Holds ticket) (ready : station.look ticket = some outcome) :
    (station.run operations).look ticket = some outcome ∨
      outcome = .error .timeout ∧ .close ∈ operations ∧
        (station.run operations).look ticket = some (.error .closed) := by
  have hgrown := length_replies_run station operations
  have coherent : station.bridge.Coherent := by
    obtain ⟨config, transport, now, earlier, rfl⟩ := reachable
    exact coherent_run (Bridge.coherent_of_new config) (by omega)
  rw [look_eq] at ready
  obtain ⟨reply, hreply, hready⟩ := Option.bind_eq_some_iff.1 ready
  cases hdecision : reply.decision? with
  | some decided =>
    obtain rfl : decided = outcome := by
      rw [Reply.outcome?_of_decision hdecision] at hready
      exact Option.some.inj hready
    exact .inl (look_run_of_decision hreply hdecision operations)
  | none =>
    have hwaiting := Reply.decision?_eq_none.1 hdecision
    rw [Reply.outcome?_of_waiting hwaiting, (coherent.punctual hreply).due_eq] at hready
    split at hready
    · next overdue =>
      obtain rfl := Option.some.inj hready
      have hlists := coherent.held_listed hreply (held.of_run hreply) hwaiting
      exact (look_run_of_overdue coherent bound unarmed held ⟨reply, hreply, hwaiting, rfl, hlists⟩
        overdue).imp_right fun h => ⟨rfl, h⟩
    · cases hready

end Station

/-! ## Replies without a bridge -/

/-- Replies that were made without a bridge, and the clock that they read. -/
structure Desk where
  now : Instant := 0
  replies : List Reply := []

namespace Desk

/-- What happens at a desk.  Settlers are objects of their own, and any may turn up. -/
inductive Act where
  | channel (id : CorrelationId)
  | settle (settler : Settler) (outcome : Outcome)
  | drop (settler : Settler)
  | poll (ticket : Ticket)
  | arm (ticket : Ticket) (timeout : Nanoseconds)
  | release (ticket : Ticket)
  | advance (time : Nanoseconds)

/-- The outcome that an act through a settler gives to a reply that waits. -/
def Act.brings? (ticket : Ticket) : Act → Option Outcome
  | .settle settler outcome =>
    if settler.ticket = ticket ∧ settler.settled = false then some outcome else none
  | .drop settler =>
    if settler.ticket = ticket ∧ settler.settled = false then some (.error .closed) else none
  | _ => none

/-- The desk behind one act. -/
def perform (desk : Desk) : Act → Desk
  | .channel id => { desk with replies := (Settler.channel id desk.replies).2 }
  | .settle settler outcome =>
    { desk with replies := (settler.settle outcome desk.replies).2.2.1 }
  | .drop settler => { desk with replies := settler.drop desk.replies }
  | .poll ticket => { desk with replies := (Reply.poll desk.now ticket desk.replies).2.1 }
  | .arm ticket timeout =>
    { desk with replies := desk.replies.modify ticket (Reply.expireAt (desk.now + timeout)) }
  | .release ticket => { desk with replies := desk.replies.modify ticket Reply.release }
  | .advance time => { desk with now := desk.now + time }

/-- The desk behind a run. -/
def run (desk : Desk) (acts : List Act) : Desk := acts.foldl perform desk

/-- What the caller would find at a look. -/
def look (desk : Desk) (ticket : Ticket) : Option Outcome :=
  (Reply.poll desk.now ticket desk.replies).1

theorem look_eq (desk : Desk) (ticket : Ticket) :
    desk.look ticket = (desk.replies[ticket]?).bind (Reply.outcome? desk.now) :=
  (Reply.poll_eq _ _ _).1

variable {desk : Desk} {ticket : Ticket} {outcome : Outcome} {reply : Reply}

/-- Settling or giving up the reply of a settler, seen from the reply of a ticket. -/
theorem modify_by_settler (hreply : desk.replies[ticket]? = some reply) (settler : Settler)
    {f : Reply → Reply} (hfollows : reply.Follows (f reply))
    (hdecides : reply.progress = .waiting → (f reply).decision? = some outcome) :
    ∃ later, (if settler.settled = true then desk.replies
        else desk.replies.modify settler.ticket f)[ticket]? = some later ∧
      reply.Follows later ∧
      match if settler.ticket = ticket ∧ settler.settled = false then some outcome else none with
      | some brought => reply.progress = .waiting → later.decision? = some brought
      | none => later.progress = reply.progress ∧ later.due = reply.due := by
  by_cases hsettled : settler.settled = true
  · exact ⟨reply, by simpa [hsettled] using hreply, .refl reply, by simp [hsettled]⟩
  · by_cases hticket : settler.ticket = ticket
    · exact ⟨f reply, by simp [hsettled, hticket, hreply], hfollows, by simpa [hsettled, hticket]⟩
    · exact ⟨reply, by simp [hsettled, List.getElem?_modify_ne _ _ hticket, hreply], .refl reply,
        by simp [hticket]⟩

/-- What one act does to a reply: an act through its settler gives it an outcome if it waits, and
any other act that does not restart its clock keeps its progress and the instant at which it is
due. -/
theorem perform_reply (hreply : desk.replies[ticket]? = some reply) (act : Act)
    (unarmed : ∀ timeout, act ≠ .arm ticket timeout) :
    ∃ later, (desk.perform act).replies[ticket]? = some later ∧
      reply.Follows later ∧
      match act.brings? ticket with
      | some brought => reply.progress = .waiting → later.decision? = some brought
      | none => later.progress = reply.progress ∧ later.due = reply.due := by
  cases act with
  | channel id =>
    have hlt := (List.getElem?_eq_some_iff.1 hreply).1
    exact ⟨reply, (List.getElem?_append_left hlt).trans hreply, .refl reply, rfl, rfl⟩
  | settle settler outcome =>
    obtain ⟨later, hlater, h⟩ := modify_by_settler hreply settler (.settle reply outcome)
      fun hwaiting => by rw [Reply.settle_of_waiting hwaiting, Reply.decision?]
    refine ⟨later, ?_, h⟩
    rw [← hlater]
    simp only [perform, Settler.settle]
    split <;> rfl
  | drop settler =>
    exact modify_by_settler hreply settler (.abandon reply)
      fun hwaiting => by rw [Reply.abandon, hwaiting, Reply.decision?]
  | poll other =>
    simp only [perform, (Reply.poll_eq _ _ _).2, List.getElem?_modify, hreply]
    refine ⟨_, rfl, ?_⟩
    beta_reduce
    split
    · exact ⟨⟨Reply.held_of_looked, fun _ => Reply.looked_progress _ _⟩,
        Reply.looked_progress _ _, Reply.due_looked _ _⟩
    · exact ⟨.refl reply, rfl, rfl⟩
  | arm other timeout =>
    have hne : other ≠ ticket := fun heq => unarmed timeout (heq ▸ rfl)
    exact ⟨reply, by simpa [perform, List.getElem?_modify_ne _ _ hne] using hreply, .refl reply,
      rfl, rfl⟩
  | release other =>
    simp only [perform, List.getElem?_modify, hreply]
    refine ⟨_, rfl, ?_⟩
    beta_reduce
    split
    · exact ⟨⟨by simp [Reply.release], fun _ => rfl⟩, rfl, rfl⟩
    · exact ⟨.refl reply, rfl, rfl⟩
  | advance time => exact ⟨reply, hreply, .refl reply, rfl, rfl⟩

theorem now_le_perform (desk : Desk) (act : Act) : desk.now ≤ (desk.perform act).now := by
  cases act with
  | advance time => exact Nat.le_add_right _ _
  | _ => exact Nat.le_refl _

/-- A decided reply shows its decision ever after. -/
theorem look_run_of_decision (hreply : desk.replies[ticket]? = some reply)
    (h : reply.decision? = some outcome) {acts : List Act}
    (unarmed : ∀ timeout, .arm ticket timeout ∉ acts) :
    (desk.run acts).look ticket = some outcome := by
  induction acts generalizing desk reply with
  | nil =>
    rw [show desk.run [] = desk from rfl, look_eq, hreply]
    exact Reply.outcome?_of_decision h _
  | cons act rest ih =>
    obtain ⟨later, hlater, hfollows, -⟩ := perform_reply hreply act fun timeout heq =>
      unarmed timeout (heq ▸ List.mem_cons_self)
    exact ih hlater (hfollows.decision? h) fun timeout hmem =>
      unarmed timeout (List.mem_cons_of_mem _ hmem)

/-- An overdue reply comes to what is first brought to it late, and to the timeout if nothing is. -/
theorem look_run_of_overdue (hreply : desk.replies[ticket]? = some reply)
    (hwaiting : reply.progress = .waiting) (overdue : Reply.reached desk.now reply.due = true)
    {acts : List Act} (unarmed : ∀ timeout, .arm ticket timeout ∉ acts) :
    (desk.run acts).look ticket =
      some ((acts.findSome? (Act.brings? ticket)).getD (.error .timeout)) := by
  induction acts generalizing desk reply with
  | nil =>
    rw [show desk.run [] = desk from rfl, look_eq, hreply, Option.bind_some,
      Reply.outcome?_of_waiting hwaiting, if_pos overdue]
    rfl
  | cons act rest ih =>
    have hunarmed : ∀ timeout, .arm ticket timeout ∉ rest := fun timeout hmem =>
      unarmed timeout (List.mem_cons_of_mem _ hmem)
    obtain ⟨later, hlater, -, heffect⟩ := perform_reply hreply act fun timeout heq =>
      unarmed timeout (heq ▸ List.mem_cons_self)
    rw [show desk.run (act :: rest) = (desk.perform act).run rest from rfl, List.findSome?_cons]
    cases hbrings : act.brings? ticket with
    | some brought =>
      rw [hbrings] at heffect
      exact look_run_of_decision hlater (heffect hwaiting) hunarmed
    | none =>
      rw [hbrings] at heffect
      refine ih hlater (heffect.1.trans hwaiting) ?_ hunarmed
      rw [heffect.2]
      exact reached_mono (now_le_perform desk act) overdue

/-- A look that finds an outcome at one point of a run finds the same later, as long as the clock of
the reply is not restarted; only an overdue reply can instead come to what is first brought to it.
-/
theorem look_run {acts : List Act} (unarmed : ∀ timeout, .arm ticket timeout ∉ acts)
    (ready : desk.look ticket = some outcome) :
    (desk.run acts).look ticket = some outcome ∨
      outcome = .error .timeout ∧
        (desk.run acts).look ticket = acts.findSome? (Act.brings? ticket) := by
  rw [look_eq] at ready
  obtain ⟨reply, hreply, hready⟩ := Option.bind_eq_some_iff.1 ready
  cases hdecision : reply.decision? with
  | some decided =>
    obtain rfl : decided = outcome := by
      rw [Reply.outcome?_of_decision hdecision] at hready
      exact Option.some.inj hready
    exact .inl (look_run_of_decision hreply hdecision unarmed)
  | none =>
    have hwaiting := Reply.decision?_eq_none.1 hdecision
    rw [Reply.outcome?_of_waiting hwaiting] at hready
    split at hready
    · next overdue =>
      obtain rfl := Option.some.inj hready
      rw [look_run_of_overdue hreply hwaiting overdue unarmed]
      cases acts.findSome? (Act.brings? ticket) with
      | some brought => exact .inr ⟨rfl, rfl⟩
      | none => exact .inl rfl
    · cases hready

end Desk

/-! ## The law -/

/-- In every run of a bridge with at most `2 ^ 64` requests, and in every run of replies without a
bridge: a reply that is ready stays ready with its outcome while its clock is not restarted, unless
it is overdue and nobody has acted on that.  Then the end of the bridge closes it, and without a
bridge it takes what is first brought to it. -/
theorem readiness_law {κ : Type} (ticket : Ticket) (outcome : Outcome) :
    (∀ (station : Station κ) (operations : List (Operation κ)), station.Reachable →
      (station.run operations).bridge.replies.length ≤ UInt64.size →
      (∀ timeout, .arm ticket timeout ∉ operations) → (station.run operations).Holds ticket →
      station.look ticket = some outcome →
      (station.run operations).look ticket = some outcome ∨
        outcome = .error .timeout ∧ .close ∈ operations ∧
          (station.run operations).look ticket = some (.error .closed)) ∧
    (∀ (desk : Desk) (acts : List Desk.Act), (∀ timeout, .arm ticket timeout ∉ acts) →
      desk.look ticket = some outcome →
      (desk.run acts).look ticket = some outcome ∨
        outcome = .error .timeout ∧
          (desk.run acts).look ticket = acts.findSome? (Desk.Act.brings? ticket)) :=
  ⟨fun _ _ reachable bound unarmed held ready =>
      Station.look_run reachable bound unarmed held ready,
    fun _ _ unarmed ready => Desk.look_run unarmed ready⟩

/-- An overdue request whose bridge is closed, and an overdue reply without a bridge that is settled
or given up late: none of them times out. -/
theorem readiness_overtaken :
    let station : Station Unit :=
      (Station.opened {} { id := "host", medium := .memory {} } 0).run
        [.send "first" .absent (some 5), .advance 5]
    let desk : Desk := ({} : Desk).run [.channel ⟨5⟩, .arm 0 10, .advance 10]
    let settler : Settler := { id := ⟨5⟩, ticket := 0 }
    station.look 0 = some (.error .timeout) ∧ (station.run [.close]).Holds 0 ∧
      (station.run [.close]).look 0 = some (.error .closed) ∧
      desk.look 0 = some (.error .timeout) ∧
      (desk.run [.settle settler (.ok (.freeze (.bool true)))]).look 0 =
        some (.ok (.freeze (.bool true))) ∧
      (desk.run [.drop settler]).look 0 = some (.error .closed) := by
  intro station desk settler
  have hheld : ((station.run [.close]).bridge.replies[0]?.any Reply.held) = true := by
    decide +kernel
  obtain ⟨reply, hreply, hreplyHeld⟩ := (Option.any_eq_true _ _).1 hheld
  exact ⟨by cbv, ⟨reply, hreply, hreplyHeld⟩, by cbv, by cbv, by cbv, by cbv⟩

/-- An overdue request that is swept goes on showing the timeout, and a reply without a bridge that
was settled in time keeps its outcome past its deadline. -/
theorem readiness_law_of_swept_and_settled :
    let station : Station Unit :=
      (Station.opened {} { id := "host", medium := .memory {} } 0).run
        [.send "first" .absent (some 5), .advance 5]
    let desk : Desk := ({} : Desk).run
      [.channel ⟨5⟩, .arm 0 10, .settle { id := ⟨5⟩, ticket := 0 } (.error .closed)]
    (station.run [.pendingCount, .advance 1]).look 0 = some (.error .timeout) ∧
      (desk.run [.advance 20, .drop { id := ⟨5⟩, ticket := 0 }]).look 0 =
        some (.error .closed) := by
  intro station desk
  have hheld : ((station.run [.pendingCount, .advance 1]).bridge.replies[0]?.any Reply.held) =
      true := by
    decide +kernel
  obtain ⟨reply, hreply, hreplyHeld⟩ := (Option.any_eq_true _ _).1 hheld
  have hswept := (readiness_law (κ := Unit) 0 (.error .timeout)).1 station
    [.pendingCount, .advance 1] ⟨{}, { id := "host", medium := .memory {} }, 0, _, rfl⟩
    (by decide +kernel) (by simp) ⟨reply, hreply, hreplyHeld⟩ (by cbv)
  have hsettled := (readiness_law (κ := Unit) 0 (.error .closed)).2 desk
    [.advance 20, .drop { id := ⟨5⟩, ticket := 0 }] (by simp) (by cbv)
  exact ⟨by simpa using hswept, by simpa using hsettled⟩

end HostLink
