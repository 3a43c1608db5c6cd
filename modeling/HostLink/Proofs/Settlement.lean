import HostLink.Proofs.Readiness

/-!
# A settler settles once

A settler and its reply have lives of their own.  The settler may be told to resolve, reject or fail
any number of times, in any order; the reply may be looked at or let go of at any point between; and
the settler may go away without having been told anything.  `Exchange.settles_once` says that the
first time it is told counts and no other does, that whether the reply is still held makes no
difference to the settler, and that a settler which goes away in silence closes its reply.

An exchange is the two halves together: the settler in its owner's hands, and the desk at which the
reply lies.  All else that happens at the desk, with other settlers and replies, may happen between
as well.
-/

namespace HostLink

/-- The act neither settles the reply nor starts its clock.  Looking at the reply and letting go of
it are such acts. -/
structure Desk.Act.Spares (ticket : Ticket) (act : Desk.Act) : Prop where
  brings_none : act.brings? ticket = none
  unarmed : ∀ timeout, act ≠ .arm ticket timeout

/-- A settler, and the desk with its reply. -/
structure Exchange where
  settler : Settler
  desk : Desk

namespace Exchange

/-- What happens in an exchange: the settler is told to settle, or something happens at the desk. -/
inductive Act where
  | call (settlement : Settlement)
  | aside (act : Desk.Act)

/-- What the settler is told. -/
def Act.call? : Act → Option Settlement
  | .call settlement => some settlement
  | .aside _ => none

/-- What the settler was told first. -/
def first? (acts : List Act) : Option Settlement := acts.findSome? Act.call?

/-- A fresh pair at a desk. -/
def opened (desk : Desk) (id : CorrelationId) : Exchange :=
  let (settler, replies) := Settler.channel id desk.replies
  { settler, desk := { desk with replies } }

/-- Tell the settler to settle, with its answer. -/
def call (exchange : Exchange) (settlement : Settlement) : Except BridgeError Unit × Exchange :=
  let (result, settler, replies, _) :=
    exchange.settler.settle settlement.outcome exchange.desk.replies
  (result, { settler, desk := { exchange.desk with replies } })

/-- The settler goes away. -/
def drop (exchange : Exchange) : Desk := exchange.desk.perform (.drop exchange.settler)

/-- The exchange behind one act. -/
def perform (exchange : Exchange) : Act → Exchange
  | .call settlement => (exchange.call settlement).2
  | .aside act => { exchange with desk := exchange.desk.perform act }

/-- The exchange behind a run. -/
def run (exchange : Exchange) (acts : List Act) : Exchange := acts.foldl perform exchange

/-! ## Calls -/

variable {exchange : Exchange} {id : CorrelationId} {ticket : Ticket} {first : Option Settlement}

/-- A settler that has settled refuses and leaves everything as it is. -/
theorem call_of_settled (h : exchange.settler.settled = true) (settlement : Settlement) :
    exchange.call settlement = (.error (.alreadySettled exchange.settler.id), exchange) := by
  simp [call, Settler.settle, h]

/-- A settler that has not settled does so, whatever has become of the reply. -/
theorem call_of_unsettled (h : exchange.settler.settled = false) (settlement : Settlement) :
    exchange.call settlement = (.ok (),
      { settler := { exchange.settler with settled := true }
        desk := exchange.desk.perform (.settle exchange.settler settlement.outcome) }) := by
  simp [call, Desk.perform, Settler.settle, h]

/-! ## What an exchange has come to -/

/-- The settler has been told this first, or nothing yet, and the reply shows it. -/
structure Stands (exchange : Exchange) (id : CorrelationId) (ticket : Ticket)
    (first : Option Settlement) : Prop where
  id_eq : exchange.settler.id = id
  ticket_eq : exchange.settler.ticket = ticket
  settled_eq : exchange.settler.settled = first.isSome
  /-- A reply that waits has no deadline, so time brings it nothing. -/
  reply : ∃ reply, exchange.desk.replies[ticket]? = some reply ∧
    reply.decision? = first.map Settlement.outcome ∧ (first = none → reply.due = none)

theorem stands_opened (desk : Desk) (id : CorrelationId) :
    (opened desk id).Stands id desk.replies.length none where
  id_eq := rfl
  ticket_eq := rfl
  settled_eq := rfl
  reply := ⟨{ id := id }, List.getElem?_concat_length, rfl, fun _ => rfl⟩

/-- A call counts if it is the first. -/
theorem Stands.call (h : exchange.Stands id ticket first) (settlement : Settlement) :
    (exchange.call settlement).2.Stands id ticket (first.or (some settlement)) := by
  cases first with
  | some earlier =>
    rw [call_of_settled h.settled_eq]
    exact h
  | none =>
    rw [call_of_unsettled h.settled_eq]
    obtain ⟨reply, hreply, hdecision, -⟩ := h.reply
    obtain ⟨later, hlater, -, heffect⟩ := Desk.perform_reply hreply
      (.settle exchange.settler settlement.outcome) (by simp)
    have hbrings : (Desk.Act.settle exchange.settler settlement.outcome).brings? ticket =
        some settlement.outcome := if_pos ⟨h.ticket_eq, h.settled_eq⟩
    rw [hbrings] at heffect
    exact ⟨h.id_eq, h.ticket_eq, rfl, later, hlater, heffect (Reply.decision?_eq_none.1 hdecision),
      nofun⟩

/-- What happens aside changes nothing between the settler and its reply. -/
theorem Stands.aside (h : exchange.Stands id ticket first) {act : Desk.Act}
    (spared : act.Spares ticket) :
    (exchange.perform (.aside act)).Stands id ticket first := by
  obtain ⟨reply, hreply, hdecision, hdue⟩ := h.reply
  obtain ⟨later, hlater, -, heffect⟩ := Desk.perform_reply hreply act spared.unarmed
  rw [spared.brings_none] at heffect
  obtain ⟨hprogress, hlaterDue⟩ := heffect
  refine ⟨h.id_eq, h.ticket_eq, h.settled_eq, later, hlater, ?_, fun hfirst => ?_⟩
  · rw [← hdecision, Reply.decision?, Reply.decision?, hprogress]
  · rw [hlaterDue, hdue hfirst]

/-- Behind a run it stands as the first call has left it. -/
theorem Stands.run (h : exchange.Stands id ticket first) {acts : List Act}
    (spared : ∀ act, .aside act ∈ acts → act.Spares ticket) :
    (exchange.run acts).Stands id ticket (first.or (first? acts)) := by
  induction acts generalizing exchange first with
  | nil => rwa [first?, List.findSome?_nil, Option.or_none]
  | cons act rest ih =>
    have hspared : ∀ act, .aside act ∈ rest → act.Spares ticket := fun act hmem =>
      spared act (List.mem_cons_of_mem _ hmem)
    cases act with
    | call settlement =>
      have hrest := ih (h.call settlement) hspared
      rwa [Option.or_assoc, Option.some_or] at hrest
    | aside act => exact ih (h.aside (spared act List.mem_cons_self)) hspared

/-- A look at the reply finds what the settler was told first, and nothing before. -/
theorem Stands.look (h : exchange.Stands id ticket first) :
    exchange.desk.look ticket = first.map Settlement.outcome := by
  obtain ⟨reply, hreply, hdecision, hdue⟩ := h.reply
  rw [Desk.look_eq, hreply, Option.bind_some]
  cases first with
  | some settlement => exact Reply.outcome?_of_decision hdecision _
  | none =>
    rw [Reply.outcome?_of_waiting (Reply.decision?_eq_none.1 hdecision), hdue rfl]
    rfl

/-- Once the settler has gone away, a look at the reply finds what the settler was told first, and
the end of the exchange if it was told nothing. -/
theorem Stands.look_drop (h : exchange.Stands id ticket first) {later : List Desk.Act}
    (unarmed : ∀ timeout, .arm ticket timeout ∉ later) :
    (exchange.drop.run later).look ticket =
      (first.map Settlement.outcome).or (some (.error .closed)) := by
  obtain ⟨reply, hreply, hdecision, -⟩ := h.reply
  obtain ⟨left, hleft, hfollows, heffect⟩ := Desk.perform_reply hreply (.drop exchange.settler)
    (by simp)
  cases first with
  | some settlement => exact Desk.look_run_of_decision hleft (hfollows.decision? hdecision) unarmed
  | none =>
    have hbrings : (Desk.Act.drop exchange.settler).brings? ticket = some (.error .closed) :=
      if_pos ⟨h.ticket_eq, h.settled_eq⟩
    rw [hbrings] at heffect
    exact Desk.look_run_of_decision hleft (heffect (Reply.decision?_eq_none.1 hdecision)) unarmed

/-! ## The law -/

/-- A look finds what the settler was told first: the payload if it was to resolve, the value as an
error of the far side if it was to reject, and the error itself if it was to fail.  It finds
`untold` if the settler was told nothing. -/
structure Reveals (first : Option Settlement) (untold found : Option Outcome) : Prop where
  resolved : ∀ payload, first = some (.resolve payload) → found = some (.ok payload)
  rejected : ∀ value, first = some (.reject value) → found = some (.error (.remote value))
  failed : ∀ error, first = some (.fail error) → found = some (.error error)
  silent : first = none → found = untold

theorem reveals_outcome (first : Option Settlement) (untold : Option Outcome) :
    Reveals first untold ((first.map Settlement.outcome).or untold) := by
  constructor
  · rintro payload rfl
    rfl
  · rintro value rfl
    rfl
  · rintro error rfl
    rfl
  · rintro rfl
    rfl

/-- A settler settles once.  Whatever it is told, and whatever happens between without settling the
reply by other means or starting its clock: it counts as settled from the first call on; the reply
waits until then and afterwards has the outcome of that call; the first call succeeds, and every
later one is refused by the settler's id and changes nothing.  If the settler goes away the reply
keeps its outcome, and is closed if it has none. -/
theorem settles_once (desk : Desk) (id : CorrelationId) (acts : List Act)
    (spared : ∀ act, .aside act ∈ acts → act.Spares desk.replies.length) :
    let ticket := desk.replies.length
    let exchange := (opened desk id).run acts
    exchange.settler.id = id ∧
    exchange.settler.settled = (first? acts).isSome ∧
    Reveals (first? acts) none (exchange.desk.look ticket) ∧
    (first? acts = none → ∀ settlement, (exchange.call settlement).1 = .ok ()) ∧
    (∀ earlier, first? acts = some earlier → ∀ settlement,
      exchange.call settlement = (.error (.alreadySettled id), exchange)) ∧
    ∀ later, (∀ timeout, .arm ticket timeout ∉ later) →
      Reveals (first? acts) (some (.error .closed)) ((exchange.drop.run later).look ticket) := by
  intro ticket exchange
  have h : exchange.Stands id ticket (first? acts) := by
    simpa using (stands_opened desk id).run spared
  refine ⟨h.id_eq, h.settled_eq, ?_, ?_, ?_, fun later unarmed => ?_⟩
  · rw [h.look, ← Option.or_none (o := (first? acts).map Settlement.outcome)]
    exact reveals_outcome _ _
  · intro hnone settlement
    have hsettled := h.settled_eq
    rw [hnone, Option.isSome_none] at hsettled
    rw [call_of_unsettled hsettled]
  · intro earlier hearlier settlement
    have hsettled := h.settled_eq
    rw [hearlier, Option.isSome_some] at hsettled
    rw [call_of_settled hsettled, h.id_eq]
  · rw [h.look_drop unarmed]
    exact reveals_outcome _ _

/-- The reply is looked at and let go of before the settler is told anything.  What it is told then
counts all the same, be it a payload, an error value or an error of this side; another exchange's
end between does not matter, and a late failure is refused. -/
theorem settles_once_of_released_reply :
    let desk : Desk := { replies := [{ id := ⟨4⟩ }] }
    let payload := Snapshot.freeze (.obj [("cells", .arr [.str "a", .null]), ("full", .bool true)])
    let value : Json := .obj [("code", .str "denied")]
    let told := fun settlement => (opened desk ⟨5⟩).run [.aside (.poll 1), .aside (.release 1),
      .call settlement, .aside (.drop { id := ⟨4⟩, ticket := 0 })]
    (told (.reject value)).settler.settled = true ∧
      (told (.resolve payload)).desk.look 1 = some (.ok payload) ∧
      (told (.reject value)).desk.look 1 = some (.error (.remote value)) ∧
      (told (.fail (.transport .bridgeSideClosed))).desk.look 1 =
        some (.error (.transport .bridgeSideClosed)) ∧
      ((told (.resolve payload)).call (.fail .timeout)).1 = .error (.alreadySettled ⟨5⟩) ∧
      ((told (.resolve payload)).drop.run [.advance 7]).look 1 = some (.ok payload) ∧
      ((opened desk ⟨5⟩).drop.run []).look 1 = some (.error .closed) := by
  intro desk payload value told
  have hspared (settlement : Settlement) : ∀ act, .aside act ∈ [Act.aside (.poll 1),
      .aside (.release 1), .call settlement, .aside (.drop { id := ⟨4⟩, ticket := 0 })] →
      act.Spares desk.replies.length := by
    intro act hact
    simp only [List.mem_cons, Act.aside.injEq, List.not_mem_nil, or_false, reduceCtorEq,
      false_or] at hact
    obtain rfl | rfl | rfl := hact <;> exact ⟨rfl, nofun⟩
  obtain ⟨-, -, hresolved, -, hrefused, hkept⟩ :=
    settles_once desk ⟨5⟩ _ (hspared (.resolve payload))
  obtain ⟨-, hsettled, hrejected, -⟩ := settles_once desk ⟨5⟩ _ (hspared (.reject value))
  obtain ⟨-, -, hfailed, -⟩ :=
    settles_once desk ⟨5⟩ _ (hspared (.fail (.transport .bridgeSideClosed)))
  obtain ⟨-, -, -, -, -, hclosed⟩ := settles_once desk ⟨5⟩ [] (by simp)
  refine ⟨hsettled, hresolved.resolved payload rfl, hrejected.rejected value rfl,
    hfailed.failed _ rfl, ?_, (hkept [.advance 7] (by simp)).resolved payload rfl,
    (hclosed [] (by simp)).silent rfl⟩
  exact congrArg Prod.fst (hrefused (.resolve payload) rfl (.fail .timeout))

end Exchange
end HostLink
