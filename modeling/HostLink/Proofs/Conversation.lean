import Mathlib
import HostLink.Proofs.ChannelSteps

/-!
# Conversations over a channel

The bridge's side sends requests, the native side receives them, responds to them in any order, and
the pump runs now and then.  Each request comes back to its own reply: the endpoint reads the
request that was sent, its response is a message that the bridge reads as a reply to that request,
and the reply is settled with what the response means (`Talk.round_trip`).

Two invariants carry the proof.  `Bridge.Stands` says what a bridge without deadlines is like after
the responses that it has heard.  `Talk.Stage` lines up both queues of the channel with what was
sent and given: what was sent is what was received followed by what waits in one queue, and what was
given is what was heard followed by what waits in the other.
-/

namespace HostLink

/-! ## The bridge's side -/

/-- An answer of the native side: the ticket of the request and the response. -/
abbrev Given := Ticket × Response

/-- Where a reply is once the answers have come in: the first one to its request has settled it. -/
def progressAfter (wire : WireFormat) (heard : List Given) (ticket : Ticket) : Progress :=
  match heard.find? fun answer => answer.1 = ticket with
  | some answer => .settled (frozenOutcome (answer.2.outcome wire))
  | none => .waiting

theorem find?_given_eq_none {heard : List Given} {ticket : Ticket}
    (h : ticket ∉ heard.map Prod.fst) : heard.find? (fun answer => answer.1 = ticket) = none := by
  rw [List.find?_eq_none]
  intro answer hanswer heq
  exact h (of_decide_eq_true heq ▸ List.mem_map_of_mem hanswer)

theorem progressAfter_of_not_mem {wire : WireFormat} {heard : List Given} {ticket : Ticket}
    (h : ticket ∉ heard.map Prod.fst) : progressAfter wire heard ticket = .waiting := by
  unfold progressAfter
  rw [find?_given_eq_none h]

/-- The next answer settles a reply that still waits, and no other. -/
theorem progressAfter_append (wire : WireFormat) (heard : List Given) (answer : Given)
    (ticket : Ticket) :
    progressAfter wire (heard ++ [answer]) ticket =
      if ticket ∉ heard.map Prod.fst ∧ ticket = answer.1 then
        .settled (frozenOutcome (answer.2.outcome wire))
      else progressAfter wire heard ticket := by
  by_cases hold : ticket ∈ heard.map Prod.fst
  · rw [if_neg fun hnew => hnew.1 hold]
    obtain ⟨other, hother, heq⟩ := List.mem_map.1 hold
    have hfound : (heard.find? fun answer => answer.1 = ticket).isSome = true :=
      List.find?_isSome.2 ⟨other, hother, decide_eq_true heq⟩
    unfold progressAfter
    rw [List.find?_append, Option.or_of_isSome hfound]
  · unfold progressAfter
    rw [List.find?_append, find?_given_eq_none hold, Option.none_or, List.find?_singleton]
    by_cases hticket : ticket = answer.1
    · rw [if_pos (decide_eq_true hticket.symm), if_pos ⟨hold, hticket⟩]
    · rw [if_neg fun heq => hticket (of_decide_eq_true heq).symm, if_neg fun hnew => hticket hnew.2]

/-- A request answered once is settled with that answer. -/
theorem progressAfter_of_mem {wire : WireFormat} {heard : List Given} {answer : Given}
    (once : (heard.map Prod.fst).Nodup) (h : answer ∈ heard) :
    progressAfter wire heard answer.1 = .settled (frozenOutcome (answer.2.outcome wire)) := by
  unfold progressAfter
  cases hfound : heard.find? fun other => other.1 = answer.1 with
  | none => exact absurd (decide_eq_true rfl) (List.find?_eq_none.1 hfound answer h)
  | some first =>
    have hticket : first.1 = answer.1 := by simpa using List.find?_some hfound
    have hsame : first = answer :=
      List.inj_on_of_nodup_map once (List.mem_of_find?_eq_some hfound) h hticket
    rw [hsame]

/-- The text of an answer. -/
def WireFormat.answerText (wire : WireFormat) (answer : Given) : String :=
  (wire.responseMessage (.ofTicket answer.1) answer.2).compact

namespace Bridge

variable {κ : Type}

/-- The bridge has sent some requests without deadlines and has heard some answers. -/
structure Stands (bridge : Bridge κ) (config : Config) (sent : Nat) (heard : List Given) :
    Prop where
  config_eq : bridge.config = config
  coherent : bridge.Coherent
  length : bridge.replies.length = sent
  reply : ∀ (ticket : Ticket) (reply : Reply), bridge.replies[ticket]? = some reply →
    reply.deadline = none ∧ reply.progress = progressAfter config.wire heard ticket
  lists : ∀ ticket < sent, bridge.Lists ticket ↔ ticket ∉ heard.map Prod.fst

theorem stands_new (config : Config) : ({ config } : Bridge κ).Stands config 0 [] := by
  refine ⟨rfl, coherent_of_new config, rfl, ?_, ?_⟩
  · intro ticket reply hfound
    rw [List.getElem?_nil] at hfound
    cases hfound
  · intro ticket hlt
    exact absurd hlt (Nat.not_lt_zero ticket)

namespace Stands

variable {bridge : Bridge κ} {config : Config} {sent : Nat} {heard : List Given}

theorem withRequest (h : bridge.Stands config sent heard) (bound : sent < UInt64.size)
    (known : ∀ answer ∈ heard, answer.1 < sent) :
    (bridge.withRequest none none).Stands config (sent + 1) heard := by
  have hnew : sent ∉ heard.map Prod.fst := by
    intro hmem
    obtain ⟨answer, hanswer, heq⟩ := List.mem_map.1 hmem
    exact Nat.ne_of_lt (known answer hanswer) heq
  obtain ⟨hconfig, coherent, rfl, hreply, hlists⟩ := h
  refine ⟨hconfig, coherent.withRequest bound none none, List.length_append, ?_, ?_⟩
  · intro ticket reply hfound
    rcases Reply.of_getElem?_append hfound with hold | ⟨rfl, rfl⟩
    · exact hreply ticket reply hold
    · exact ⟨rfl, (progressAfter_of_not_mem hnew).symm⟩
  · intro ticket hlt
    have hids : (bridge.withRequest none none).Lists ticket ↔
        bridge.Lists ticket ∨ CorrelationId.ofTicket ticket = .ofTicket bridge.replies.length := by
      rw [Lists, Lists, ← List.mem_singleton, ← List.mem_append]
      exact iff_of_eq (congrArg _ List.map_append)
    have hid : CorrelationId.ofTicket ticket = .ofTicket bridge.replies.length ↔
        ticket = bridge.replies.length :=
      CorrelationId.ofTicket_inj (Nat.lt_of_lt_of_le hlt bound) bound
    rw [hids, hid]
    rcases Nat.lt_succ_iff_lt_or_eq.1 hlt with hlt | rfl
    · rw [hlists ticket hlt]
      exact or_iff_left (Nat.ne_of_lt hlt)
    · exact ⟨fun _ => hnew, fun _ => .inr rfl⟩

theorem release (h : bridge.Stands config sent heard) (ticket : Ticket) :
    (bridge.release ticket).Stands config sent heard := by
  have hlength : (bridge.release ticket).replies.length = sent :=
    (List.length_modify ..).trans h.length
  refine ⟨h.config_eq, h.coherent.release ticket, hlength, ?_, h.lists⟩
  intro other reply hfound
  change (bridge.replies.modify ticket Reply.release)[other]? = some reply at hfound
  rw [List.getElem?_modify] at hfound
  obtain ⟨old, hold, rfl⟩ := Option.map_eq_some_iff.1 hfound
  have hkeeps := h.reply other old hold
  split
  · exact hkeeps
  · exact hkeeps

/-- Without deadlines nothing expires. -/
theorem expireOverdue (h : bridge.Stands config sent heard) (bound : sent ≤ UInt64.size)
    (now : Instant) : (bridge.expireOverdue now).1.Stands config sent heard := by
  have hsame := sameAround_expireOverdue bridge now
  have hbound : bridge.replies.length ≤ UInt64.size := h.length ▸ bound
  refine ⟨hsame.config.trans h.config_eq, h.coherent.expireOverdue hbound now,
    hsame.length.trans h.length, ?_, ?_⟩
  · intro ticket reply hfound
    rw [h.coherent.replies_expireOverdue hbound, Option.map_eq_some_iff] at hfound
    obtain ⟨old, hold, hsweep⟩ := hfound
    have hkeeps := h.reply ticket old hold
    rw [hkeeps.1, if_neg (fun hdue => Bool.noConfusion hdue.2)] at hsweep
    exact hsweep ▸ hkeeps
  · intro ticket hlt
    have hreply : bridge.replies[ticket]? = some _ :=
      List.getElem?_eq_getElem (h.length.symm ▸ hlt)
    have hdeadline := (h.reply ticket _ hreply).1
    rw [h.coherent.lists_expireOverdue hbound now hreply, hdeadline, h.lists ticket hlt]
    exact and_iff_left rfl

/-- An answer settles its request if that still waits. -/
theorem answered (h : bridge.Stands config sent heard) (bound : sent ≤ UInt64.size)
    {answer : Given} (known : answer.1 < sent) :
    (bridge.answered (.ofTicket answer.1) (frozenOutcome (answer.2.outcome config.wire))).Stands
      config sent (heard ++ [answer]) := by
  have hbound : bridge.replies.length ≤ UInt64.size := h.length ▸ bound
  have hsame := sameAround_answered bridge (.ofTicket answer.1)
    (frozenOutcome (answer.2.outcome config.wire))
  have hid {ticket : Ticket} (hlt : ticket < sent) :
      CorrelationId.ofTicket ticket = .ofTicket answer.1 ↔ ticket = answer.1 :=
    CorrelationId.ofTicket_inj (Nat.lt_of_lt_of_le hlt bound) (Nat.lt_of_lt_of_le known bound)
  refine ⟨hsame.config.trans h.config_eq, h.coherent.answered hbound _ _,
    hsame.length.trans h.length, ?_, ?_⟩
  · intro ticket reply hfound
    rw [h.coherent.replies_answered hbound, Option.map_eq_some_iff] at hfound
    obtain ⟨old, hold, rfl⟩ := hfound
    obtain ⟨hdeadline, hprogress⟩ := h.reply ticket old hold
    have hlt : ticket < sent := h.length ▸ (List.getElem?_eq_some_iff.1 hold).1
    rw [progressAfter_append]
    by_cases hnew : ticket ∉ heard.map Prod.fst ∧ ticket = answer.1
    · have hwaiting := hprogress.trans (progressAfter_of_not_mem hnew.1)
      rw [if_pos ⟨(h.lists ticket hlt).2 hnew.1, (hid hlt).2 hnew.2⟩, if_pos hnew,
        Reply.settle_of_waiting hwaiting]
      exact ⟨hdeadline, rfl⟩
    · have hother : ¬(bridge.Lists ticket ∧ CorrelationId.ofTicket ticket = .ofTicket answer.1) :=
        fun hdue => hnew ⟨(h.lists ticket hlt).1 hdue.1, (hid hlt).1 hdue.2⟩
      rw [if_neg hother, if_neg hnew]
      exact ⟨hdeadline, hprogress⟩
  · intro ticket hlt
    rw [Coherent.lists_answered, h.lists ticket hlt, Ne, hid hlt]
    simp

/-- A message that is read as a reply to a known request is heard. -/
theorem receive (h : bridge.Stands config sent heard) (bound : sent ≤ UInt64.size)
    {answer : Given} (known : answer.1 < sent) {text : String}
    (hparse : Inbound.parse config.wire text =
      .ok (.reply (.ofTicket answer.1) (answer.2.outcome config.wire))) (now : Instant) :
    (bridge.receive now text).1.Stands config sent (heard ++ [answer]) := by
  have hreceive : (bridge.receive now text).1 = (bridge.expireOverdue now).1.answered
      (.ofTicket answer.1) (frozenOutcome (answer.2.outcome config.wire)) := by
    rw [← settle_eq]
    unfold Bridge.receive
    rw [h.config_eq, hparse]
  rw [hreceive]
  exact (h.expireOverdue bound now).answered bound known

/-- A bridge that has heard an answer to each request waits for nothing. -/
theorem pending_eq_nil (h : bridge.Stands config sent heard)
    (all : ∀ ticket < sent, ticket ∈ heard.map Prod.fst) : bridge.pending.entries = [] := by
  rw [List.eq_nil_iff_forall_not_mem]
  intro entry hentry
  have hlt : entry.settler.ticket < sent := h.length ▸ h.coherent.ticket_lt hentry
  exact (h.lists _ hlt).1 (h.coherent.lists_of_entry hentry) (all _ hlt)

/-- The texts of several answers to known requests are heard in order. -/
theorem receiveAll (h : bridge.Stands config sent heard) (bound : sent ≤ UInt64.size)
    (distinct : config.wire.Distinct) {answers : List Given}
    (known : ∀ answer ∈ answers, answer.1 < sent) (travels : ∀ answer ∈ answers, answer.2.Fits)
    (now : Instant) :
    (bridge.receiveAll now (answers.map config.wire.answerText)).Stands config sent
      (heard ++ answers) := by
  induction answers generalizing bridge heard with
  | nil =>
    rw [List.append_nil]
    exact h
  | cons answer rest ih =>
    have hparse := Inbound.parse_response distinct (.ofTicket answer.1)
      (travels answer List.mem_cons_self)
    have hfirst := h.receive bound (known answer List.mem_cons_self) hparse now
    rw [List.append_cons]
    exact ih hfirst (fun other hmem => known other (List.mem_cons_of_mem _ hmem))
      fun other hmem => travels other (List.mem_cons_of_mem _ hmem)

end Stands
end Bridge

/-! ## Conversations -/

/-- The names in a conversation and the configuration of its bridge. -/
structure Scene where
  transport : String
  bridge : String
  /-- The id of the transport. -/
  id : String
  config : Config

/-- A conversation so far: the world, and in order what the bridge's side has sent, what the native
side has received, and the answers that the native side has given. -/
structure Talk where
  world : World
  sent : List (String × Datum) := []
  received : List Json := []
  given : List Given := []

/-- What happens in a conversation. -/
inductive Move where
  /-- The bridge's side sends a request and lets a name stand for its reply. -/
  | send (reply command : String) (payload : Datum)
  /-- The native side receives a request, if there is one. -/
  | receive
  /-- The native side responds to a request, by its place among those that it has received. -/
  | respond (request : Nat) (response : Response)
  | pump

/-- What the parties say can travel: requests have a command and a payload with fields, and neither
these nor the responses nest too deep. -/
def Move.Travels : Move → Prop
  | .send _ command payload =>
    command.isEmpty = false ∧ ∃ fields, payload.payloadFields = .ok fields ∧
      Fields.Sorted fields ∧ ∀ member ∈ fields, member.2.Fits 126
  | .respond _ response => response.Fits
  | .receive | .pump => True

namespace Scene

/-- The message of a request. -/
def message (scene : Scene) (ticket : Ticket) (request : String × Datum) : Json :=
  .obj ((Command.request request.1 (.ofTicket ticket)
    (request.2.payloadFields.toOption.getD [])).members scene.config.wire)

/-- The messages of all requests. -/
def messages (scene : Scene) (sent : List (String × Datum)) : List Json := sent.mapIdx scene.message

end Scene

namespace Talk

/-- A conversation that has not begun. -/
def opened (scene : Scene) : Talk :=
  { world := .connected scene.transport scene.bridge scene.id scene.config }

/-- The conversation behind one move. -/
def perform (scene : Scene) (talk : Talk) : Move → Talk
  | .send reply command payload =>
    { talk with
      world := (talk.world.perform (.send scene.bridge reply command payload none)).2
      sent := talk.sent ++ [(command, payload)] }
  | .receive =>
    match talk.world.perform (.recvJson scene.transport) with
    | (.value message, world) => { talk with world, received := talk.received ++ [message] }
    | (_, world) => { talk with world }
  | .respond request response =>
    match talk.received[request]? with
    | some message =>
      { talk with
        world := (talk.world.perform
          (response.step scene.transport scene.config.wire message)).2
        given := talk.given ++ [(request, response)] }
    | none => talk
  | .pump => { talk with world := talk.world.runPumps }

/-- The conversation behind a list of moves. -/
def run (scene : Scene) (talk : Talk) (moves : List Move) : Talk := moves.foldl (perform scene) talk

/-- The two queues of the channel hold what was sent and is not received, and what was given and is
not heard. -/
structure Stage (scene : Scene) (talk : Talk) (channel : Channel) (bridge : Bridge CallbackRef)
    (unread : List Json) (heard unheard : List Given) : Prop where
  carries : talk.world.Carries scene.transport scene.bridge channel bridge
  stands : bridge.Stands scene.config talk.sent.length heard
  sent_eq : scene.messages talk.sent = talk.received ++ unread
  outbox : channel.outbox = unread.map Json.compact
  readable : ∀ message ∈ unread, message.Fits Json.maxDepth
  given_eq : talk.given = heard ++ unheard
  inbox : channel.inbox = unheard.map scene.config.wire.answerText
  known : ∀ answer ∈ talk.given, answer.1 < talk.received.length
  travels : ∀ answer ∈ talk.given, answer.2.Fits

theorem stage_opened (scene : Scene) :
    (opened scene).Stage scene { pump := .fresh } { config := scene.config } [] [] [] := by
  refine ⟨World.carries_connected .., Bridge.stands_new _, rfl, rfl, nofun, rfl, rfl, nofun, nofun⟩

namespace Stage

variable {scene : Scene} {talk : Talk} {channel : Channel} {bridge : Bridge CallbackRef}
  {unread : List Json} {heard unheard : List Given}

theorem received_le (h : talk.Stage scene channel bridge unread heard unheard) :
    talk.received.length ≤ talk.sent.length := by
  have hlength : (scene.messages talk.sent).length = talk.sent.length := List.length_mapIdx
  rw [h.sent_eq, List.length_append] at hlength
  exact hlength ▸ Nat.le_add_right _ _

theorem known_sent (h : talk.Stage scene channel bridge unread heard unheard) {answer : Given}
    (hanswer : answer ∈ talk.given) : answer.1 < talk.sent.length :=
  Nat.lt_of_lt_of_le (h.known answer hanswer) h.received_le

theorem send (h : talk.Stage scene channel bridge unread heard unheard)
    (untimed : scene.config.requestTimeoutMs = none) {reply command : String} {payload : Datum}
    (travels : (Move.send reply command payload).Travels) (few : talk.sent.length < UInt64.size) :
    ∃ channel bridge unread, (talk.perform scene (.send reply command payload)).Stage scene channel
      bridge unread heard unheard := by
  obtain ⟨hcommand, fields, hfields, sorted, hfits⟩ := travels
  have hmessage : scene.message talk.sent.length (command, payload) =
      .obj ((Command.request command (.ofTicket talk.sent.length) fields).members
        scene.config.wire) := by
    unfold Scene.message
    rw [hfields]
    rfl
  have hnext : bridge.nextId = .ofTicket talk.sent.length := by
    rw [← h.stands.length]
    rfl
  have encoded : Bridge.encodeRequest bridge.config bridge.nextId command payload =
      .ok (scene.message talk.sent.length (command, payload)).compact := by
    unfold Bridge.encodeRequest
    rw [hcommand, hfields, h.stands.config_eq, hnext, hmessage]
    rfl
  have hdeadline : bridge.sendDeadline talk.world.now none = none := by
    unfold Bridge.sendDeadline Config.requestTimeout
    rw [h.stands.config_eq, untimed]
    rfl
  have fresh : bridge.nextId ∉ bridge.pending.ids :=
    h.stands.coherent.fresh (h.stands.length.symm ▸ few)
  obtain ⟨after, hafter, hcarries⟩ := h.carries.send reply command payload encoded fresh
  rw [hdeadline] at hafter
  have hopen := h.stands.withRequest few fun answer hanswer =>
    h.known_sent (h.given_eq ▸ List.mem_append_left _ hanswer)
  have hstands : after.Stands scene.config (talk.sent.length + 1) heard := by
    rcases hafter with rfl | ⟨ticket, rfl⟩
    · exact hopen
    · exact hopen.release ticket
  have hreadable : (scene.message talk.sent.length (command, payload)).Fits Json.maxDepth := by
    rw [hmessage]
    exact Command.fits_members _ _ _ sorted hfits
  refine ⟨_, after, unread ++ [scene.message talk.sent.length (command, payload)],
    ⟨hcarries, ?_, ?_, ?_, ?_, h.given_eq, h.inbox, h.known, h.travels⟩⟩
  · exact List.length_append ▸ hstands
  · change scene.messages (talk.sent ++ [(command, payload)]) = talk.received ++ (unread ++ [_])
    rw [← List.append_assoc, ← h.sent_eq]
    exact List.mapIdx_concat
  · rw [List.map_append, ← h.outbox]
    rfl
  · intro message hmem
    rcases List.mem_append.1 hmem with hold | hnew
    · exact h.readable message hold
    · exact List.mem_singleton.1 hnew ▸ hreadable

theorem receive (h : talk.Stage scene channel bridge unread heard unheard) :
    ∃ channel unread, (talk.perform scene .receive).Stage scene channel bridge unread heard
      unheard := by
  cases unread with
  | nil =>
    obtain ⟨hanswer, hworld⟩ := h.carries.recvJson_empty h.outbox
    have hperform : talk.perform scene .receive = talk := by
      simp only [Talk.perform]
      rw [hworld]
    rw [hperform]
    exact ⟨channel, [], h⟩
  | cons message rest =>
    obtain ⟨hanswer, hcarries⟩ := h.carries.recvJson h.outbox
    have hread : World.readMessage message.compact = .value message := by
      have hfits := h.readable message List.mem_cons_self
      unfold World.readMessage
      rw [Json.parse_compact hfits.canonical hfits.depth_le]
    have hperform : talk.perform scene .receive =
        { talk with
          world := (talk.world.perform (.recvJson scene.transport)).2
          received := talk.received ++ [message] } := by
      simp only [Talk.perform]
      rw [← Prod.eta (talk.world.perform (.recvJson scene.transport)), hanswer, hread]
    rw [hperform]
    refine ⟨_, rest, ⟨hcarries, h.stands, ?_, rfl, ?_, h.given_eq, h.inbox, ?_, h.travels⟩⟩
    · rw [List.append_assoc]
      exact h.sent_eq
    · exact fun other hmem => h.readable other (List.mem_cons_of_mem _ hmem)
    · intro answer hanswer
      rw [List.length_append]
      exact Nat.lt_add_right _ (h.known answer hanswer)

theorem respond (h : talk.Stage scene channel bridge unread heard unheard) {request : Nat}
    {response : Response} (travels : response.Fits) :
    ∃ channel unheard, (talk.perform scene (.respond request response)).Stage scene channel bridge
      unread heard unheard := by
  simp only [Talk.perform]
  cases hreceived : talk.received[request]? with
  | none => exact ⟨channel, unheard, h⟩
  | some message =>
    have hlt : request < talk.received.length := (List.getElem?_eq_some_iff.1 hreceived).1
    have hmessage : (scene.messages talk.sent)[request]? = some message := by
      rw [h.sent_eq, List.getElem?_append_left hlt, hreceived]
    unfold Scene.messages at hmessage
    rw [List.getElem?_mapIdx, Option.map_eq_some_iff] at hmessage
    obtain ⟨sent, -, rfl⟩ := hmessage
    have hid := Command.lookup_correlationField scene.config.wire sent.1 (.ofTicket request)
      (sent.2.payloadFields.toOption.getD [])
    obtain ⟨pump, hcarries⟩ := h.carries.respond hid response
    refine ⟨_, unheard ++ [(request, response)],
      ⟨hcarries, h.stands, h.sent_eq, h.outbox, h.readable, ?_, ?_, ?_, ?_⟩⟩
    · change talk.given ++ [(request, response)] = heard ++ (unheard ++ [(request, response)])
      rw [← List.append_assoc, h.given_eq]
    · rw [List.map_append, ← h.inbox]
      rfl
    · intro answer hanswer
      rcases List.mem_append.1 hanswer with hold | hnew
      · exact h.known answer hold
      · rw [List.mem_singleton.1 hnew]
        exact hlt
    · intro answer hanswer
      rcases List.mem_append.1 hanswer with hold | hnew
      · exact h.travels answer hold
      · exact List.mem_singleton.1 hnew ▸ travels

/-- After the pump has run, all answers are heard. -/
theorem pump (h : talk.Stage scene channel bridge unread heard unheard)
    (distinct : scene.config.wire.Distinct) (few : talk.sent.length ≤ UInt64.size) :
    (talk.perform scene .pump).Stage scene { channel with inbox := [], pump := .waiting }
      (bridge.receiveAll talk.world.now channel.inbox) unread talk.given [] := by
  have hunheard {answer : Given} (hanswer : answer ∈ unheard) : answer ∈ talk.given :=
    h.given_eq ▸ List.mem_append_right _ hanswer
  have hreplies : ∀ text ∈ channel.inbox, Inbound.IsReply bridge.config.wire text := by
    intro text htext
    rw [h.inbox] at htext
    obtain ⟨answer, hanswer, rfl⟩ := List.mem_map.1 htext
    rw [h.stands.config_eq]
    exact ⟨_, _, Inbound.parse_response distinct _ (h.travels answer (hunheard hanswer))⟩
  have hstands := h.stands.receiveAll few distinct
    (fun answer hanswer => h.known_sent (hunheard hanswer))
    (fun answer hanswer => h.travels answer (hunheard hanswer)) talk.world.now
  rw [← h.inbox, ← h.given_eq] at hstands
  exact ⟨h.carries.runPumps hreplies, hstands, h.sent_eq, h.outbox, h.readable,
    (List.append_nil _).symm, rfl, h.known, h.travels⟩

/-- Where every request was answered, every request was received. -/
theorem received_eq (h : talk.Stage scene channel bridge unread heard unheard)
    (all : ∀ ticket < talk.sent.length, ticket ∈ talk.given.map Prod.fst) :
    talk.received = scene.messages talk.sent := by
  have hlength : (scene.messages talk.sent).length = talk.sent.length := List.length_mapIdx
  have hunread : unread = [] := by
    rw [h.sent_eq, List.length_append] at hlength
    by_contra hne
    have hpos := List.length_pos_iff.2 hne
    obtain ⟨answer, hanswer, heq⟩ := List.mem_map.1 (all talk.received.length (by omega))
    exact Nat.ne_of_lt (h.known answer hanswer) heq
  rw [h.sent_eq, hunread, List.append_nil]

/-- The reply of a request whose answer was heard is ready with what that means. -/
theorem pollReply_eq (h : talk.Stage scene channel bridge unread heard unheard)
    (once : (heard.map Prod.fst).Nodup) {answer : Given} (hanswer : answer ∈ heard) :
    (talk.world.pollReply (.ofBridge 0 answer.1)).1 =
      some (frozenOutcome (answer.2.outcome scene.config.wire)) := by
  have hlt := h.known_sent (h.given_eq ▸ List.mem_append_left _ hanswer)
  rw [← h.stands.length] at hlt
  have hprogress := (h.stands.reply answer.1 _ (List.getElem?_eq_getElem hlt)).2
  rw [progressAfter_of_mem once hanswer] at hprogress
  obtain ⟨id, hlink⟩ := h.carries.link_zero
  simp only [World.pollReply, hlink, Link.bridge?]
  rw [Bridge.poll_fst, List.getElem?_eq_getElem hlt, Option.bind_some, Reply.outcome?, hprogress]

end Stage

theorem sent_length_le_perform (scene : Scene) (talk : Talk) (move : Move) :
    talk.sent.length ≤ (talk.perform scene move).sent.length := by
  cases move with
  | send reply command payload =>
    exact List.length_append ▸ Nat.le_add_right _ _
  | receive =>
    simp only [Talk.perform]
    split <;> exact Nat.le_refl _
  | respond request response =>
    simp only [Talk.perform]
    split <;> exact Nat.le_refl _
  | pump => exact Nat.le_refl _

/-- The conversation is at some stage. -/
def InStep (scene : Scene) (talk : Talk) : Prop :=
  ∃ channel bridge unread heard unheard, talk.Stage scene channel bridge unread heard unheard

variable {scene : Scene} {talk : Talk}

theorem InStep.perform (h : talk.InStep scene) (distinct : scene.config.wire.Distinct)
    (untimed : scene.config.requestTimeoutMs = none) {move : Move} (travels : move.Travels)
    (few : (talk.perform scene move).sent.length ≤ UInt64.size) :
    (talk.perform scene move).InStep scene := by
  obtain ⟨channel, bridge, unread, heard, unheard, hstage⟩ := h
  cases move with
  | send reply command payload =>
    have hlt : talk.sent.length < UInt64.size := by
      change (talk.sent ++ [(command, payload)]).length ≤ UInt64.size at few
      rwa [List.length_append] at few
    obtain ⟨channel, bridge, unread, hsent⟩ := hstage.send untimed travels hlt
    exact ⟨channel, bridge, unread, heard, unheard, hsent⟩
  | receive =>
    obtain ⟨channel, unread, hreceived⟩ := hstage.receive
    exact ⟨channel, bridge, unread, heard, unheard, hreceived⟩
  | respond request response =>
    obtain ⟨channel, unheard, hresponded⟩ := hstage.respond travels
    exact ⟨channel, bridge, unread, heard, unheard, hresponded⟩
  | pump => exact ⟨_, _, unread, _, _, hstage.pump distinct few⟩

theorem sent_length_le_run (scene : Scene) (talk : Talk) (moves : List Move) :
    talk.sent.length ≤ (talk.run scene moves).sent.length := by
  induction moves generalizing talk with
  | nil => exact Nat.le_refl _
  | cons move rest ih => exact Nat.le_trans (sent_length_le_perform scene talk move) (ih _)

theorem InStep.run (h : talk.InStep scene) (distinct : scene.config.wire.Distinct)
    (untimed : scene.config.requestTimeoutMs = none) {moves : List Move}
    (travels : ∀ move ∈ moves, move.Travels)
    (few : (talk.run scene moves).sent.length ≤ UInt64.size) :
    (talk.run scene moves).InStep scene := by
  induction moves generalizing talk with
  | nil => exact h
  | cons move rest ih =>
    have hfirst := h.perform distinct untimed (travels move List.mem_cons_self)
      (Nat.le_trans (sent_length_le_run scene _ rest) few)
    exact ih hfirst (fun other hmem => travels other (List.mem_cons_of_mem _ hmem)) few

end Talk

/-- The outcome of a request is what its response means: a snapshot of the result, or the error of
the native side. -/
def Response.Settles (wire : WireFormat) (response : Response) (outcome : Outcome) : Prop :=
  match response.outcome wire with
  | .ok value => ∃ payload, outcome = .ok payload ∧ payload.toJson = value
  | .error failure => outcome = .error (.remote failure)

theorem Response.settles_frozenOutcome (wire : WireFormat) (response : Response) :
    response.Settles wire (frozenOutcome (response.outcome wire)) := by
  unfold Settles
  cases response.outcome wire with
  | ok value => exact ⟨_, rfl, Snapshot.toJson_freeze value⟩
  | error failure => rfl

namespace Talk

/-- Let the bridge's side send requests without timeouts, at most as many as there are ids, and let
the native side answer each of them once, in any order, with the moves of both sides and of the pump
in any order as well.  When the pump has run at the end, the native side has received the requests
as they were sent, no request waits any more, and each reply is ready with what the answer to its
request means. -/
theorem round_trip {scene : Scene} (distinct : scene.config.wire.Distinct)
    (untimed : scene.config.requestTimeoutMs = none) {moves : List Move}
    (travels : ∀ move ∈ moves, move.Travels) {final : Talk}
    (hfinal : ((opened scene).run scene moves).perform scene .pump = final)
    (few : final.sent.length ≤ UInt64.size)
    (once : (final.given.map Prod.fst).Perm (List.range final.sent.length)) :
    final.received = scene.messages final.sent ∧
      (∃ bridge, (final.world.links[0]?).bind Link.bridge? = some bridge ∧
        bridge.replies.length = final.sent.length ∧ bridge.pending.entries = []) ∧
      ∀ answer ∈ final.given, ∃ outcome,
        (final.world.pollReply (.ofBridge 0 answer.1)).1 = some outcome ∧
          answer.2.Settles scene.config.wire outcome := by
  have hbound : ((opened scene).run scene moves).sent.length ≤ UInt64.size := by
    rw [← hfinal] at few
    exact Nat.le_trans (sent_length_le_perform scene _ .pump) few
  obtain ⟨channel, bridge, unread, heard, unheard, hbefore⟩ :=
    InStep.run ⟨_, _, _, _, _, stage_opened scene⟩ distinct untimed travels hbound
  have hstage := hbefore.pump distinct hbound
  rw [hfinal] at hstage
  have hgiven : final.given = ((opened scene).run scene moves).given := by
    rw [← hfinal]
    rfl
  rw [← hgiven] at hstage
  have hanswered : ∀ ticket < final.sent.length, ticket ∈ final.given.map Prod.fst :=
    fun ticket hlt => once.mem_iff.2 (List.mem_range.2 hlt)
  obtain ⟨id, hlink⟩ := hstage.carries.link_zero
  refine ⟨hstage.received_eq hanswered, ⟨_, ?_, hstage.stands.length,
    hstage.stands.pending_eq_nil hanswered⟩, fun answer hanswer => ?_⟩
  · rw [hlink]
    rfl
  · exact ⟨_, hstage.pollReply_eq (once.nodup_iff.2 List.nodup_range) hanswer,
      answer.2.settles_frozenOutcome _⟩

/-- Two requests, the second one answered first and with an error. -/
theorem round_trip_of_two_requests :
    let scene : Scene := { transport := "link", bridge := "app", id := "native", config := {} }
    let moves : List Move :=
      [.send "first" "measure" (.map [(.text "depth", .int 2)]), .send "second" "stop" .absent,
        .receive, .receive, .respond 1 (.error (.str "busy")), .pump,
        .respond 0 (.data (.arr [.bool true]))]
    let final := ((opened scene).run scene moves).perform scene .pump
    (final.world.pollReply (.ofBridge 0 1)).1 = some (.error (.remote (.str "busy"))) := by
  intro scene moves final
  have htravels : ∀ move ∈ moves, move.Travels := by
    have hdepth : ∀ member ∈ [("depth", Json.num (.int 2 (by decide)))], member.2.Fits 126 :=
      List.forall_mem_singleton.2 ⟨trivial, Nat.zero_le _⟩
    simp only [moves, List.forall_mem_cons]
    refine ⟨⟨by decide, _, rfl, List.pairwise_singleton _ _, hdepth⟩,
      ⟨by decide, [], rfl, List.Pairwise.nil, nofun⟩, trivial, trivial, Json.fits_str _ _, trivial,
      ⟨⟨trivial, trivial⟩, by decide⟩, nofun⟩
  have honce : (final.given.map Prod.fst).Perm (List.range final.sent.length) := by
    decide +kernel
  have hgiven : final.given = [(1, .error (.str "busy")), (0, .data (.arr [.bool true]))] := by
    cbv
  have hdistinct : scene.config.wire.Distinct := ⟨by decide, by decide, by decide⟩
  obtain ⟨-, -, hready⟩ := round_trip hdistinct rfl htravels rfl (by decide +kernel) honce
  obtain ⟨outcome, hpoll, hsettles⟩ := hready (1, .error (.str "busy"))
    (hgiven ▸ List.mem_cons_self)
  rw [hpoll]
  exact congrArg some hsettles

end Talk
end HostLink
