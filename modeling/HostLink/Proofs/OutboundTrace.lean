import HostLink.Proofs.Observing
import HostLink.Proofs.Postings

/-!
# What goes out, in order

The native side gets the messages that were posted, each once and in the order of the posts, and
what it has not taken yet waits.  Only a channel whose endpoint is dropped loses something: what
waits at that moment.

This is said of every history of a session and each of its links (`World.OutboundLaw`).  What the
native side takes is read off the answers of the steps that take it (`Step.Shows`), and so are the
ids of the calls to send (`Step.requested`).  The n-th call to send answers the n-th id and gives
back a reply with that id, and the requests that travel are those of the calls whose reply waits.
-/

namespace HostLink

/-! ## What the answers show -/

/-- The answer shows a host all texts that it takes, or there is no host. -/
def Answer.Empties (texts : List String) (answer : Answer) : Prop :=
  answer = .posted texts ∨ answer = .gone ∧ texts = []

/-- The answer shows an endpoint one text, as `read` has it, or there is none to take. -/
def Answer.Hands (read : String → Answer) (texts : List String) (answer : Answer) : Prop :=
  (∃ text, answer = read text ∧ texts = [text]) ∨
    (answer = .pending ∨ answer = .closed ∨ answer = .gone) ∧ texts = []

/-- The id of the request, where the answer is one. -/
def Answer.request? : Answer → Option CorrelationId
  | .request id => some id
  | _ => none

namespace Step

/-- The answer to the step shows that the native side of the link takes these texts. -/
def Shows (world : World) (index : LinkIndex) (texts : List String) (step : Step) : Prop :=
  match step with
  | .takePosted name =>
    if world.linkOf? (.native name) = some index then (step.answer world).Empties texts
    else texts = []
  | .recv name =>
    if world.linkOf? (.native name) = some index then (step.answer world).Hands .text texts
    else texts = []
  | .recvJson name =>
    if world.linkOf? (.native name) = some index then
      (step.answer world).Hands World.readMessage texts
    else texts = []
  | _ => texts = []

/-- The name of the native side that a step drops, or takes the name from. -/
def hangsUp? : Step → Option String
  | .createMemory name _ | .createChannel name _ | .dropEndpoint name => some name
  | _ => none

/-- The bridge that a step calls to send, and the name that the reply gets. -/
def sender? : Step → Option (String × String)
  | .send bridge reply _ _ _ | .call bridge reply _ => some (bridge, reply)
  | _ => none

/-- The ids that the calls to send on a link answer in a step: one, if the step is one. -/
def requested (index : LinkIndex) (world : World) (step : Step) : List CorrelationId :=
  step.sender?.elim [] fun sender =>
    if world.linkOf? (.bridge sender.1) = some index then (step.answer world).request?.toList
    else []

end Step

/-- Where a call to send leaves its reply. -/
def SentCall.progress (call : SentCall) : Progress :=
  call.error.elim .waiting fun error => .settled (.error error)

namespace Moment

/-- The texts that the native side of a link takes in a moment. -/
def taken (index : LinkIndex) (moment : Moment) : List String := moment.collect Site.taken index

/-- The texts that go away with the endpoint of a link in a moment. -/
def lost (index : LinkIndex) (moment : Moment) : List String := moment.collect Site.lost index

/-- What is posted on a link in a moment. -/
def posted (index : LinkIndex) (moment : Moment) : List Posting := moment.collect Site.posted index

/-- The calls to send on a link in a moment. -/
def sent (index : LinkIndex) (moment : Moment) : List SentCall := moment.collect Site.sent index

/-- The answer shows that the native side of the link takes these texts in the moment. -/
def Shows (index : LinkIndex) (texts : List String) (moment : Moment) : Prop :=
  match moment.step? with
  | some step => step.Shows moment.start index texts
  | none => texts = []

/-- The native side of the link loses its name in the moment. -/
def HangsUp (index : LinkIndex) (moment : Moment) : Prop :=
  ∃ name, moment.step?.bind Step.hangsUp? = some name ∧
    moment.start.linkOf? (.native name) = some index

/-- The ids that the calls to send on a link answer in a moment. -/
def requested (index : LinkIndex) (moment : Moment) : List CorrelationId :=
  moment.step?.elim [] (Step.requested index moment.start)

/-- The moment leaves the caller of a call to send with a reply under the id of the answer, which
has failed if the call has, and waits otherwise. -/
def Gives (moment : Moment) (call : SentCall) : Prop :=
  ∃ bridge name ref reply, moment.step?.bind Step.sender? = some (bridge, name) ∧
    Fields.lookup name moment.after.replies = some ref ∧ moment.after.reply? ref = some reply ∧
    reply.id = call.answer ∧ reply.progress = call.progress

end Moment

/-! ## What steps take and post -/

namespace World

variable {world : World} {index : LinkIndex} {name : String}

/-- What a host takes is what its answer shows. -/
theorem empties_takePosted (hname : world.linkOf? (.native name) = some index) :
    ((Step.takePosted name).answer world).Empties
      ((world.links[index]?).elim [] fun link => Site.taken ⟨world.now, link⟩ .takePosted) := by
  rw [Step.answer, Step.perform, onHost_named hname]
  cases world.links[index]? with
  | none => exact .inr ⟨rfl, rfl⟩
  | some link =>
    simp only [Option.elim_some, Site.taken, Link.taken]
    cases hhost : link.host? with
    | none => exact .inr ⟨rfl, rfl⟩
    | some host => exact .inl (congrArg Answer.posted (Link.outbox_of_host? hhost).symm)

/-- What an endpoint takes is what its answer shows. -/
theorem hands_receive (hname : world.linkOf? (.native name) = some index)
    (read : String → Answer) :
    (world.onEndpoint name fun index link channel =>
        world.endpointReceive index link channel read).1.Hands read
      ((world.links[index]?).elim [] fun link => Site.taken ⟨world.now, link⟩ .receive) := by
  rw [onEndpoint_named hname]
  cases world.links[index]? with
  | none => exact .inr ⟨.inr (.inr rfl), rfl⟩
  | some link =>
    simp only [Option.elim_some, Site.taken, Link.taken]
    cases hchannel : link.channel? with
    | none => exact .inr ⟨.inr (.inr rfl), rfl⟩
    | some channel =>
      simp only [Option.elim_some, Option.isSome_some, if_true, Link.outbox_of_channel? hchannel,
        endpointReceive]
      cases channel.outbox with
      | cons text rest => exact .inl ⟨text, rfl, rfl⟩
      | nil =>
        refine .inr ⟨?_, rfl⟩
        dsimp only
        split
        · exact .inl rfl
        · exact .inr (.inl rfl)

/-- What a host lists is what waits. -/
theorem outbox_of_posted {link : Link CallbackRef} {texts : List String}
    (hname : world.linkOf? (.native name) = some index) (hlink : world.links[index]? = some link)
    (h : (Step.posted name).answer world = .posted texts) : texts = link.transport.outbox := by
  rw [Step.answer, Step.perform, onHost_named hname, hlink, Option.elim_some] at h
  cases hhost : link.host? with
  | none =>
    rw [hhost] at h
    cases h
  | some host =>
    rw [hhost] at h
    rw [Link.outbox_of_host? hhost]
    exact (Answer.posted.inj h).symm

end World

namespace Step

variable {step : Step} {world : World} {index : LinkIndex}

/-- What a step takes is what its answer shows. -/
theorem shows_taken (world : World) (index : LinkIndex) (step : Step) :
    step.Shows world index (step.collect Site.taken index world) := by
  cases step with
  | takePosted name =>
    rw [collect_of_incident? Site.taken_of_plain rfl, Shows]
    split
    · next hname => exact World.empties_takePosted hname
    · rfl
  | recv name =>
    rw [collect_of_incident? Site.taken_of_plain rfl, Shows]
    split
    · next hname => exact World.hands_receive hname .text
    · rfl
  | recvJson name =>
    rw [collect_of_incident? Site.taken_of_plain rfl, Shows]
    split
    · next hname => exact World.hands_receive hname World.readMessage
    · rfl
  | _ =>
    refine collect_eq_nil_of_kind Site.taken_of_plain fun site incident hkind => ?_
    cases incident with
    | takePosted | receive => cases hkind
    | _ => rfl

/-- Something gets lost only with the native side. -/
theorem hangsUp_of_lost {text : String} (h : text ∈ step.collect Site.lost index world) :
    ∃ name, step.hangsUp? = some name ∧ world.linkOf? (.native name) = some index := by
  obtain ⟨name, incident, link, hincident, hname, -, hmem⟩ :=
    exists_of_mem_collect Site.lost_of_plain h
  have hkind := kind_of_incident? hincident index
  generalize hhappened : incident index = happened at hkind hmem
  cases happened with
  | dropEndpoint =>
    cases step with
    | createMemory native id | createChannel native id | dropEndpoint native =>
      obtain ⟨rfl, -⟩ := Prod.mk.inj (Option.some.inj hincident)
      exact ⟨native, rfl, hname⟩
    | _ => cases hkind
  | _ => cases hmem

/-- A step that posts past the bridge answers what comes of it, where there is a link. -/
theorem answer_postMessage {name : String} (hname : world.linkOf? (.transport name) = some index)
    (text : String) :
    (postMessage name text).answer world = (world.links[index]?).elim .gone fun link =>
      World.answerUnit (link.transport.post text).1 := by
  rw [answer, perform, World.onTransport_named hname]
  cases world.links[index]? with
  | none => rfl
  | some link => rfl

/-- What is posted past the bridge is what a step posts, if its answer is that it is done. -/
theorem foreign_mem_posted {text : String} :
    .foreign text ∈ step.collect Site.posted index world ↔
      ∃ name, step = .postMessage name text ∧ world.linkOf? (.transport name) = some index ∧
        step.answer world = .done := by
  constructor
  · intro h
    obtain ⟨name, incident, link, hincident, hname, hlink, hmem⟩ :=
      exists_of_mem_collect Site.posted_of_plain h
    have hposted : incident index = .post text := by
      obtain ⟨message, heq, hpost⟩ | ⟨config, -, hframed⟩ := Link.framed_posted hmem
      · rw [hpost, Posting.foreign.inj heq]
      · exact hframed.elim
    have hkind := kind_of_incident? hincident index
    rw [hposted] at hkind hmem
    cases step with
    | postMessage transport message =>
      obtain ⟨rfl, rfl⟩ := Prod.mk.inj (Option.some.inj hincident)
      obtain rfl := Incident.post.inj hposted
      obtain ⟨found, haccepted, -⟩ := List.mem_map.1 hmem
      refine ⟨transport, rfl, hname, ?_⟩
      rw [answer_postMessage hname, hlink, Option.elim_some,
        Transport.ok_of_mem_accepted haccepted]
      rfl
    | _ => cases hkind
  · rintro ⟨name, rfl, hname, hdone⟩
    rw [answer_postMessage hname] at hdone
    rw [collect_of_incident? Site.posted_of_plain rfl, if_pos hname]
    cases hlink : world.links[index]? with
    | none =>
      rw [hlink] at hdone
      cases hdone
    | some link =>
      rw [hlink, Option.elim_some] at hdone
      have hok : (link.transport.post text).1 = .ok () := by
        cases hpost : (link.transport.post text).1 with
        | ok => rfl
        | error error =>
          rw [hpost] at hdone
          cases hdone
      rw [Option.elim_some, Site.posted, Link.posted, Transport.accepted_of_ok hok]
      exact List.mem_singleton_self _

/-- A call to send answers the next id of the bridge, if there is one under the name. -/
theorem requested_of_send (world : World) (index : LinkIndex) (name reply command : String)
    (payload : Datum) (timeout : Option Nanoseconds) :
    (if world.linkOf? (.bridge name) = some index then
        (world.onBridge name fun handle link bridge =>
          world.send handle link bridge reply command payload timeout).1.request?.toList
      else []) =
      (if world.linkOf? (.bridge name) = some index then
        (world.links[index]?).elim [] fun link =>
          Site.sent ⟨world.now, link⟩ (.operate (.send command payload timeout) trivial)
      else []).map (·.answer) := by
  split
  · next hname =>
    obtain ⟨facade, heq⟩ := World.onBridge_named hname fun handle link bridge =>
      world.send handle link bridge reply command payload timeout
    rw [heq]
    cases world.links[index]? with
    | none => rfl
    | some link =>
      simp only [Option.elim_some, Site.sent, Link.sent]
      cases link.bridge? with
      | none => rfl
      | some bridge => exact (bridge.answers_sentCalls _ _ _ _ _).symm
  · rfl

/-- The ids that calls to send answer. -/
theorem requested_eq (step : Step) (world : World) (index : LinkIndex) :
    step.requested index world = (step.collect Site.sent index world).map (·.answer) := by
  cases step with
  | send name reply command payload timeout =>
    rw [collect_of_incident? Site.sent_of_plain rfl]
    exact requested_of_send world index name reply command payload timeout
  | call name reply action =>
    rw [collect_of_incident? Site.sent_of_plain rfl]
    exact requested_of_send world index name reply action.command action.payload none
  | subscribe name subscription event scripts =>
    rw [collect_eq_nil Site.sent_of_plain]
    · rfl
    · intro other incident hincident site
      cases hincident
      unfold Site.sent Link.sent
      dsimp only
      split <;> rfl
  | _ =>
    rw [collect_eq_nil_of_kind Site.sent_of_plain]
    · rfl
    · intro site incident hkind
      cases incident with
      | operate => cases hkind
      | _ => rfl

/-- What is posted as an activation comes from a subscription that succeeds. -/
theorem subscribes_of_posted {text : String}
    (h : .activation text ∈ step.collect Site.posted index world) :
    ∃ bridge name event scripts id, step = .subscribe bridge name event scripts ∧
      world.linkOf? (.bridge bridge) = some index ∧ step.answer world = .subscription id := by
  obtain ⟨name, incident, link, hincident, hname, hlink, hmem⟩ :=
    exists_of_mem_collect Site.posted_of_plain h
  have hkind := kind_of_incident? hincident index
  have hpostings {operation : Operation CallbackRef} {own : operation.Own}
      (hoperation : incident index = .operate operation own) :
      ∃ bridge, link.bridge? = some bridge ∧
        .activation text ∈ bridge.postings link.transport operation := by
    rw [hoperation] at hmem
    unfold Site.posted Link.posted at hmem
    cases hbridge : link.bridge? with
    | none =>
      simp only [hbridge] at hmem
      cases hmem
    | some bridge =>
      simp only [hbridge] at hmem
      exact ⟨bridge, rfl, hmem⟩
  have hrequest {bridge : Bridge CallbackRef} {command : String} {payload : Datum}
      (hposted : .activation text ∈ bridge.requestPostings link.transport command payload) :
      False := by
    unfold Bridge.requestPostings at hposted
    split at hposted
    · obtain ⟨message, -, heq⟩ := List.mem_map.1 hposted
      cases heq
    · cases hposted
  cases step with
  | subscribe bridge subscription event scripts =>
    obtain ⟨rfl, rfl⟩ := Prod.mk.inj (Option.some.inj hincident)
    obtain ⟨found, hfound, hposted⟩ := hpostings rfl
    obtain ⟨id, hid⟩ := Bridge.subscribe_of_activation hposted ⟨world.callbacks.length⟩
    refine ⟨bridge, subscription, event, scripts, id, rfl, hname, ?_⟩
    obtain ⟨facade, heq⟩ := World.onBridge_named hname fun handle link bridge =>
      world.subscribe handle link bridge subscription event scripts
    rw [answer, perform, heq, hlink, Option.elim_some, hfound, Option.elim_some]
    simp only [World.subscribe, hid]
  | send | call =>
    obtain ⟨rfl, rfl⟩ := Prod.mk.inj (Option.some.inj hincident)
    obtain ⟨bridge, -, hposted⟩ := hpostings rfl
    exact (hrequest hposted).elim
  | postMessage =>
    obtain ⟨rfl, rfl⟩ := Prod.mk.inj (Option.some.inj hincident)
    obtain ⟨message, -, heq⟩ := List.mem_map.1 hmem
    cases heq
  | _ =>
    generalize incident index = happened at hkind hmem
    cases happened with
    | post | operate => cases hkind
    | _ => cases hmem

end Step

/-! ## The replies of calls to send -/

namespace World

variable {world : World} {ref : ReplyRef} {reply : Reply}

theorem replies_releaseReply (world : World) (ref : ReplyRef) :
    (world.releaseReply ref).replies = world.replies := by
  unfold releaseReply
  split
  · split
    · split <;> rfl
    · rfl
  · rfl

/-- Letting go of a reply changes neither an id nor what has happened. -/
theorem reply?_releaseReply (h : world.reply? ref = some reply) (other : ReplyRef) :
    ∃ later, (world.releaseReply other).reply? ref = some later ∧ later.id = reply.id ∧
      later.progress = reply.progress := by
  have hreleased (place ticket : Nat) {replies : List Reply}
      (hreply : replies[place]? = some reply) :
      ∃ later, (replies.modify ticket Reply.release)[place]? = some later ∧
        later.id = reply.id ∧ later.progress = reply.progress := by
    rw [List.getElem?_modify, hreply]
    by_cases heq : ticket = place
    · exact ⟨reply.release, by simp [heq], rfl, rfl⟩
    · exact ⟨reply, by simp [heq], rfl, rfl⟩
  have hsame : ∃ later, world.reply? ref = some later ∧ later.id = reply.id ∧
      later.progress = reply.progress := ⟨reply, h, rfl, rfl⟩
  cases other with
  | detached ticket =>
    cases ref with
    | ofBridge index place => exact hsame
    | detached place => exact hreleased place ticket h
  | ofBridge index ticket =>
    simp only [releaseReply]
    cases hlink : world.links[index]? with
    | none => exact hsame
    | some link =>
      dsimp only
      cases hbridge : link.bridge? with
      | none => exact hsame
      | some bridge =>
        dsimp only
        cases ref with
        | detached place => exact hsame
        | ofBridge target place =>
          by_cases heq : index = target
          · subst heq
            simp only [reply?, hlink, Option.bind_some, hbridge] at h
            obtain ⟨later, hlater, hkept⟩ := hreleased place ticket h
            refine ⟨later, ?_, hkept⟩
            obtain ⟨hlt, -⟩ := List.getElem?_eq_some_iff.1 hlink
            simp only [reply?, setLink, List.getElem?_set_self hlt]
            exact hlater
          · refine ⟨reply, ?_, rfl, rfl⟩
            simp only [reply?, setLink, List.getElem?_set_ne heq]
            exact h

/-- What a name comes to stand for keeps its id, and what has happened to it. -/
theorem reply?_storeReply (h : world.reply? ref = some reply) (name : String) :
    ∃ later, Fields.lookup name (world.storeReply name ref).replies = some ref ∧
      (world.storeReply name ref).reply? ref = some later ∧ later.id = reply.id ∧
        later.progress = reply.progress := by
  have hnamed : Fields.lookup name (Fields.insert name ref world.replies) = some ref := by
    rw [Fields.lookup_insert, if_pos rfl]
  have hstored : World.reply? { world with replies := Fields.insert name ref world.replies } ref =
      some reply := by
    cases ref with
    | ofBridge index ticket => exact h
    | detached ticket => exact h
  simp only [storeReply]
  split
  · next old hold =>
    obtain ⟨later, hlater, hkept⟩ := reply?_releaseReply hstored old
    refine ⟨later, ?_, hlater, hkept⟩
    rw [replies_releaseReply]
    exact hnamed
  · exact ⟨reply, hnamed, hstored, rfl, rfl⟩

/-- The reply that a call to send gives back is what the name then stands for. -/
theorem reply?_send {index : LinkIndex} {link : Link CallbackRef} {call : SentCall}
    {name command : String} {payload : Datum} {timeout : Option Nanoseconds} (place : String)
    (hname : world.linkOf? (.bridge name) = some index) (hlink : world.links[index]? = some link)
    (hcall : call ∈ link.sent world.now (.operate (.send command payload timeout) trivial)) :
    ∃ ref later,
      Fields.lookup place (world.onBridge name fun handle link bridge =>
        world.send handle link bridge place command payload timeout).2.replies = some ref ∧
      (world.onBridge name fun handle link bridge =>
        world.send handle link bridge place command payload timeout).2.reply? ref = some later ∧
      later.id = call.reply.id ∧ later.progress = call.reply.progress := by
  obtain ⟨facade, heq⟩ := onBridge_named hname fun handle link bridge =>
    world.send handle link bridge place command payload timeout
  rw [heq, hlink, Option.elim_some]
  simp only [Link.sent] at hcall
  cases hbridge : link.bridge? with
  | none =>
    rw [hbridge] at hcall
    cases hcall
  | some bridge =>
    rw [hbridge] at hcall
    obtain ⟨found, hfound, rfl⟩ := List.mem_map.1 hcall
    obtain ⟨hlt, -⟩ := List.getElem?_eq_some_iff.1 hlink
    have hcommitted : (world.commit index
        (bridge.send link.transport world.now command payload timeout)).reply?
          (.ofBridge index bridge.replies.length) = some found := by
      simp only [commit, reply?, setLink, write, List.getElem?_set_self hlt]
      exact Option.mem_toList.1 hfound
    obtain ⟨later, hnamed, hlater, hkept⟩ := reply?_storeReply hcommitted place
    exact ⟨_, later, hnamed, hlater, hkept⟩

end World

/-! ## Moments -/

namespace Moment

variable {moment : Moment} {index : LinkIndex}

theorem shows_taken (moment : Moment) (index : LinkIndex) :
    moment.Shows index (moment.taken index) := by
  unfold Shows taken
  cases hstep : moment.step? with
  | some step =>
    rw [collect_of_step? hstep]
    exact step.shows_taken moment.start index
  | none => exact collect_of_no_step Site.taken_of_plain (fun _ => rfl) hstep

/-- What a step brings in a moment the moment brings. -/
theorem exists_step {α : Type} {note : Site CallbackRef → Incident CallbackRef → List α}
    (hplain : ∀ site incident, incident.notable = false → note site incident = [])
    (hpump : ∀ site, note site .pump = []) {item : α} (h : item ∈ moment.collect note index) :
    ∃ step, moment.step? = some step ∧ item ∈ step.collect note index moment.start := by
  cases hstep : moment.step? with
  | some step =>
    rw [collect_of_step? hstep] at h
    exact ⟨step, rfl, h⟩
  | none =>
    rw [collect_of_no_step hplain hpump hstep] at h
    cases h

theorem hangsUp_of_lost {text : String} (h : text ∈ moment.lost index) :
    moment.HangsUp index := by
  obtain ⟨step, hstep, hmem⟩ := exists_step Site.lost_of_plain (fun _ => rfl) h
  obtain ⟨name, hhangsUp, hname⟩ := Step.hangsUp_of_lost hmem
  exact ⟨name, by rw [hstep]; exact hhangsUp, hname⟩

theorem requested_eq (moment : Moment) (index : LinkIndex) :
    moment.requested index = (moment.sent index).map (·.answer) := by
  unfold requested sent
  cases hstep : moment.step? with
  | some step =>
    rw [collect_of_step? hstep]
    exact step.requested_eq moment.start index
  | none =>
    rw [collect_of_no_step Site.sent_of_plain (fun _ => rfl) hstep]
    rfl

theorem requests_posted (moment : Moment) (index : LinkIndex) :
    (moment.posted index).filterMap Posting.id? =
      ((moment.sent index).filter (·.error.isNone)).map (·.answer) := by
  simp only [posted, sent, collect, List.filterMap_flatMap, List.filter_flatMap, List.map_flatMap]
  refine congrArg (List.flatMap · _) (funext fun notice => ?_)
  exact notice.site.link.requests_posted notice.site.now notice.incident

/-- What is posted past the bridge is what a step posts, if its answer is that it is done. -/
theorem foreign_mem_posted {text : String} : .foreign text ∈ moment.posted index ↔
    ∃ name, moment.step? = some (.postMessage name text) ∧
      moment.start.linkOf? (.transport name) = some index ∧
      (Step.postMessage name text).answer moment.start = .done := by
  constructor
  · intro h
    obtain ⟨step, hstep, hmem⟩ := exists_step Site.posted_of_plain (fun _ => rfl) h
    obtain ⟨name, rfl, hname, hdone⟩ := Step.foreign_mem_posted.1 hmem
    exact ⟨name, hstep, hname, hdone⟩
  · rintro ⟨name, hstep, hname, hdone⟩
    rw [posted, collect_of_step? hstep]
    exact Step.foreign_mem_posted.2 ⟨name, rfl, hname, hdone⟩

/-- What is posted as an activation comes from a subscription that succeeds. -/
theorem subscribes_of_posted {text : String} (h : .activation text ∈ moment.posted index) :
    ∃ bridge name event scripts id,
      moment.step? = some (.subscribe bridge name event scripts) ∧
      moment.start.linkOf? (.bridge bridge) = some index ∧
      (Step.subscribe bridge name event scripts).answer moment.start = .subscription id := by
  obtain ⟨step, hstep, hmem⟩ := exists_step Site.posted_of_plain (fun _ => rfl) h
  obtain ⟨bridge, name, event, scripts, id, rfl, hname, hid⟩ := Step.subscribes_of_posted hmem
  exact ⟨bridge, name, event, scripts, id, hstep, hname, hid⟩

/-- A call to send leaves its caller with the reply. -/
theorem gives_of_sent {call : SentCall} (h : call ∈ moment.sent index)
    (hid : call.reply.id = call.answer) (hprogress : call.reply.progress = call.progress) :
    moment.Gives call := by
  obtain ⟨step, hstep, hmem⟩ := exists_step Site.sent_of_plain (fun _ => rfl) h
  obtain ⟨name, incident, link, hincident, hname, hlink, hcall⟩ :=
    Step.exists_of_mem_collect Site.sent_of_plain hmem
  have hafter := after_of_step? hstep
  have hkind := Step.kind_of_incident? hincident index
  unfold Gives
  rw [hstep, hafter]
  cases step with
  | send bridge place command payload timeout =>
    obtain ⟨rfl, rfl⟩ := Prod.mk.inj (Option.some.inj hincident)
    obtain ⟨ref, later, hnamed, hlater, hlaterId, hlaterProgress⟩ :=
      World.reply?_send place hname hlink hcall
    exact ⟨bridge, place, ref, later, rfl, hnamed, hlater, hlaterId.trans hid,
      hlaterProgress.trans hprogress⟩
  | call bridge place action =>
    obtain ⟨rfl, rfl⟩ := Prod.mk.inj (Option.some.inj hincident)
    obtain ⟨ref, later, hnamed, hlater, hlaterId, hlaterProgress⟩ :=
      World.reply?_send place hname hlink hcall
    exact ⟨bridge, place, ref, later, rfl, hnamed, hlater, hlaterId.trans hid,
      hlaterProgress.trans hprogress⟩
  | subscribe bridge place event scripts =>
    obtain ⟨rfl, rfl⟩ := Prod.mk.inj (Option.some.inj hincident)
    unfold Site.sent Link.sent at hcall
    dsimp only at hcall
    split at hcall <;> cases hcall
  | _ =>
    generalize incident index = happened at hkind hcall
    cases happened with
    | operate => cases hkind
    | _ => cases hcall

end Moment

/-! ## The law of what goes out -/

namespace World

/-- What a history has brought to the native side of a link, and given back to those who sent. -/
structure OutboundLaw (moments : List Moment) (world : World) (index : LinkIndex)
    (link : Link CallbackRef) : Prop where
  /-- What the native side has taken, what went away with the endpoint and what waits is what was
  posted, in the order of the posts. -/
  queue : moments.flatMap (Moment.taken index) ++ moments.flatMap (Moment.lost index) ++
      link.transport.outbox =
    (moments.flatMap (Moment.posted index)).map Posting.text
  /-- What the native side takes is what the answers to its steps show. -/
  shown : ∀ moment ∈ moments, moment.Shows index (moment.taken index)
  /-- A host that lists what waits lists what is in the queue. -/
  listed : ∀ name texts, world.linkOf? (.native name) = some index →
    (Step.posted name).answer world = .posted texts → texts = link.transport.outbox
  /-- Nothing goes away unless the native side does. -/
  kept : (∀ moment ∈ moments, ¬ moment.HangsUp index) → moments.flatMap (Moment.lost index) = []
  /-- The calls to send are those that answer an id. -/
  requested : ∀ moment ∈ moments, moment.requested index = (moment.sent index).map (·.answer)
  /-- The n-th call to send answers the id n - 1. -/
  numbered : (moments.flatMap (Moment.requested index)).map (fun id => id.value.toNat) =
    List.range (moments.flatMap (Moment.requested index)).length
  /-- Its caller has a reply with that id, which has failed at once or waits. -/
  given : ∀ moment ∈ moments, ∀ call ∈ moment.sent index, moment.Gives call
  /-- A request is posted in the call that it comes from, if the reply waits. -/
  prompt : ∀ moment ∈ moments, (moment.posted index).filterMap Posting.id? =
    ((moment.sent index).filter (·.error.isNone)).map (·.answer)
  /-- So the requests that travel are those of the calls whose reply waits, in the order of the
  calls. -/
  requests : (moments.flatMap (Moment.posted index)).filterMap Posting.id? =
    ((moments.flatMap (Moment.sent index)).filter (·.error.isNone)).map (·.answer)
  /-- Their ids are strictly increasing. -/
  increasing : ((moments.flatMap (Moment.posted index)).filterMap Posting.id?).Pairwise
    fun earlier later => earlier.value < later.value
  /-- The text of a request carries its id, and that of an activation none. -/
  framed : ∀ posting ∈ moments.flatMap (Moment.posted index),
    (∃ text, posting = .foreign text) ∨
      ∃ config, world.owner? index = some (.bridge config) ∧ posting.Framed config.wire
  /-- An activation is posted in a subscription that succeeds. -/
  activated : ∀ moment ∈ moments, ∀ text, .activation text ∈ moment.posted index →
    ∃ bridge name event scripts id,
      moment.step? = some (.subscribe bridge name event scripts) ∧
      moment.start.linkOf? (.bridge bridge) = some index ∧
      (Step.subscribe bridge name event scripts).answer moment.start = .subscription id
  /-- What is posted past the bridge is what somebody posts who is answered that it is done. -/
  foreign : ∀ moment ∈ moments, ∀ text, .foreign text ∈ moment.posted index ↔
    ∃ name, moment.step? = some (.postMessage name text) ∧
      moment.start.linkOf? (.transport name) = some index ∧
      (Step.postMessage name text).answer moment.start = .done

theorem History.outboundLaw {moments : List Moment} {world : World} (h : History moments world)
    {index : LinkIndex} {link : Link CallbackRef} (hlink : world.links[index]? = some link)
    (few : (moments.flatMap (Moment.requested index)).length ≤ UInt64.size) :
    OutboundLaw moments world index link := by
  obtain ⟨id, onChannel, now, incidents, hrun, hcollected⟩ := h.exists_run hlink
  have htaken : (Site.made id onChannel now).along Site.taken incidents =
      moments.flatMap (Moment.taken index) := hcollected _ _ Site.taken_of_plain
  have hlost : (Site.made id onChannel now).along Site.lost incidents =
      moments.flatMap (Moment.lost index) := hcollected _ _ Site.lost_of_plain
  have hposted : (Site.made id onChannel now).along Site.posted incidents =
      moments.flatMap (Moment.posted index) := hcollected _ _ Site.posted_of_plain
  have hsent : (Site.made id onChannel now).along Site.sent incidents =
      moments.flatMap (Moment.sent index) := hcollected _ _ Site.sent_of_plain
  have hreached : link = ((Site.made id onChannel now).run incidents).link :=
    congrArg Site.link hrun
  have hrequested : moments.flatMap (Moment.requested index) =
      (moments.flatMap (Moment.sent index)).map (·.answer) := by
    rw [List.map_flatMap]
    exact congrArg (List.flatMap · moments) (funext fun moment => moment.requested_eq index)
  have hcount : (moments.flatMap (Moment.sent index)).length ≤ UInt64.size := by
    rwa [hrequested, List.length_map] at few
  have orderly : (Site.made (κ := CallbackRef) id onChannel now).link.Orderly := by
    intro bridge hbridge
    cases hbridge
  have hbound : ((Site.made id onChannel now).run incidents).link.issued ≤ UInt64.size := by
    rw [Site.issued_run, hsent]
    exact (Nat.zero_add _).trans_le hcount
  have answered := Site.answered_run orderly hbound
  rw [hsent, hposted] at answered
  have hissued : (Site.made (κ := CallbackRef) id onChannel now).link.issued = 0 := rfl
  rw [hissued] at answered
  constructor
  · have hqueue := Site.queue_run (Site.made id onChannel now) incidents
    have hempty : (Site.made (κ := CallbackRef) id onChannel now).link.transport.outbox = [] := by
      cases onChannel with
      | false => rfl
      | true => rfl
    rwa [htaken, hlost, hposted, ← hreached, hempty, List.nil_append] at hqueue
  · exact fun moment _ => moment.shows_taken index
  · exact fun name texts hname hanswer => outbox_of_posted hname hlink hanswer
  · intro hstays
    refine List.eq_nil_iff_forall_not_mem.2 fun text hmem => ?_
    obtain ⟨moment, hmoment, htext⟩ := List.mem_flatMap.1 hmem
    exact hstays moment hmoment (Moment.hangsUp_of_lost htext)
  · exact fun moment _ => moment.requested_eq index
  · rw [hrequested, List.map_map, List.length_map]
    exact answered.numbered hcount
  · intro moment hmoment call hcall
    have hmem : call ∈ moments.flatMap (Moment.sent index) :=
      List.mem_flatMap.2 ⟨moment, hmoment, hcall⟩
    refine Moment.gives_of_sent hcall (answered.replies call hmem) ?_
    rw [answered.progress call hmem, SentCall.progress]
    cases call.error with
    | none => rfl
    | some error => rfl
  · exact fun moment _ => moment.requests_posted index
  · exact answered.requests
  · exact answered.increasing hcount
  · intro posting hposting
    rw [owner?_of_link hlink, hreached]
    rw [← hposted] at hposting
    exact Site.framed_along hposting
  · exact fun moment _ text htext => Moment.subscribes_of_posted htext
  · exact fun moment _ text => Moment.foreign_mem_posted

end World

/-! ## Sessions -/

namespace Session

/-- Whatever happens on a link, in whatever order, what goes out obeys `World.OutboundLaw`, while
there are ids left.

This holds at every moment of every history, and `Session.history` is one that the reports of the
session bear out. -/
theorem outbound_in_order :
    (∀ steps, Recounts steps (history steps)) ∧
    (∀ moments world index link, World.History moments world → world.links[index]? = some link →
      (moments.flatMap (Moment.requested index)).length ≤ UInt64.size →
        World.OutboundLaw moments world index link) :=
  ⟨recounts_history, fun _ _ _ _ history hlink few => history.outboundLaw hlink few⟩

/-- Of four calls to send, one finds the host offline and one has no command.  The other two
requests travel under the first and the fourth id, one taken by the host and the other still
waiting. -/
theorem outbound_in_order_of_offline_host :
    let steps : List Step :=
      [.createMemory "host" "id", .buildBridge "host" "bridge" [],
        .send "bridge" "first" "first" .absent none, .setOffline "host" true,
        .send "bridge" "second" "second" .absent none, .setOffline "host" false,
        .takePosted "host", .send "bridge" "third" "" .absent none,
        .send "bridge" "fourth" "fourth" .absent none]
    let moments := history steps
    (moments.flatMap (Moment.requested 0)).map (fun id => id.value.toNat) = [0, 1, 2, 3] ∧
      (moments.flatMap (Moment.posted 0)).filterMap Posting.id? = [⟨0⟩, ⟨3⟩] ∧
      moments.flatMap (Moment.taken 0) = ["\x7b\"_promise_id\":\"0\",\"cmd\":\"first\"\x7d"] ∧
      (Step.posted "host").answer (behind {} steps) =
        .posted ["\x7b\"_promise_id\":\"3\",\"cmd\":\"fourth\"\x7d"] := by
  intro steps moments
  obtain ⟨hrecounts, hlaw⟩ := outbound_in_order
  have hcount : (moments.flatMap (Moment.requested 0)).length = 4 := by
    cbv
  have hposted : moments.flatMap (Moment.posted 0) =
      [.request ⟨0⟩ "\x7b\"_promise_id\":\"0\",\"cmd\":\"first\"\x7d",
        .request ⟨3⟩ "\x7b\"_promise_id\":\"3\",\"cmd\":\"fourth\"\x7d"] := by
    cbv
  have hlost : moments.flatMap (Moment.lost 0) = [] := by
    cbv
  have hname : (behind {} steps).linkOf? (.native "host") = some 0 := by
    cbv
  have hlisted : (Step.posted "host").answer (behind {} steps) =
      .posted ["\x7b\"_promise_id\":\"3\",\"cmd\":\"fourth\"\x7d"] := by
    cbv
  have hsome : ((behind {} steps).links[0]?).isSome = true := by
    cbv
  obtain ⟨link, hlink⟩ := Option.isSome_iff_exists.1 hsome
  have law := hlaw moments _ 0 link (hrecounts steps).leads hlink (by rw [hcount]; decide)
  have hnumbered := law.numbered
  have hqueue := law.queue
  rw [hcount] at hnumbered
  rw [← law.listed "host" _ hname hlisted, hlost, hposted, List.append_nil] at hqueue
  refine ⟨hnumbered, ?_, (List.append_inj' hqueue rfl).1, hlisted⟩
  rw [hposted]
  rfl

end Session
end HostLink
