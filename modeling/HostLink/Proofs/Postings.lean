import HostLink.Proofs.Listeners
import HostLink.Proofs.LocalFailure
import HostLink.Proofs.Notifications

/-!
# What is posted on a link

A bridge posts requests and activations, and anybody may post past it.  Each incident on a link
takes messages off the front of its queue and adds others behind (`Link.queue_undergo`), so that a
run brings the native side what was posted, in the order of the posts (`Site.queue_run`).  Only a
channel whose endpoint is dropped loses something: what waits at that moment.

A request gets its id before it is known whether it can be posted at all, so some ids never travel.
The n-th call to send has the n-th id, and its request is posted during the call or not at all
(`Site.answered_run`).
-/

namespace HostLink

/-! ## Postings -/

/-- A message that the queue towards the native side has taken. -/
inductive Posting where
  | request (id : CorrelationId) (text : String)
  | activation (text : String)
  /-- Somebody posted it past the bridge. -/
  | foreign (text : String)

namespace Posting

def text : Posting → String
  | .request _ text | .activation text | .foreign text => text

/-- The id of the request, if it is one. -/
def id? : Posting → Option CorrelationId
  | .request id _ => some id
  | .activation _ | .foreign _ => none

/-- The message is one JSON object.  A request carries its id in the correlation field; an
activation leaves that field out, unless its name is one of the two that an activation has. -/
def Framed (wire : WireFormat) : Posting → Prop
  | .request id text => ∃ members, text = (Json.obj members).compact ∧
      Fields.lookup wire.correlationField members = some (id.encode wire.idFormat)
  | .activation text => ∃ members, text = (Json.obj members).compact ∧
      (wire.commandField ≠ wire.correlationField → wire.eventField ≠ wire.correlationField →
        Fields.lookup wire.correlationField members = none)
  | .foreign _ => False

/-- Whatever the messages are posted as, their texts stay. -/
theorem texts_map {post : String → Posting} (hpost : ∀ text, (post text).text = text)
    (texts : List String) : (texts.map post).map Posting.text = texts := by
  induction texts with
  | nil => rfl
  | cons first rest ih => rw [List.map_cons, List.map_cons, hpost, ih]

end Posting

namespace Transport

/-- What a post adds to the queue. -/
def accepted (transport : Transport) (message : String) : List String :=
  match (transport.post message).1 with
  | .ok () => [message]
  | .error _ => []

theorem mem_accepted {transport : Transport} {message text : String}
    (h : text ∈ transport.accepted message) : text = message := by
  unfold accepted at h
  split at h
  · exact List.mem_singleton.1 h
  · cases h

theorem ok_of_mem_accepted {transport : Transport} {message text : String}
    (h : text ∈ transport.accepted message) : (transport.post message).1 = .ok () := by
  unfold accepted at h
  split at h
  · assumption
  · cases h

theorem accepted_of_ok {transport : Transport} {message : String}
    (h : (transport.post message).1 = .ok ()) : transport.accepted message = [message] := by
  rw [accepted, h]

theorem outbox_post (transport : Transport) (message : String) :
    (transport.post message).2.1.outbox = transport.outbox ++ transport.accepted message := by
  unfold accepted
  cases hpost : (transport.post message).1 with
  | ok => exact outbox_post_of_ok hpost
  | error error => rw [post_of_error hpost, List.append_nil]

end Transport

/-! ## What the bridge posts -/

/-- A call to send: the id that it answered, why it failed in place, if it did, and the reply that
it gave back. -/
structure SentCall where
  answer : CorrelationId
  error : Option BridgeError
  reply : Reply

/-- The calls have taken the ids that follow on the first `issued`.  The reply of a call has failed
at once, or it waits and the request was posted. -/
structure Answered (issued : Nat) (calls : List SentCall) (postings : List Posting) : Prop where
  ids : calls.map (·.answer) = (List.range' issued calls.length).map CorrelationId.ofTicket
  replies : ∀ call ∈ calls, call.reply.id = call.answer
  requests : postings.filterMap Posting.id? =
    (calls.filter (·.error.isNone)).map (·.answer)
  progress : ∀ call ∈ calls, call.reply.progress =
    match call.error with
    | some error => .settled (.error error)
    | none => .waiting

namespace Answered

theorem silent (issued : Nat) {postings : List Posting}
    (h : postings.filterMap Posting.id? = []) : Answered issued [] postings := by
  constructor
  · rfl
  · intro call hcall
    cases hcall
  · exact h
  · intro call hcall
    cases hcall

theorem append {issued : Nat} {calls more : List SentCall} {postings others : List Posting}
    (h : Answered issued calls postings) (h' : Answered (issued + calls.length) more others) :
    Answered issued (calls ++ more) (postings ++ others) := by
  constructor
  · rw [List.map_append, h.ids, h'.ids, List.length_append, ← List.map_append,
      List.range'_append_1]
  · intro call hcall
    rcases List.mem_append.1 hcall with hcall | hcall
    · exact h.replies call hcall
    · exact h'.replies call hcall
  · rw [List.filterMap_append, h.requests, h'.requests, List.filter_append, List.map_append]
  · intro call hcall
    rcases List.mem_append.1 hcall with hcall | hcall
    · exact h.progress call hcall
    · exact h'.progress call hcall

variable {calls : List SentCall} {postings : List Posting} (h : Answered 0 calls postings)
  (few : calls.length ≤ UInt64.size)
include h few

/-- While there are ids left the n-th call has the id n - 1. -/
theorem numbered :
    calls.map (fun call => call.answer.value.toNat) = List.range calls.length := by
  have hids : calls.map (fun call => call.answer.value.toNat) =
      (calls.map (·.answer)).map fun id => id.value.toNat := by
    rw [List.map_map]
    rfl
  rw [hids, h.ids, List.map_map, List.range_eq_range']
  conv_rhs => rw [← List.map_id (List.range' 0 calls.length)]
  apply List.map_congr_left
  intro ticket hticket
  have hlt : ticket < calls.length := by
    rw [← List.range_eq_range'] at hticket
    exact List.mem_range.1 hticket
  exact UInt64.toNat_ofNat_of_lt' (Nat.lt_of_lt_of_le hlt few)

/-- The ids that travel are strictly increasing. -/
theorem increasing :
    (postings.filterMap Posting.id?).Pairwise fun earlier later => earlier.value < later.value := by
  have hall : (calls.map (·.answer)).Pairwise
      fun earlier later => earlier.value < later.value := by
    have hnumbered := h.numbered few
    have hsorted : (calls.map fun call => call.answer.value.toNat).Pairwise (· < ·) := by
      rw [hnumbered]
      exact List.pairwise_lt_range
    rw [List.pairwise_map] at hsorted ⊢
    exact hsorted.imp fun hlt => UInt64.lt_iff_toNat_lt.2 hlt
  rw [h.requests]
  exact hall.sublist (List.filter_sublist.map _)

end Answered

namespace Bridge

variable {κ : Type}

/-- What a call to send posts. -/
def requestPostings (bridge : Bridge κ) (transport : Transport) (command : String)
    (payload : Datum) : List Posting :=
  match encodeRequest bridge.config bridge.nextId command payload with
  | .ok text => (transport.accepted text).map (.request bridge.nextId)
  | .error _ => []

/-- What a subscription posts. -/
def activationPostings (bridge : Bridge κ) (transport : Transport) (event : String) :
    List Posting :=
  match Registry.checkEventName event with
  | .ok () =>
    if bridge.registry.hasListener event then []
    else (transport.accepted (activationText bridge.config event)).map .activation
  | .error _ => []

/-- What an operation of the bridge posts. -/
def postings (bridge : Bridge κ) (transport : Transport) : Operation κ → List Posting
  | .send command payload _ => bridge.requestPostings transport command payload
  | .subscribe event _ => bridge.activationPostings transport event
  | _ => []

/-- The call to send that an operation is. -/
def sentCalls (bridge : Bridge κ) (transport : Transport) (now : Instant) :
    Operation κ → List SentCall
  | .send command payload timeout =>
    let acted := bridge.send transport now command payload timeout
    acted.bridge.replies[acted.answer]?.toList.map
      (SentCall.mk bridge.nextId (bridge.sendError? transport command payload))
  | _ => []

variable {bridge : Bridge κ} {transport : Transport} {command : String} {payload : Datum}

/-- A request that has a text is posted, whatever comes of it. -/
theorem transport_send_of_encoded {text : String}
    (h : encodeRequest bridge.config bridge.nextId command payload = .ok text) (now : Instant)
    (timeout : Option Nanoseconds) :
    (bridge.send transport now command payload timeout).transport =
      (transport.post text).2.1 := by
  simp only [send, sendUntimed, h, postRequest]
  rcases transport.post text with ⟨_ | ⟨⟩, posted, log⟩
  · rfl
  · rfl

theorem outbox_send (bridge : Bridge κ) (transport : Transport) (now : Instant) (command : String)
    (payload : Datum) (timeout : Option Nanoseconds) :
    (bridge.send transport now command payload timeout).transport.outbox =
      transport.outbox ++ (bridge.requestPostings transport command payload).map Posting.text := by
  unfold requestPostings
  cases hencoded : encodeRequest bridge.config bridge.nextId command payload with
  | error error =>
    have hfault : bridge.sendError? transport command payload = some error := by
      rw [sendError?, hencoded]
    rw [transport_send_of_fault hfault, List.map_nil, List.append_nil]
  | ok text =>
    dsimp only
    rw [transport_send_of_encoded hencoded, Transport.outbox_post, Posting.texts_map]
    intro text
    rfl

theorem outbox_subscribe (bridge : Bridge κ) (transport : Transport) (event : String)
    (callback : κ) :
    (bridge.subscribe transport event callback).transport.outbox =
      transport.outbox ++ (bridge.activationPostings transport event).map Posting.text := by
  unfold activationPostings
  cases hname : Registry.checkEventName event with
  | error cause =>
    rw [(bridge.subscribe_of_invalid transport callback hname).2, List.map_nil, List.append_nil]
  | ok =>
    dsimp only
    by_cases hlistener : bridge.registry.hasListener event = true
    · rw [(bridge.subscribe_of_listener transport callback hname hlistener).2, if_pos hlistener,
        List.map_nil, List.append_nil]
    · have hsilent := Bool.eq_false_iff.2 hlistener
      rw [bridge.transport_subscribe_of_silent transport callback hname hsilent,
        Transport.outbox_post, if_neg hlistener, Posting.texts_map]
      intro text
      rfl

/-- A request travels exactly if its call did not fail in place. -/
theorem ids_requestPostings (bridge : Bridge κ) (transport : Transport) (command : String)
    (payload : Datum) :
    (bridge.requestPostings transport command payload).filterMap Posting.id? =
      match bridge.sendError? transport command payload with
      | some _ => []
      | none => [bridge.nextId] := by
  unfold requestPostings sendError? Transport.accepted
  cases encodeRequest bridge.config bridge.nextId command payload with
  | error error => rfl
  | ok text =>
    dsimp only
    cases (transport.post text).1 with
    | error error => rfl
    | ok => rfl

theorem ids_activationPostings (bridge : Bridge κ) (transport : Transport) (event : String) :
    (bridge.activationPostings transport event).filterMap Posting.id? = [] := by
  unfold activationPostings
  split
  · split
    · rfl
    · rw [List.filterMap_map]
      exact List.filterMap_none _
  · rfl

/-- The reply of a call has failed already or waits, under the next id. -/
theorem sentCalls_send (fresh : bridge.nextId ∉ bridge.pending.ids) (transport : Transport)
    (now : Instant) (command : String) (payload : Datum) (timeout : Option Nanoseconds) :
    ∃ reply : Reply, reply.id = bridge.nextId ∧
      (reply.progress = match bridge.sendError? transport command payload with
        | some error => .settled (.error error)
        | none => .waiting) ∧
      bridge.sentCalls transport now (.send command payload timeout) =
        [⟨bridge.nextId, bridge.sendError? transport command payload, reply⟩] := by
  have hbridge := send_bridge fresh transport now command payload timeout
  have hanswer : (bridge.send transport now command payload timeout).answer =
      bridge.replies.length := rfl
  unfold sentCalls
  simp only [hbridge, hanswer]
  cases bridge.sendError? transport command payload with
  | some error =>
    refine ⟨_, ?_, ?_, by rw [withRequest, List.getElem?_concat_length]; rfl⟩
    · rfl
    · rfl
  | none =>
    refine ⟨_, ?_, ?_, by rw [withRequest, List.getElem?_concat_length]; rfl⟩
    · rfl
    · rfl

/-- A call to send takes the next id, and gives back one reply. -/
theorem exists_sentCalls (bridge : Bridge κ) (transport : Transport) (now : Instant)
    (command : String) (payload : Datum) (timeout : Option Nanoseconds) :
    ∃ reply, bridge.sentCalls transport now (.send command payload timeout) =
      [⟨bridge.nextId, bridge.sendError? transport command payload, reply⟩] := by
  have hlength : (bridge.send transport now command payload timeout).bridge.replies.length =
      bridge.replies.length + 1 :=
    Station.length_replies_perform ⟨now, transport, bridge⟩ (.send command payload timeout)
  have hanswer : (bridge.send transport now command payload timeout).answer =
      bridge.replies.length := rfl
  dsimp only [sentCalls]
  rw [hanswer, List.getElem?_eq_getElem (by omega)]
  exact ⟨_, rfl⟩

theorem answers_sentCalls (bridge : Bridge κ) (transport : Transport) (now : Instant)
    (command : String) (payload : Datum) (timeout : Option Nanoseconds) :
    (bridge.sentCalls transport now (.send command payload timeout)).map (·.answer) =
      [bridge.nextId] := by
  obtain ⟨reply, hcalls⟩ := bridge.exists_sentCalls transport now command payload timeout
  rw [hcalls]
  rfl

/-- Each call to send gives back one reply, and no other operation does. -/
theorem length_sentCalls (bridge : Bridge κ) (transport : Transport) (now : Instant)
    (operation : Operation κ) :
    (bridge.sentCalls transport now operation).length = if operation.isSend then 1 else 0 := by
  cases operation with
  | send command payload timeout =>
    have hanswers := bridge.answers_sentCalls transport now command payload timeout
    exact (List.length_map _).symm.trans (congrArg List.length hanswers)
  | _ => rfl

theorem framed_requestPostings {posting : Posting}
    (h : posting ∈ bridge.requestPostings transport command payload) :
    posting.Framed bridge.config.wire := by
  unfold requestPostings at h
  split at h
  · next text hencoded =>
    obtain ⟨message, hmessage, rfl⟩ := List.mem_map.1 h
    obtain rfl := Transport.mem_accepted hmessage
    unfold encodeRequest at hencoded
    split at hencoded
    · cases hencoded
    · cases hfields : payload.payloadFields with
      | error error =>
        rw [hfields] at hencoded
        cases hencoded
      | ok fields =>
        rw [hfields] at hencoded
        cases hencoded
        exact ⟨_, rfl, Command.lookup_correlationField _ _ _ _⟩
  · cases h

theorem framed_activationPostings {event : String} {posting : Posting}
    (h : posting ∈ bridge.activationPostings transport event) :
    posting.Framed bridge.config.wire := by
  unfold activationPostings at h
  split at h
  · split at h
    · cases h
    · obtain ⟨message, hmessage, rfl⟩ := List.mem_map.1 h
      refine ⟨Command.activation bridge.config event, Transport.mem_accepted hmessage, ?_⟩
      intro hcommand hevent
      rw [Command.lookup_activation, if_neg hcommand, if_neg hevent]
  · cases h

/-- A subscription that posts an activation succeeds. -/
theorem subscribe_of_activation {event text : String}
    (h : .activation text ∈ bridge.activationPostings transport event) (callback : κ) :
    ∃ id, (bridge.subscribe transport event callback).answer = .ok id := by
  unfold activationPostings at h
  split at h
  · next hname =>
    split at h
    · cases h
    · next hlistener =>
      obtain ⟨message, hmessage, -⟩ := List.mem_map.1 h
      have hok := Transport.ok_of_mem_accepted hmessage
      unfold subscribe
      rcases hpost : transport.post (activationText bridge.config event) with ⟨result, after, log⟩
      rw [hpost] at hok
      obtain rfl : result = .ok () := hok
      simp [hname, hlistener]
  · cases h

theorem framed_postings {operation : Operation κ} {posting : Posting}
    (h : posting ∈ bridge.postings transport operation) : posting.Framed bridge.config.wire := by
  cases operation with
  | send command payload timeout => exact framed_requestPostings h
  | subscribe event callback => exact framed_activationPostings h
  | _ => cases h

end Bridge

/-- What the bridge posts is what its operation adds to the queue. -/
theorem Station.outbox_perform {κ : Type} (station : Station κ) {operation : Operation κ}
    (own : operation.Own) :
    (station.perform operation).transport.outbox = station.transport.outbox ++
      (station.bridge.postings station.transport operation).map Posting.text := by
  cases operation with
  | send command payload timeout =>
    exact station.bridge.outbox_send station.transport station.now command payload timeout
  | subscribe event callback =>
    exact station.bridge.outbox_subscribe station.transport event callback
  | sendSync command payload =>
    exact (Bridge.outbox_sendSync station.bridge.config station.transport command payload).trans
      (List.append_nil _).symm
  | advance time => exact own.elim
  | carry transport => exact own.elim
  | _ => exact (List.append_nil _).symm

/-! ## What leaves the queue -/

namespace Link

variable {κ : Type}

/-- What is posted in an incident. -/
def posted (link : Link κ) : Incident κ → List Posting
  | .post text => (link.transport.accepted text).map .foreign
  | .operate operation _ =>
    match link.bridge? with
    | some bridge => bridge.postings link.transport operation
    | none => []
  | _ => []

/-- What the native side takes in an incident: a host takes all there is, an endpoint the oldest. -/
def taken (link : Link κ) : Incident κ → List String
  | .takePosted => if link.host?.isSome then link.transport.outbox else []
  | .receive => if link.channel?.isSome then link.transport.outbox.head?.toList else []
  | _ => []

/-- What goes away with the endpoint. -/
def lost (link : Link κ) : Incident κ → List String
  | .dropEndpoint => if link.channel?.isSome then link.transport.outbox else []
  | _ => []

/-- The calls to send in an incident. -/
def sent (link : Link κ) (now : Instant) : Incident κ → List SentCall
  | .operate operation _ =>
    match link.bridge? with
    | some bridge => bridge.sentCalls link.transport now operation
    | none => []
  | _ => []

theorem outbox_of_host? {link : Link κ} {host : MemoryHost} (h : link.host? = some host) :
    link.transport.outbox = host.outbox := by
  rcases link with ⟨⟨id, found | channel⟩, listener⟩
  · cases h
    rfl
  · cases h

theorem outbox_of_channel? {link : Link κ} {channel : Channel}
    (h : link.channel? = some channel) : link.transport.outbox = channel.outbox := by
  rcases link with ⟨⟨id, host | found⟩, listener⟩
  · cases h
  · cases h
    rfl

theorem outbox_install (link : Link κ) (runtime : Bool) (listener : Listener κ) :
    (link.install runtime listener).2.transport.outbox = link.transport.outbox := by
  obtain ⟨error, hresult⟩ | ⟨-, ⟨-, hresult⟩ | ⟨channel, hchannel, hresult⟩⟩ :=
    link.install_cases runtime listener
  · rw [hresult]
  · rw [hresult]
  · rw [hresult, outbox_of_channel? hchannel]
    rfl

theorem outbox_wake (channel : Channel) : channel.wake.outbox = channel.outbox := by
  unfold Channel.wake
  split
  · rfl
  · rfl

/-- A turn of the pump takes from what comes in, and not from what goes out. -/
theorem outbox_pumped (channel : Channel) : channel.pumped.outbox = channel.outbox := by
  unfold Channel.pumped
  split
  · rfl
  · rfl

/-- An incident takes messages off the front of the queue and adds others behind. -/
theorem queue_undergo (link : Link κ) (now : Instant) (incident : Incident κ) :
    link.taken incident ++ link.lost incident ++ (link.undergo now incident).transport.outbox =
      link.transport.outbox ++ (link.posted incident).map Posting.text := by
  have hkept {after : Link κ} (h : after.transport.outbox = link.transport.outbox) :
      [] ++ [] ++ after.transport.outbox = link.transport.outbox ++ [].map Posting.text := by
    simp [h]
  cases incident with
  | advance time => exact hkept rfl
  | claim claimant runtime => exact hkept (link.outbox_install runtime claimant.listener)
  | post text =>
    have hposted := link.transport.outbox_post text
    rw [posted, Posting.texts_map fun _ => rfl, ← hposted]
    rfl
  | sendSync text => exact hkept (link.transport.outbox_sendSync text)
  | operate operation own =>
    simp only [taken, lost, posted, undergo, Link.operate, List.nil_append]
    cases link.bridge? with
    | none => exact (List.append_nil _).symm
    | some bridge => exact Station.outbox_perform ⟨now, link.transport, bridge⟩ own
  | takePosted =>
    rcases link with ⟨⟨id, host | channel⟩, listener⟩
    · simp [taken, lost, posted, undergo, onHost, host?, withHost, Transport.outbox]
    · exact hkept rfl
  | setOffline offline | setResponder responder =>
    refine hkept ?_
    rcases link with ⟨⟨id, host | channel⟩, listener⟩
    · rfl
    · rfl
  | deliver text =>
    refine hkept (onHost_keeps (·.transport.outbox) ?_)
    intro host hhost
    rw [transport_hear]
  | receive =>
    rcases link with ⟨⟨id, host | channel⟩, listener⟩
    · exact hkept rfl
    · rcases channel with ⟨_ | ⟨first, rest⟩, inbox, endpointOpen, pump⟩
      · rfl
      · exact (List.append_nil _).symm
  | dropEndpoint =>
    rcases link with ⟨⟨id, host | channel⟩, listener⟩
    · exact hkept rfl
    · have hempty : (undergo ⟨⟨id, .channel channel⟩, listener⟩ now
          .dropEndpoint).transport.outbox = [] :=
        outbox_wake { channel with endpointOpen := false, outbox := [] }
      rw [hempty]
      rfl
  | endpointPost text held =>
    refine hkept (onChannel_keeps (·.transport.outbox) ?_)
    intro channel hchannel
    split
    · exact (outbox_wake _).trans (outbox_of_channel? hchannel).symm
    · rfl
  | startPump =>
    refine hkept (onChannel_keeps (·.transport.outbox) ?_)
    intro channel hchannel
    split
    · exact (outbox_of_channel? hchannel).symm
    · rfl
  | pump =>
    refine hkept (onChannel_keeps (·.transport.outbox) ?_)
    intro channel hchannel
    have hpumped := (outbox_pumped channel).trans (outbox_of_channel? hchannel).symm
    split
    · split
      · rw [transport_hear]
        exact hpumped
      · exact hpumped
    · rfl

/-! ## A channel without its endpoint -/

/-- The endpoint is gone, and all that waited for it. -/
structure Deserted (link : Link κ) : Prop where
  outbox : link.transport.outbox = []
  closed : ∃ inlet, link.inlet? = some inlet ∧ inlet.endpointOpen = false

theorem Deserted.accepted {link : Link κ} (h : link.Deserted) (message : String) :
    link.transport.accepted message = [] := by
  obtain ⟨inlet, hinlet, hclosed⟩ := h.closed
  rcases link with ⟨⟨id, host | channel⟩, listener⟩
  · cases hinlet
  · cases hinlet
    have hshut : channel.endpointOpen = false := hclosed
    simp [Transport.accepted, Transport.post, hshut]

/-- Nothing is posted any more. -/
theorem Deserted.posted {link : Link κ} (h : link.Deserted) (incident : Incident κ) :
    link.posted incident = [] := by
  cases incident with
  | post text => rw [Link.posted, h.accepted, List.map_nil]
  | operate operation own =>
    unfold Link.posted
    cases link.bridge? with
    | none => rfl
    | some bridge =>
      cases operation with
      | send command payload timeout =>
        dsimp only [Bridge.postings, Bridge.requestPostings]
        split
        · rw [h.accepted, List.map_nil]
        · rfl
      | subscribe event callback =>
        dsimp only [Bridge.postings, Bridge.activationPostings]
        split
        · rw [h.accepted, List.map_nil, ite_self]
        · rfl
      | _ => rfl
  | _ => rfl

theorem Deserted.undergo {link : Link κ} (h : link.Deserted) (now : Instant)
    (incident : Incident κ) :
    link.taken incident = [] ∧ link.lost incident = [] ∧ (link.undergo now incident).Deserted := by
  have hqueue := link.queue_undergo now incident
  rw [h.outbox, h.posted, List.map_nil, List.append_nil] at hqueue
  obtain ⟨hleft, houtbox⟩ := List.append_eq_nil_iff.1 hqueue
  obtain ⟨htaken, hlost⟩ := List.append_eq_nil_iff.1 hleft
  obtain ⟨inlet, hinlet, hclosed⟩ := h.closed
  refine ⟨htaken, hlost, houtbox, inlet.undergo incident, ?_, ?_⟩
  · rw [inlet?_undergo, hinlet]
    rfl
  · by_cases hdrop : incident = .dropEndpoint
    · subst hdrop
      exact Inlet.endpointOpen_wake _
    · rw [inlet.endpointOpen_undergo hdrop, hclosed]

theorem deserted_dropEndpoint {link : Link κ} {channel : Channel}
    (h : link.channel? = some channel) (now : Instant) :
    (link.undergo now .dropEndpoint).Deserted := by
  constructor
  · simp only [undergo, onChannel, h]
    exact outbox_wake { channel with endpointOpen := false, outbox := [] }
  · refine ⟨_, ?_, Inlet.endpointOpen_wake { channel.inlet link.hasListener with
      endpointOpen := false }⟩
    rw [inlet?_undergo, link.inlet?_of_channel? h]
    rfl

/-- Without a channel there is nothing that an endpoint could take along. -/
theorem lost_of_no_channel {link : Link κ} (h : link.channel? = none) (incident : Incident κ) :
    link.lost incident = [] := by
  cases incident with
  | dropEndpoint => rw [lost, h, Option.isSome_none, if_neg Bool.false_ne_true]
  | _ => rfl

end Link

namespace Site

variable {κ : Type}

/-- What is posted in an incident. -/
def posted (site : Site κ) (incident : Incident κ) : List Posting := site.link.posted incident

/-- What the native side takes in an incident. -/
def taken (site : Site κ) (incident : Incident κ) : List String := site.link.taken incident

/-- What goes away with the endpoint. -/
def lost (site : Site κ) (incident : Incident κ) : List String := site.link.lost incident

/-- The calls to send in an incident. -/
def sent (site : Site κ) (incident : Incident κ) : List SentCall := site.link.sent site.now incident

/-- Where the endpoint is gone nothing moves any more. -/
theorem along_of_deserted (site : Site κ) (h : site.link.Deserted)
    (incidents : List (Incident κ)) :
    site.along taken incidents = [] ∧ site.along lost incidents = [] ∧
      site.along posted incidents = [] ∧ (site.run incidents).link.transport.outbox = [] := by
  induction incidents generalizing site with
  | nil => exact ⟨rfl, rfl, rfl, h.outbox⟩
  | cons incident rest ih =>
    obtain ⟨htaken, hlost, hafter⟩ := h.undergo site.now incident
    obtain ⟨hrest, hrest', hrest'', houtbox⟩ := ih (site.perform incident) hafter
    refine ⟨?_, ?_, ?_, houtbox⟩
    · rw [along_cons, hrest, taken, htaken]
      rfl
    · rw [along_cons, hrest', lost, hlost]
      rfl
    · rw [along_cons, hrest'', posted, h.posted]
      rfl

/-- What has left the queue, and what is still in it, is what was in it, and what was posted. -/
theorem queue_run (site : Site κ) (incidents : List (Incident κ)) :
    site.along taken incidents ++ site.along lost incidents ++
        (site.run incidents).link.transport.outbox =
      site.link.transport.outbox ++ (site.along posted incidents).map Posting.text := by
  induction incidents generalizing site with
  | nil => simp
  | cons incident rest ih =>
    have hstep := site.link.queue_undergo site.now incident
    by_cases hdropped : incident = .dropEndpoint ∧ site.link.channel?.isSome
    · -- The endpoint takes along all that waits, so that what follows is empty.
      obtain ⟨rfl, hsome⟩ := hdropped
      obtain ⟨channel, hchannel⟩ := Option.isSome_iff_exists.1 hsome
      have hdeserted := Link.deserted_dropEndpoint hchannel site.now
      obtain ⟨htaken, hlost, hposted, houtbox⟩ :=
        along_of_deserted (site.perform .dropEndpoint) hdeserted rest
      rw [hdeserted.outbox, List.append_nil] at hstep
      rw [along_cons, along_cons, along_cons, htaken, hlost, hposted, run_cons, houtbox]
      simpa [taken, lost, posted] using hstep
    · have hkept : site.link.lost incident = [] := by
        cases incident with
        | dropEndpoint =>
          have hnone : site.link.channel? = none := by simpa using hdropped
          exact Link.lost_of_no_channel hnone _
        | _ => rfl
      have hrest := ih (site.perform incident)
      rw [hkept, List.append_nil] at hstep
      rw [along_cons, along_cons, along_cons, run_cons, lost, hkept, List.nil_append,
        List.append_assoc, List.append_assoc, ← List.append_assoc (along taken _ _), hrest,
        ← List.append_assoc, List.map_append, ← List.append_assoc, posted, ← hstep]
      rfl

end Site

/-! ## The ids of the requests -/

namespace Link

variable {κ : Type}

/-- How many requests the bridge on the link has been asked to send. -/
def issued (link : Link κ) : Nat := (link.bridge?.map fun bridge => bridge.replies.length).getD 0

/-- The table of the bridge on the link, if there is one, agrees with its replies. -/
def Orderly (link : Link κ) : Prop := ∀ bridge, link.bridge? = some bridge → bridge.Coherent

theorem issued_of_bridge? {link : Link κ} {bridge : Bridge κ} (h : link.bridge? = some bridge) :
    link.issued = bridge.replies.length := by
  rw [issued, h]
  rfl

/-- Only an operation of the bridge makes it send. -/
theorem countP_operations {link : Link κ} {bridge : Bridge κ} (h : link.bridge? = some bridge)
    (now : Instant) (incident : Incident κ) :
    (link.operations incident).countP Operation.isSend = (link.sent now incident).length := by
  have hheard (texts : List String) :
      (if link.hasLiveBridge then texts.map Operation.receive else
        ([] : List (Operation κ))).countP Operation.isSend = 0 := by
    rw [List.countP_eq_zero]
    intro operation hmem
    split at hmem
    · obtain ⟨text, -, rfl⟩ := List.mem_map.1 hmem
      exact Bool.false_ne_true
    · cases hmem
  cases incident with
  | operate operation own =>
    simp only [sent, h]
    rw [bridge.length_sentCalls]
    exact List.countP_singleton
  | _ => exact hheard _

/-- Where no bridge listens there is none behind an incident, or a new one. -/
theorem bridge?_undergo_of_none {link : Link κ} (h : link.bridge? = none) (now : Instant)
    (incident : Incident κ) :
    (link.undergo now incident).bridge? = none ∨
      ∃ config, (link.undergo now incident).bridge? = some { config } := by
  by_cases hclaim : ∃ claimant runtime, incident = .claim claimant runtime
  · obtain ⟨claimant, runtime, rfl⟩ := hclaim
    have hinstalled (transport : Transport) :
        (Link.mk transport (claimant.listener : Listener κ)).bridge? = none ∨
          ∃ config, (Link.mk transport (claimant.listener : Listener κ)).bridge? =
            some { config } := by
      cases claimant with
      | observer name => exact .inl rfl
      | bridge config => exact .inr ⟨config, rfl⟩
    simp only [undergo]
    obtain ⟨error, hresult⟩ | ⟨-, ⟨-, hresult⟩ | ⟨channel, -, hresult⟩⟩ :=
      link.install_cases runtime claimant.listener
    · rw [hresult]
      exact .inl h
    · rw [hresult]
      exact hinstalled _
    · rw [hresult]
      exact hinstalled _
  · refine .inl ?_
    have hsame := listener_undergo now h fun claimant runtime heq =>
      absurd ⟨claimant, runtime, heq⟩ hclaim
    rw [bridge?, hsame]
    exact h

theorem issued_undergo (link : Link κ) (now : Instant) (incident : Incident κ) :
    (link.undergo now incident).issued = link.issued + (link.sent now incident).length := by
  cases hbridge : link.bridge? with
  | some bridge =>
    rw [issued_of_bridge? (bridge?_undergo now hbridge incident), Station.length_replies_run,
      issued_of_bridge? hbridge, countP_operations hbridge now]
  | none =>
    have hsent : link.sent now incident = [] := by
      cases incident with
      | operate operation own => simp only [sent, hbridge]
      | _ => rfl
    have hissued : link.issued = 0 := by
      rw [issued, hbridge]
      rfl
    rw [hsent, hissued]
    obtain hnone | ⟨config, hnew⟩ := bridge?_undergo_of_none hbridge now incident
    · rw [issued, hnone]
      rfl
    · rw [issued, hnew]
      rfl

theorem Orderly.undergo {link : Link κ} (h : link.Orderly) (now : Instant)
    {incident : Incident κ} (bound : (link.undergo now incident).issued ≤ UInt64.size) :
    (link.undergo now incident).Orderly := by
  intro after hafter
  cases hbridge : link.bridge? with
  | some bridge =>
    have hrun := bridge?_undergo now hbridge incident
    obtain rfl := Option.some.inj (hrun.symm.trans hafter)
    rw [issued_of_bridge? hrun] at bound
    exact Station.coherent_run (h bridge hbridge) bound
  | none =>
    obtain hnone | ⟨config, hnew⟩ := bridge?_undergo_of_none hbridge now incident
    · cases hnone.symm.trans hafter
    · obtain rfl := Option.some.inj (hnew.symm.trans hafter)
      exact Bridge.coherent_of_new config

/-- A request is posted in the call to send that it comes from, unless the call fails in place. -/
theorem requests_posted (link : Link κ) (now : Instant) (incident : Incident κ) :
    (link.posted incident).filterMap Posting.id? =
      ((link.sent now incident).filter (·.error.isNone)).map (·.answer) := by
  cases incident with
  | post text =>
    rw [posted, List.filterMap_map]
    exact List.filterMap_none _
  | operate operation own =>
    simp only [sent, posted]
    cases link.bridge? with
    | none => rfl
    | some bridge =>
      cases operation with
      | send command payload timeout =>
        obtain ⟨reply, hcalls⟩ := bridge.exists_sentCalls link.transport now command payload timeout
        dsimp only
        rw [hcalls, Bridge.postings, bridge.ids_requestPostings]
        cases bridge.sendError? link.transport command payload with
        | some error => rfl
        | none => rfl
      | subscribe event callback => exact bridge.ids_activationPostings link.transport event
      | _ => rfl
  | _ => rfl

/-- A call to send takes the next id, and nothing else does. -/
theorem Orderly.answered {link : Link κ} (h : link.Orderly) (now : Instant)
    {incident : Incident κ} (bound : (link.undergo now incident).issued ≤ UInt64.size) :
    Answered link.issued (link.sent now incident) (link.posted incident) := by
  have hrequests := link.requests_posted now incident
  have hsilent (hsent : link.sent now incident = []) :
      Answered link.issued (link.sent now incident) (link.posted incident) := by
    rw [hsent] at hrequests ⊢
    exact Answered.silent _ hrequests
  cases incident with
  | operate operation own =>
    cases hbridge : link.bridge? with
    | none => exact hsilent (by simp only [sent, hbridge])
    | some bridge =>
      cases operation with
      | send command payload timeout =>
        have hsent : link.sent now (.operate (.send command payload timeout) own) =
            bridge.sentCalls link.transport now (.send command payload timeout) := by
          simp only [sent, hbridge]
        rw [issued_undergo, hsent, bridge.length_sentCalls, issued_of_bridge? hbridge] at bound
        obtain ⟨reply, hid, hprogress, hcalls⟩ := Bridge.sentCalls_send
          ((h bridge hbridge).fresh bound) link.transport now command payload timeout
        rw [hsent, hcalls] at hrequests ⊢
        rw [issued_of_bridge? hbridge]
        constructor
        · rfl
        · intro call hcall
          obtain rfl := List.mem_singleton.1 hcall
          exact hid
        · exact hrequests
        · intro call hcall
          obtain rfl := List.mem_singleton.1 hcall
          exact hprogress
      | _ => exact hsilent (by simp only [sent, hbridge]; rfl)
  | _ => exact hsilent rfl

/-- What the bridge posts is framed as its configuration says; anything else was posted past it. -/
theorem framed_posted {link : Link κ} {incident : Incident κ} {posting : Posting}
    (h : posting ∈ link.posted incident) :
    (∃ text, posting = .foreign text ∧ incident = .post text) ∨
      ∃ config, link.owner? = some (.bridge config) ∧ posting.Framed config.wire := by
  cases incident with
  | post text =>
    obtain ⟨message, hmessage, rfl⟩ := List.mem_map.1 h
    obtain rfl := Transport.mem_accepted hmessage
    exact .inl ⟨message, rfl, rfl⟩
  | operate operation own =>
    cases hbridge : link.bridge? with
    | none =>
      simp only [posted, hbridge] at h
      cases h
    | some bridge =>
      simp only [posted, hbridge] at h
      exact .inr ⟨bridge.config, owner?_of_bridge? hbridge, Bridge.framed_postings h⟩
  | _ => cases h

end Link

namespace Site

variable {κ : Type}

theorem issued_run (site : Site κ) (incidents : List (Incident κ)) :
    (site.run incidents).link.issued =
      site.link.issued + (site.along sent incidents).length := by
  induction incidents generalizing site with
  | nil => rfl
  | cons incident rest ih =>
    have hstep : (site.perform incident).link.issued =
        site.link.issued + (site.sent incident).length :=
      site.link.issued_undergo site.now incident
    rw [run_cons, ih, hstep, along_cons, List.length_append, Nat.add_assoc]

theorem answered_run {site : Site κ} (orderly : site.link.Orderly) {incidents : List (Incident κ)}
    (bound : (site.run incidents).link.issued ≤ UInt64.size) :
    Answered site.link.issued (site.along sent incidents) (site.along posted incidents) := by
  induction incidents generalizing site with
  | nil => exact Answered.silent _ rfl
  | cons incident rest ih =>
    have hstep : (site.perform incident).link.issued =
        site.link.issued + (site.sent incident).length :=
      site.link.issued_undergo site.now incident
    have hrest := (site.perform incident).issued_run rest
    have hbound : (site.perform incident).link.issued ≤ UInt64.size := by
      rw [run_cons] at bound
      omega
    have hlater := ih (orderly.undergo site.now hbound) bound
    rw [hstep] at hlater
    exact (orderly.answered site.now hbound).append hlater

/-- What is posted in a run is framed as the bridge that listens at its end was configured, or was
posted past it. -/
theorem framed_along {site : Site κ} {incidents : List (Incident κ)} {posting : Posting}
    (h : posting ∈ site.along posted incidents) :
    (∃ text, posting = .foreign text) ∨
      ∃ config, (site.run incidents).link.owner? = some (.bridge config) ∧
        posting.Framed config.wire := by
  induction incidents generalizing site with
  | nil => cases h
  | cons incident rest ih =>
    rcases List.mem_append.1 h with h | h
    · obtain ⟨text, hforeign, -⟩ | ⟨config, howner, hframed⟩ := Link.framed_posted h
      · exact .inl ⟨text, hforeign⟩
      · have hlistens : site.link.hasListener = true := by
          rw [← Link.isSome_owner?, howner]
          rfl
        exact .inr ⟨config, (owner?_run hlistens (incident :: rest)).trans howner, hframed⟩
    · exact ih h

end Site

/-! ## Incidents that bring nothing -/

namespace Site

variable {κ : Type} (site : Site κ) (incident : Incident κ) (hplain : incident.notable = false)
include hplain

theorem taken_of_plain : site.taken incident = [] := by
  cases incident with
  | takePosted | receive => cases hplain
  | _ => rfl

theorem lost_of_plain : site.lost incident = [] := by
  cases incident with
  | dropEndpoint => cases hplain
  | _ => rfl

theorem posted_of_plain : site.posted incident = [] := by
  cases incident with
  | post => cases hplain
  | operate operation own =>
    unfold posted Link.posted
    dsimp only
    split
    · cases operation with
      | send | subscribe => cases hplain
      | _ => rfl
    · rfl
  | _ => rfl

theorem sent_of_plain : site.sent incident = [] := by
  cases incident with
  | operate operation own =>
    unfold sent Link.sent
    dsimp only
    split
    · cases operation with
      | send => cases hplain
      | _ => rfl
    · rfl
  | _ => rfl

end Site
end HostLink
