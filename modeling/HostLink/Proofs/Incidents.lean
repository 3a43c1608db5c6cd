import HostLink.Link
import HostLink.Proofs.Sessions

/-!
# Links at work

A link is worked on from three sides: the program's side claims it, posts on it and works with its
bridge, the native side takes and brings messages, and the pump of a channel goes its own pace.  An
`Incident` is one thing that happens on a link, a `Site` is a link with the clock, and a run is any
list of incidents.

The inbound side of a channel, its `Inlet`, is a small machine of its own.  What an incident does to
it does not depend on the bridge, nor on anything that goes out (`Link.inlet?_undergo`), so the laws
of what comes in are laws of that machine.

`World.History.exists_run` shows that every session, scripts of callbacks included, takes each of
its links through such a run.
-/

namespace HostLink

/-! ## Incidents -/

/-- Who asks to listen on a transport. -/
inductive Claimant where
  | observer (name : String)
  | bridge (config : Config)

/-- The listener that a claimant installs. -/
def Claimant.listener {κ : Type} : Claimant → Listener κ
  | .observer name => .observer name
  | .bridge config => .bridge { config }

/-- The operation is one of the bridge, and not a change around it. -/
def Operation.Own {κ : Type} : Operation κ → Prop
  | .advance _ | .carry _ => False
  | _ => True

/-- What happens on a link. -/
inductive Incident (κ : Type) where
  | advance (time : Nanoseconds)
  -- the program's side
  | claim (claimant : Claimant) (runtime : Bool)
  | post (text : String)
  | sendSync (text : String)
  /-- An operation of the bridge on the link, if there is one. -/
  | operate (operation : Operation κ) (own : operation.Own)
  -- the host of a memory transport
  | takePosted
  | setOffline (offline : Bool)
  | setResponder (responder : SyncResponder)
  | deliver (text : String)
  -- the endpoint of a channel
  | receive
  /-- The endpoint posts, while someone holds the transport or nobody does. -/
  | endpointPost (text : String) (held : Bool)
  | dropEndpoint
  -- the pump of a channel
  | startPump
  | pump

/-- Whether the pump is about to run or runs. -/
def Pump.running : Pump → Bool
  | .fresh | .awake => true
  | .absent | .waiting | .finished => false

namespace Channel

/-- The channel behind one turn of its pump, which takes the oldest message, or goes back to wait
for one, or stops. -/
def pumped (channel : Channel) : Channel :=
  match channel.inbox with
  | _ :: rest => { channel with inbox := rest }
  | [] => { channel with pump := if channel.endpointOpen then .waiting else .finished }

end Channel

namespace Link

variable {κ : Type}

/-- Act on the host of the link, if it has one. -/
def onHost (link : Link κ) (act : MemoryHost → Link κ) : Link κ :=
  match link.host? with
  | some host => act host
  | none => link

/-- Act on the channel of the link, if it has one. -/
def onChannel (link : Link κ) (act : Channel → Link κ) : Link κ :=
  match link.channel? with
  | some channel => act channel
  | none => link

/-- What `act` leaves alone on the host, if there is one, stays. -/
theorem onHost_keeps {α : Type} (observe : Link κ → α) {link : Link κ} {act : MemoryHost → Link κ}
    (hact : ∀ host, link.host? = some host → observe (act host) = observe link) :
    observe (link.onHost act) = observe link := by
  unfold onHost
  split
  · next host hhost => exact hact host hhost
  · rfl

/-- What `act` leaves alone on the channel, if there is one, stays. -/
theorem onChannel_keeps {α : Type} (observe : Link κ → α) {link : Link κ} {act : Channel → Link κ}
    (hact : ∀ channel, link.channel? = some channel → observe (act channel) = observe link) :
    observe (link.onChannel act) = observe link := by
  unfold onChannel
  split
  · next channel hchannel => exact hact channel hchannel
  · rfl

/-- The listener hears a message. -/
def hear (link : Link κ) (now : Instant) (text : String) : Link κ :=
  match link.listener with
  | .bridge bridge =>
    if bridge.live then link.withBridge (bridge.receive now text).1 else link
  | _ => link

/-- The bridge performs an operation. -/
def operate (link : Link κ) (now : Instant) (operation : Operation κ) : Link κ :=
  match link.bridge? with
  | some bridge =>
    let station := Station.perform ⟨now, link.transport, bridge⟩ operation
    { transport := station.transport, listener := .bridge station.bridge }
  | none => link

/-- The link behind an incident. -/
def undergo (link : Link κ) (now : Instant) : Incident κ → Link κ
  | .advance _ => link
  | .claim claimant runtime => (link.install runtime claimant.listener).2
  | .post text => { link with transport := (link.transport.post text).2.1 }
  | .sendSync text => { link with transport := (link.transport.sendSync text).2 }
  | .operate operation _ => link.operate now operation
  | .takePosted => link.onHost fun host => link.withHost { host with outbox := [] }
  | .setOffline offline => link.onHost fun host => link.withHost { host with offline }
  | .setResponder responder =>
    link.onHost fun host => link.withHost { host with responder := some responder }
  | .deliver text => link.onHost fun _ => link.hear now text
  | .receive =>
    link.onChannel fun channel => link.withChannel { channel with outbox := channel.outbox.tail }
  | .endpointPost text held =>
    link.onChannel fun channel =>
      if channel.endpointOpen && channel.takesInbound held then
        link.withChannel { channel with inbox := channel.inbox ++ [text] }.wake
      else link
  | .dropEndpoint =>
    link.onChannel fun channel =>
      link.withChannel { channel with endpointOpen := false, outbox := [] }.wake
  | .startPump =>
    link.onChannel fun channel =>
      if channel.pump = .fresh then link.withChannel { channel with pump := .awake } else link
  | .pump =>
    link.onChannel fun channel =>
      if channel.pump.running then
        match channel.inbox with
        | text :: _ => (link.withChannel channel.pumped).hear now text
        | [] => link.withChannel channel.pumped
      else link

end Link

/-! ## Runs -/

/-- A link and the clock. -/
structure Site (κ : Type) where
  now : Instant
  link : Link κ

/-- A transport that was just made. -/
def Transport.made (id : String) (onChannel : Bool) : Transport :=
  ⟨id, if onChannel then .channel {} else .memory {}⟩

namespace Site

variable {κ : Type}

/-- A transport that was just made, and nobody listens yet. -/
def made (id : String) (onChannel : Bool) (now : Instant) : Site κ :=
  { now, link := { transport := .made id onChannel } }

/-- The time behind an incident. -/
def later (now : Instant) : Incident κ → Instant
  | .advance time => now + time
  | _ => now

/-- The site behind an incident. -/
def perform (site : Site κ) (incident : Incident κ) : Site κ :=
  { now := later site.now incident, link := site.link.undergo site.now incident }

/-- The site behind a run. -/
def run (site : Site κ) (incidents : List (Incident κ)) : Site κ := incidents.foldl perform site

@[simp] theorem run_nil (site : Site κ) : site.run [] = site := rfl

@[simp] theorem run_cons (site : Site κ) (incident : Incident κ) (rest : List (Incident κ)) :
    site.run (incident :: rest) = (site.perform incident).run rest := rfl

theorem run_append (site : Site κ) (before after : List (Incident κ)) :
    site.run (before ++ after) = (site.run before).run after :=
  List.foldl_append

/-- What a run brings, where `note` says what an incident brings at the site where it happens. -/
def along {α : Type} (note : Site κ → Incident κ → List α) : Site κ → List (Incident κ) → List α
  | _, [] => []
  | site, incident :: rest => note site incident ++ (site.perform incident).along note rest

section along

variable {α : Type} (note : Site κ → Incident κ → List α)

@[simp] theorem along_nil (site : Site κ) : site.along note [] = [] := rfl

@[simp] theorem along_cons (site : Site κ) (incident : Incident κ) (rest : List (Incident κ)) :
    site.along note (incident :: rest) =
      note site incident ++ (site.perform incident).along note rest := rfl

theorem along_append (site : Site κ) (before after : List (Incident κ)) :
    site.along note (before ++ after) =
      site.along note before ++ (site.run before).along note after := by
  induction before generalizing site with
  | nil => rfl
  | cons incident rest ih => simp [ih]

end along

end Site

/-! ## The inbound side of a channel -/

/-- The inbound side of a channel: what waits for the pump, whether the endpoint may post more,
where the pump stands, and whether someone listens. -/
structure Inlet where
  inbox : List String
  endpointOpen : Bool
  pump : Pump
  listening : Bool

/-- The inbound side of a channel. -/
def Channel.inlet (channel : Channel) (listening : Bool) : Inlet :=
  ⟨channel.inbox, channel.endpointOpen, channel.pump, listening⟩

/-- The inbound side of a transport over a channel. -/
def Transport.inlet? (transport : Transport) (listening : Bool) : Option Inlet :=
  match transport.medium with
  | .memory _ => none
  | .channel channel => some (channel.inlet listening)

/-- The inbound side of a link over a channel. -/
def Link.inlet? {κ : Type} (link : Link κ) : Option Inlet :=
  link.transport.inlet? link.hasListener

namespace Inlet

variable {κ : Type}

/-- Whether the endpoint is there and what it posts is taken. -/
def accepts (inlet : Inlet) (held : Bool) : Bool :=
  inlet.endpointOpen && (held || inlet.pump ≠ .absent)

/-- A pump that waits is woken. -/
def wake (inlet : Inlet) : Inlet :=
  if inlet.pump = .waiting then { inlet with pump := .awake } else inlet

/-- The inbound side behind one turn of the pump. -/
def pumped (inlet : Inlet) : Inlet :=
  match inlet.inbox with
  | _ :: rest => { inlet with inbox := rest }
  | [] => { inlet with pump := if inlet.endpointOpen then .waiting else .finished }

/-- The inbound side behind an incident. -/
def undergo (inlet : Inlet) : Incident κ → Inlet
  | .claim _ runtime =>
    if runtime && !inlet.listening then { inlet with pump := .fresh, listening := true } else inlet
  | .endpointPost text held =>
    if inlet.accepts held then wake { inlet with inbox := inlet.inbox ++ [text] } else inlet
  | .dropEndpoint => wake { inlet with endpointOpen := false }
  | .startPump => if inlet.pump = .fresh then { inlet with pump := .awake } else inlet
  | .pump => if inlet.pump.running then inlet.pumped else inlet
  | _ => inlet

end Inlet

namespace Channel

variable (channel : Channel) (listening : Bool)

@[simp] theorem inlet_wake : channel.wake.inlet listening = (channel.inlet listening).wake := by
  unfold wake Inlet.wake
  by_cases hpump : channel.pump = .waiting
  · rw [if_pos hpump, if_pos (show (channel.inlet listening).pump = .waiting from hpump)]
    rfl
  · rw [if_neg hpump, if_neg (show ¬(channel.inlet listening).pump = .waiting from hpump)]

@[simp] theorem inlet_pumped :
    channel.pumped.inlet listening = (channel.inlet listening).pumped := by
  unfold pumped Inlet.pumped
  rw [show (channel.inlet listening).inbox = channel.inbox from rfl]
  cases channel.inbox <;> rfl

end Channel

namespace Transport

variable (transport : Transport) (listening : Bool)

theorem inlet?_post (text : String) :
    (transport.post text).2.1.inlet? listening = transport.inlet? listening := by
  rcases transport with ⟨id, host | channel⟩
  · unfold post
    dsimp only
    split <;> rfl
  · unfold post
    dsimp only
    split <;> rfl

theorem inlet?_sendSync (text : String) :
    (transport.sendSync text).2.inlet? listening = transport.inlet? listening := by
  rcases transport with ⟨id, ⟨outbox, offline, _ | responder⟩ | channel⟩ <;> rfl

end Transport

namespace Bridge

variable {κ : Type} (bridge : Bridge κ) (transport : Transport) (listening : Bool)

theorem inlet?_send (now : Instant) (command : String) (payload : Datum)
    (timeout : Option Nanoseconds) :
    (bridge.send transport now command payload timeout).transport.inlet? listening =
      transport.inlet? listening := by
  simp only [send, sendUntimed]
  split
  · next text _ =>
    have hposted := transport.inlet?_post listening text
    unfold postRequest
    dsimp only
    split <;> rename_i hpost <;> rwa [hpost] at hposted
  · rfl

theorem inlet?_sendSync (config : Config) (command : String) (payload : Datum) :
    (sendSync config transport command payload).2.inlet? listening =
      transport.inlet? listening := by
  unfold sendSync
  split
  · rfl
  · split
    · rfl
    · next fields _ =>
      have hsame := transport.inlet?_sendSync listening
        ((Command.notification command fields).text config.wire)
      split
      · next hsent => rwa [hsent] at hsame
      · next hsent =>
        rw [hsent] at hsame
        split <;> exact hsame

theorem inlet?_subscribe (event : String) (callback : κ) :
    (bridge.subscribe transport event callback).transport.inlet? listening =
      transport.inlet? listening := by
  have hposted := transport.inlet?_post listening (activationText bridge.config event)
  unfold subscribe
  split
  · rfl
  · dsimp only
    split
    · split <;> rename_i hpost <;> rwa [hpost] at hposted
    · rfl

end Bridge

/-- An operation of the bridge leaves what comes in alone. -/
theorem Station.inlet?_perform {κ : Type} (station : Station κ) (listening : Bool)
    {operation : Operation κ} (own : operation.Own) :
    (station.perform operation).transport.inlet? listening =
      station.transport.inlet? listening := by
  cases operation with
  | advance time => exact own.elim
  | carry transport => exact own.elim
  | send command payload timeout =>
    exact station.bridge.inlet?_send station.transport listening station.now command payload timeout
  | sendSync command payload =>
    exact Bridge.inlet?_sendSync station.transport listening station.bridge.config command payload
  | subscribe event callback =>
    exact station.bridge.inlet?_subscribe station.transport listening event callback
  | _ => rfl

namespace Link

variable {κ : Type} (link : Link κ) (now : Instant)

theorem hasListener_of_bridge? {link : Link κ} {bridge : Bridge κ}
    (h : link.bridge? = some bridge) : link.hasListener = true := by
  unfold bridge? at h
  unfold hasListener
  split at h
  · next hlistener => rw [hlistener]
  · cases h

theorem listener_of_bridge? {link : Link κ} {bridge : Bridge κ}
    (h : link.bridge? = some bridge) : link.listener = .bridge bridge := by
  unfold bridge? at h
  split at h
  · next hlistener => rw [hlistener, Option.some.inj h]
  · cases h

theorem hasListener_hear (text : String) : (link.hear now text).hasListener = link.hasListener := by
  unfold hear
  cases hlistener : link.listener with
  | nobody => rfl
  | observer name => rfl
  | bridge bridge =>
    dsimp only
    split
    · unfold hasListener
      rw [hlistener]
      rfl
    · rfl

theorem transport_hear (text : String) : (link.hear now text).transport = link.transport := by
  unfold hear
  split
  · split <;> rfl
  · rfl

theorem inlet?_hear (text : String) : (link.hear now text).inlet? = link.inlet? := by
  rw [inlet?, inlet?, transport_hear, hasListener_hear]

theorem inlet?_operate {operation : Operation κ} (own : operation.Own) :
    (link.operate now operation).inlet? = link.inlet? := by
  unfold operate
  cases hbridge : link.bridge? with
  | none => rfl
  | some bridge =>
    have hlistens := hasListener_of_bridge? hbridge
    rw [inlet?, inlet?, hlistens]
    exact Station.inlet?_perform ⟨now, link.transport, bridge⟩ true own

theorem hasListener_listener (claimant : Claimant) (transport : Transport) :
    hasListener (κ := κ) { transport, listener := claimant.listener } = true := by
  cases claimant <;> rfl

theorem inlet?_install (runtime : Bool) (claimant : Claimant) :
    (link.install runtime claimant.listener).2.inlet? =
      link.inlet?.map (·.undergo (.claim (κ := κ) claimant runtime)) := by
  rcases link with ⟨⟨id, host | channel⟩, listener⟩
  · unfold install
    dsimp only
    split <;> rfl
  · unfold install
    dsimp only
    cases runtime with
    | false => rfl
    | true =>
      have hlistens := hasListener_listener (κ := κ) claimant
        ⟨id, .channel { channel with pump := .fresh }⟩
      by_cases hclaimed : hasListener (κ := κ) ⟨⟨id, .channel channel⟩, listener⟩ = true
      · simp [inlet?, Transport.inlet?, Channel.inlet, hclaimed, Inlet.undergo]
      · rw [Bool.not_eq_true] at hclaimed
        simp [inlet?, Transport.inlet?, Channel.inlet, hclaimed, Inlet.undergo, withChannel,
          hlistens]

@[simp] theorem inlet?_withChannel (channel : Channel) :
    (link.withChannel channel).inlet? = some (channel.inlet link.hasListener) := rfl

theorem inlet?_of_channel? {channel : Channel} (h : link.channel? = some channel) :
    link.inlet? = some (channel.inlet link.hasListener) := by
  unfold channel? at h
  unfold inlet? Transport.inlet?
  split at h
  · next hmedium => rw [hmedium, Option.some.inj h]
  · cases h

theorem inlet?_eq_none (h : link.channel? = none) : link.inlet? = none := by
  unfold channel? at h
  unfold inlet? Transport.inlet?
  split at h
  · cases h
  · next hmedium => rw [hmedium]

/-- What becomes of the inbound side when the channel is acted on. -/
theorem inlet?_onChannel {act : Channel → Link κ} {f : Inlet → Inlet}
    (hact : ∀ channel, link.channel? = some channel →
      (act channel).inlet? = some (f (channel.inlet link.hasListener))) :
    (link.onChannel act).inlet? = link.inlet?.map f := by
  unfold onChannel
  cases hchannel : link.channel? with
  | none =>
    rw [link.inlet?_eq_none hchannel]
    rfl
  | some channel =>
    rw [link.inlet?_of_channel? hchannel]
    exact hact channel hchannel

/-- What an incident does to the inbound side of a link. -/
theorem inlet?_undergo (incident : Incident κ) :
    (link.undergo now incident).inlet? = link.inlet?.map (·.undergo incident) := by
  have hsame : link.inlet?.map (fun inlet => inlet) = link.inlet? := Option.map_id' ..
  cases incident with
  | advance time => exact hsame.symm
  | claim claimant runtime => exact link.inlet?_install runtime claimant
  | post text => exact (link.transport.inlet?_post _ text).trans hsame.symm
  | sendSync text => exact (link.transport.inlet?_sendSync _ text).trans hsame.symm
  | operate operation own => exact (link.inlet?_operate now own).trans hsame.symm
  | takePosted | setOffline offline | setResponder responder =>
    rcases link with ⟨⟨id, host | channel⟩, listener⟩ <;> rfl
  | deliver text =>
    rcases link with ⟨⟨id, host | channel⟩, listener⟩
    · exact inlet?_hear _ now text
    · rfl
  | receive => exact link.inlet?_onChannel fun channel _ => rfl
  | endpointPost text held =>
    refine link.inlet?_onChannel fun channel hchannel => ?_
    split <;> rename_i haccepts
    · rw [inlet?_withChannel, Channel.inlet_wake]
      exact congrArg some (if_pos haccepts).symm
    · exact (link.inlet?_of_channel? hchannel).trans (congrArg some (if_neg haccepts).symm)
  | dropEndpoint =>
    refine link.inlet?_onChannel fun channel _ => ?_
    rw [inlet?_withChannel, Channel.inlet_wake]
    rfl
  | startPump =>
    refine link.inlet?_onChannel fun channel hchannel => ?_
    split <;> rename_i hfresh
    · exact congrArg some (if_pos hfresh).symm
    · exact (link.inlet?_of_channel? hchannel).trans (congrArg some (if_neg hfresh).symm)
  | pump =>
    refine link.inlet?_onChannel fun channel hchannel => ?_
    split <;> rename_i hrunning
    · have hpumped : (link.withChannel channel.pumped).inlet? =
          some (channel.inlet link.hasListener).pumped := by simp
      rw [show (channel.inlet link.hasListener).undergo (.pump (κ := κ)) = _ from if_pos hrunning,
        ← hpumped]
      split
      · exact inlet?_hear _ now _
      · rfl
    · exact (link.inlet?_of_channel? hchannel).trans (congrArg some (if_neg hrunning).symm)

end Link

/-! ## The bridge of a link -/

/-- Only closing ends a bridge, and nothing brings one back. -/
theorem Station.live_perform {κ : Type} (station : Station κ) {operation : Operation κ}
    (hopen : operation ≠ .close) :
    (station.perform operation).bridge.live = station.bridge.live := by
  have hsame := station.sameAround_perform operation
  cases operation with
  | subscribe event callback =>
    obtain ⟨registry, heq⟩ := subscribe_bridge station.bridge station.transport event callback
    exact (congrArg Bridge.live heq).trans rfl
  | unsubscribe id => rfl
  | close => exact absurd rfl hopen
  | _ => exact hsame.live

theorem Station.live_run {κ : Type} {station : Station κ} {operations : List (Operation κ)}
    (hopen : .close ∉ operations) :
    (station.run operations).bridge.live = station.bridge.live := by
  induction operations generalizing station with
  | nil => rfl
  | cons operation rest ih =>
    obtain ⟨hfirst, hrest⟩ := not_or.1 (mt List.mem_cons.2 hopen)
    exact (ih hrest).trans (station.live_perform (Ne.symm hfirst))

namespace Link

variable {κ : Type} (link : Link κ) (now : Instant)

/-- What the listener hears in an incident. -/
def heard : Incident κ → List String
  | .deliver text => if link.host?.isSome && link.hasListener then [text] else []
  | .pump =>
    match link.channel? with
    | some channel => if channel.pump.running then channel.inbox.head?.toList else []
    | none => []
  | _ => []

/-- What the bridge on the link performs in an incident, if it is live. -/
def operations : Incident κ → List (Operation κ)
  | .operate operation _ => [operation]
  | incident => if link.hasLiveBridge then (link.heard incident).map .receive else []

variable {link}

/-- An attempt to listen fails and changes nothing, or installs the first listener there is; over a
channel it lets the pump start. -/
theorem install_cases (link : Link κ) (runtime : Bool) (listener : Listener κ) :
    (∃ error, link.install runtime listener = (.error error, link)) ∨
      link.hasListener = false ∧
        (link.channel? = none ∧ link.install runtime listener = (.ok (), { link with listener }) ∨
          ∃ channel, link.channel? = some channel ∧ link.install runtime listener =
            (.ok (), { link.withChannel { channel with pump := .fresh } with listener })) := by
  rcases link with ⟨⟨id, host | channel⟩, old⟩
  · by_cases hlistens : hasListener ⟨⟨id, .memory host⟩, old⟩ = true
    · exact .inl ⟨_, if_pos hlistens⟩
    · exact .inr ⟨Bool.not_eq_true _ ▸ hlistens, .inl ⟨rfl, if_neg hlistens⟩⟩
  · cases runtime with
    | false => exact .inl ⟨_, rfl⟩
    | true =>
      by_cases hlistens : hasListener ⟨⟨id, .channel channel⟩, old⟩ = true
      · exact .inl ⟨_, if_pos hlistens⟩
      · exact .inr ⟨Bool.not_eq_true _ ▸ hlistens, .inr ⟨channel, rfl, if_neg hlistens⟩⟩

/-- A link takes no second listener. -/
theorem install_of_hasListener (hlistens : link.hasListener = true) (listener : Listener κ) :
    link.install true listener = (.error .listenerAlreadySet, link) := by
  rcases link with ⟨⟨id, host | channel⟩, old⟩
  · exact if_pos hlistens
  · exact if_pos hlistens

/-- An attempt at a link that has a listener changes nothing, with or without a runtime. -/
theorem undergo_claim_of_hasListener (hlistens : link.hasListener = true) (claimant : Claimant)
    (runtime : Bool) : link.undergo now (.claim claimant runtime) = link := by
  cases runtime with
  | true => exact congrArg Prod.snd (install_of_hasListener hlistens _)
  | false =>
    rcases link with ⟨⟨id, host | channel⟩, old⟩
    · exact congrArg Prod.snd (if_pos hlistens)
    · rfl

variable {bridge : Bridge κ} (h : link.bridge? = some bridge)
include h

theorem hasLiveBridge_of_bridge? : link.hasLiveBridge = bridge.live := by
  rw [hasLiveBridge, h]
  rfl

theorem bridge?_hear (text : String) : (link.hear now text).bridge? =
    some (Station.run ⟨now, link.transport, bridge⟩
      (if link.hasLiveBridge then [.receive text] else [])).bridge := by
  unfold hear
  rw [listener_of_bridge? h, hasLiveBridge_of_bridge? h]
  dsimp only
  split
  · rfl
  · exact h

/-- What an incident does to the bridge of a link is what the bridge performs in it. -/
theorem bridge?_undergo (incident : Incident κ) : (link.undergo now incident).bridge? =
    some (Station.run ⟨now, link.transport, bridge⟩ (link.operations incident)).bridge := by
  have hunheard (after : Link κ) (hafter : after.bridge? = link.bridge?) :
      after.bridge? = some (Station.run ⟨now, link.transport, bridge⟩
        (if link.hasLiveBridge then List.map Operation.receive [] else [])).bridge := by
    rw [hafter, h]
    split <;> rfl
  cases incident with
  | claim claimant runtime =>
    refine hunheard _ ?_
    rw [undergo_claim_of_hasListener now (hasListener_of_bridge? h)]
  | operate operation own =>
    simp only [undergo, Link.operate]
    rw [h]
    rfl
  | takePosted | setOffline offline | setResponder responder =>
    exact hunheard _ (onHost_keeps bridge? fun _ _ => rfl)
  | deliver text =>
    simp only [undergo, onHost, operations, heard, hasListener_of_bridge? h]
    cases link.host? with
    | none => exact hunheard _ rfl
    | some host => exact bridge?_hear now h text
  | receive | dropEndpoint => exact hunheard _ (onChannel_keeps bridge? fun _ _ => rfl)
  | endpointPost text held | startPump =>
    refine hunheard _ (onChannel_keeps bridge? fun _ _ => ?_)
    split <;> rfl
  | pump =>
    simp only [undergo, onChannel, operations, heard]
    cases link.channel? with
    | none => exact hunheard _ rfl
    | some channel =>
      dsimp only
      cases channel.pump.running with
      | false => exact hunheard _ rfl
      | true =>
        cases channel.inbox with
        | nil => exact hunheard _ rfl
        | cons text rest =>
          -- Taking the message has changed the transport, which no reception looks at.
          have hpumped : (link.withChannel channel.pumped).bridge? = some bridge := h
          refine (bridge?_hear now hpumped text).trans ?_
          rw [hasLiveBridge_of_bridge? hpumped, hasLiveBridge_of_bridge? h]
          cases bridge.live <;> rfl
  | _ => exact hunheard _ rfl

omit h in
/-- A bridge is live as long as it is not closed. -/
theorem hasLiveBridge_undergo (hlive : link.hasLiveBridge = true) {incident : Incident κ}
    (hopen : ∀ own, incident ≠ .operate .close own) :
    (link.undergo now incident).hasLiveBridge = true := by
  obtain ⟨bridge, hbridge, hbridgeLive⟩ := Option.any_eq_true _ _ |>.1 hlive
  have hunclosed : .close ∉ link.operations incident := by
    have hheard : (.close : Operation κ) ∉ if link.hasLiveBridge then
        (link.heard incident).map .receive else [] := by
      split <;> simp
    cases incident with
    | operate operation own =>
      intro hmem
      obtain rfl := List.mem_singleton.1 hmem
      exact hopen own rfl
    | _ => exact hheard
  rw [hasLiveBridge_of_bridge? (bridge?_undergo now hbridge incident), Station.live_run hunclosed]
  exact hbridgeLive

end Link

/-! ## Where the pump stands -/

namespace Inlet

variable {κ : Type}

/-- The pump is there once someone listens; it waits only with nothing to take, and stops only when
nothing more can come. -/
structure Sound (inlet : Inlet) : Prop where
  absent_iff : inlet.pump = .absent ↔ inlet.listening = false
  waiting : inlet.pump = .waiting → inlet.inbox = [] ∧ inlet.endpointOpen = true
  finished : inlet.pump = .finished → inlet.inbox = [] ∧ inlet.endpointOpen = false

theorem sound_made : (Channel.inlet {} false).Sound := ⟨by decide, nofun, nofun⟩

/-- A pump that waits is woken before anything else can happen to it. -/
theorem Sound.wake {inlet after : Inlet} (h : inlet.Sound) (hpump : after.pump = inlet.pump)
    (hlistening : after.listening = inlet.listening)
    (hfinished : inlet.pump = .finished → after.inbox = [] ∧ after.endpointOpen = false) :
    after.wake.Sound := by
  unfold Inlet.wake
  by_cases hwaiting : after.pump = .waiting
  · rw [if_pos hwaiting]
    have hlistens : after.listening ≠ false := by
      rw [hlistening, ne_eq, ← h.absent_iff, ← hpump, hwaiting]
      decide
    exact ⟨iff_of_false nofun hlistens, nofun, nofun⟩
  · rw [if_neg hwaiting]
    exact ⟨by rw [hpump, hlistening, h.absent_iff], fun h => absurd h hwaiting,
      fun h => hfinished (hpump.symm.trans h)⟩

theorem Sound.pumped {inlet : Inlet} (h : inlet.Sound) (running : inlet.pump.running = true) :
    inlet.pumped.Sound := by
  have hlistens : inlet.listening ≠ false := by
    rw [ne_eq, ← h.absent_iff]
    intro habsent
    rw [habsent] at running
    cases running
  have hidle (pump : Pump) (hpump : pump.running = true) : pump ≠ .waiting ∧ pump ≠ .finished := by
    constructor <;> rintro rfl <;> cases hpump
  unfold Inlet.pumped
  cases hinbox : inlet.inbox with
  | cons text rest =>
    exact ⟨h.absent_iff, fun hpump => absurd hpump (hidle _ running).1,
      fun hpump => absurd hpump (hidle _ running).2⟩
  | nil =>
    cases hopen : inlet.endpointOpen with
    | true => exact ⟨iff_of_false nofun hlistens, fun _ => ⟨rfl, rfl⟩, nofun⟩
    | false => exact ⟨iff_of_false nofun hlistens, nofun, fun _ => ⟨rfl, rfl⟩⟩

/-- A pump that rests has left nothing to hear. -/
theorem Sound.inbox_of_idle {inlet : Inlet} (h : inlet.Sound) (listening : inlet.listening = true)
    (idle : inlet.pump.running = false) : inlet.inbox = [] := by
  cases hpump : inlet.pump with
  | absent => exact absurd (h.absent_iff.1 hpump) (by rw [listening]; decide)
  | waiting => exact (h.waiting hpump).1
  | finished => exact (h.finished hpump).1
  | fresh | awake => rw [hpump] at idle; cases idle

/-- Every incident keeps the pump where it belongs. -/
theorem Sound.undergo {inlet : Inlet} (h : inlet.Sound) (incident : Incident κ) :
    (inlet.undergo incident).Sound := by
  cases incident with
  | claim claimant runtime =>
    simp only [Inlet.undergo]
    split
    · exact ⟨iff_of_false nofun nofun, nofun, nofun⟩
    · exact h
  | endpointPost text held =>
    simp only [Inlet.undergo]
    split
    · next haccepts =>
      refine h.wake rfl rfl fun hfinished => ?_
      rw [accepts, (h.finished hfinished).2] at haccepts
      cases haccepts
    · exact h
  | dropEndpoint => exact h.wake rfl rfl fun hfinished => ⟨(h.finished hfinished).1, rfl⟩
  | startPump =>
    simp only [Inlet.undergo]
    split
    · next hfresh =>
      have hlistens : inlet.listening ≠ false := by
        rw [ne_eq, ← h.absent_iff, hfresh]
        decide
      exact ⟨iff_of_false nofun hlistens, nofun, nofun⟩
    · exact h
  | pump =>
    simp only [Inlet.undergo]
    split
    · next hrunning => exact h.pumped hrunning
    · exact h
  | _ => exact h

end Inlet
end HostLink
