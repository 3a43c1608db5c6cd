import HostLink.Link

/-!
# Bridges do not look at callbacks

A bridge keeps the callbacks of its subscribers and gives them out again, and never looks at one.
So whatever callbacks are made of, the bridge does the same: each of its operations commutes with
replacing every callback, and so does each operation of a link.

With it two bridges can be compared whose callbacks are places in different lists: they are both
what some third bridge becomes, whose callbacks are pairs of places.
-/

namespace HostLink

variable {κ ι ν : Type} (f : κ → ι)

/-! ## Registries -/

/-- The subscription with its callback replaced. -/
def Subscription.map (subscription : Subscription κ) : Subscription ι :=
  { id := subscription.id, event := subscription.event, callback := f subscription.callback }

namespace Registry

variable (registry : Registry κ)

/-- The registry with every callback replaced. -/
def map : Registry ι :=
  { subscriptions := registry.subscriptions.map (Subscription.map f), issued := registry.issued }

@[simp] theorem size_map : (registry.map f).size = registry.size := by
  simp [size, map]

@[simp] theorem hasListener_map (event : String) :
    (registry.map f).hasListener event = registry.hasListener event := by
  rw [hasListener, map, List.any_map]
  rfl

@[simp] theorem contains_map (id : SubscriptionId) :
    (registry.map f).contains id = registry.contains id := by
  rw [contains, map, List.any_map]
  rfl

@[simp] theorem callbacks_map (event : String) :
    (registry.map f).callbacks event = (registry.callbacks event).map f := by
  simp only [callbacks, map, List.filter_map, List.map_map]
  rfl

theorem insert_map (event : String) (callback : κ) :
    (registry.map f).insert event (f callback) =
      ((registry.insert event callback).1, (registry.insert event callback).2.map f) := by
  simp [insert, map, Subscription.map]

@[simp] theorem erase_map (id : SubscriptionId) :
    (registry.map f).erase id = (registry.erase id).map f := by
  have herase : (registry.subscriptions.map (Subscription.map f)).eraseP
      (fun subscription => subscription.id = id) =
        (registry.subscriptions.eraseP fun subscription => subscription.id = id).map
          (Subscription.map f) := by
    rw [List.eraseP_map]
    rfl
  simp only [erase, map, herase]

end Registry

/-! ## Bridges -/

/-- The callbacks to be called, replaced. -/
def FanOut.map (calls : FanOut κ) : FanOut ι :=
  { callbacks := calls.callbacks.map f, payload := calls.payload }

namespace Bridge

/-- The bridge with every callback replaced. -/
def map (bridge : Bridge κ) : Bridge ι :=
  { config := bridge.config, replies := bridge.replies, pending := bridge.pending
    registry := bridge.registry.map f, live := bridge.live }

theorem map_map (bridge : Bridge κ) (g : ι → ν) :
    (bridge.map f).map g = bridge.map (g ∘ f) := by
  simp only [map, Registry.map, List.map_map]
  rfl

end Bridge

/-- What an operation leaves behind, with every callback of the bridge replaced. -/
def Acted.map {α : Type} (acted : Acted κ α) : Acted ι α :=
  { answer := acted.answer, bridge := acted.bridge.map f, transport := acted.transport
    log := acted.log }

@[simp] theorem Acted.answer_map {α : Type} (acted : Acted κ α) :
    (acted.map f).answer = acted.answer := rfl

theorem Acted.map_map {α : Type} (acted : Acted κ α) (g : ι → ν) :
    (acted.map f).map g = acted.map (g ∘ f) := by
  simp only [map, Bridge.map_map]

namespace Bridge

variable (bridge : Bridge κ)

@[simp] theorem config_map : (bridge.map f).config = bridge.config := rfl

@[simp] theorem replies_map : (bridge.map f).replies = bridge.replies := rfl

@[simp] theorem pending_map : (bridge.map f).pending = bridge.pending := rfl

@[simp] theorem registry_map : (bridge.map f).registry = bridge.registry.map f := rfl

@[simp] theorem live_map : (bridge.map f).live = bridge.live := rfl

theorem settleWith_map (settler : Settler) (outcome : Outcome) :
    (bridge.map f).settleWith settler outcome =
      ((bridge.settleWith settler outcome).1.map f, (bridge.settleWith settler outcome).2) := rfl

theorem failExpired_map (settlers : List Settler) :
    (bridge.map f).failExpired settlers =
      ((bridge.failExpired settlers).1.map f, (bridge.failExpired settlers).2) := by
  induction settlers generalizing bridge with
  | nil => rfl
  | cons settler rest ih =>
    simp only [failExpired, settleWith_map, ih]
    rfl

theorem expireOverdue_map (now : Instant) :
    (bridge.map f).expireOverdue now =
      ((bridge.expireOverdue now).1.map f, (bridge.expireOverdue now).2) :=
  failExpired_map f { bridge with pending := (bridge.pending.takeExpired now).2 } _

theorem pendingCount_map (now : Instant) :
    (bridge.map f).pendingCount now =
      ((bridge.pendingCount now).1, (bridge.pendingCount now).2.1.map f,
        (bridge.pendingCount now).2.2) := by
  simp only [pendingCount, expireOverdue_map]
  rfl

theorem isPending_map (now : Instant) (id : CorrelationId) :
    (bridge.map f).isPending now id =
      ((bridge.isPending now id).1, (bridge.isPending now id).2.1.map f,
        (bridge.isPending now id).2.2) := by
  simp only [isPending, expireOverdue_map]
  rfl

theorem arm_map (now : Instant) (ticket : Ticket) (timeout : Nanoseconds) :
    (bridge.map f).arm now ticket timeout = (bridge.arm now ticket timeout).map f := by
  simp only [arm, map]
  cases bridge.replies[ticket]? <;> rfl

theorem poll_map (now : Instant) (ticket : Ticket) :
    (bridge.map f).poll now ticket =
      ((bridge.poll now ticket).1, (bridge.poll now ticket).2.1.map f,
        (bridge.poll now ticket).2.2) := rfl

theorem unsubscribe_map (id : SubscriptionId) :
    (bridge.map f).unsubscribe id =
      ((bridge.unsubscribe id).1, (bridge.unsubscribe id).2.map f) := by
  simp only [unsubscribe, map, Registry.contains_map, Registry.erase_map]

/-! ## What a bridge receives -/

theorem dispatch_map (event : String) (payload : Json) :
    (bridge.map f).dispatch event payload =
      ((bridge.dispatch event payload).1, (bridge.dispatch event payload).2.map f) := by
  simp only [dispatch, map, Registry.callbacks_map]
  cases bridge.registry.callbacks event <;> rfl

theorem settle_map (now : Instant) (id : CorrelationId) (outcome : Except Json Json) :
    (bridge.map f).settle now id outcome =
      ((bridge.settle now id outcome).1.map f, (bridge.settle now id outcome).2) := by
  simp only [settle, expireOverdue_map]
  generalize (bridge.expireOverdue now).1 = swept
  rcases htaken : swept.pending.take id with ⟨settler, pending⟩
  rw [pending_map, htaken]
  cases settler <;> rfl

theorem receive_map (now : Instant) (message : String) :
    (bridge.map f).receive now message =
      ((bridge.receive now message).1.map f, (bridge.receive now message).2.1,
        (bridge.receive now message).2.2.map f) := by
  simp only [receive, config_map]
  split
  · simp only [settle_map]
    rfl
  · simp only [dispatch_map]
  · rfl
  · rfl

/-! ## What a bridge sends -/

theorem withdraw_map (id : CorrelationId) (error : BridgeError) :
    (bridge.map f).withdraw id error =
      ((bridge.withdraw id error).1.map f, (bridge.withdraw id error).2) := by
  simp only [withdraw, pending_map]
  rcases bridge.pending.take id with ⟨settler, pending⟩
  cases settler <;> rfl

theorem postRequest_map (transport : Transport) (command text : String) :
    (bridge.map f).postRequest transport command text =
      (bridge.postRequest transport command text).map f := by
  have hopen : (bridge.map f).openRequest =
      (bridge.openRequest.1, bridge.openRequest.2.map f) := rfl
  simp only [postRequest, hopen, withdraw_map]
  rcases transport.post text with ⟨result, after, log⟩
  cases result <;> rfl

theorem sendUntimed_map (transport : Transport) (command : String) (payload : Datum) :
    (bridge.map f).sendUntimed transport command payload =
      (bridge.sendUntimed transport command payload).map f := by
  have hencode : encodeRequest (bridge.map f).config (bridge.map f).nextId command payload =
      encodeRequest bridge.config bridge.nextId command payload := rfl
  simp only [sendUntimed, hencode, postRequest_map]
  cases encodeRequest bridge.config bridge.nextId command payload <;> rfl

theorem send_map (transport : Transport) (now : Instant) (command : String) (payload : Datum)
    (timeout : Option Nanoseconds) :
    (bridge.map f).send transport now command payload timeout =
      (bridge.send transport now command payload timeout).map f := by
  simp only [send, sendUntimed_map, config_map, replies_map]
  cases timeout <|> bridge.config.requestTimeout with
  | none => rfl
  | some time => simp only [Acted.map, arm_map]

theorem subscribe_map (transport : Transport) (event : String) (callback : κ) :
    (bridge.map f).subscribe transport event (f callback) =
      (bridge.subscribe transport event callback).map f := by
  have hinsert := Registry.insert_map f bridge.registry event callback
  simp only [subscribe, registry_map, config_map, hinsert, Registry.hasListener_map,
    Registry.erase_map]
  cases Registry.checkEventName event with
  | error cause => rfl
  | ok =>
    dsimp only
    cases bridge.registry.hasListener event with
    | true => rfl
    | false =>
      rcases transport.post (activationText bridge.config event) with ⟨result, after, log⟩
      cases result <;> rfl

end Bridge

/-! ## Links -/

/-- The listener with every callback replaced. -/
def Listener.map : Listener κ → Listener ι
  | .nobody => .nobody
  | .observer name => .observer name
  | .bridge held => .bridge (held.map f)

namespace Link

variable (link : Link κ)

/-- The link with every callback replaced. -/
def map : Link ι := { transport := link.transport, listener := link.listener.map f }

@[simp] theorem transport_map : (link.map f).transport = link.transport := rfl

theorem map_map (g : ι → ν) : (link.map f).map g = link.map (g ∘ f) := by
  obtain ⟨transport, listener⟩ := link
  cases listener with
  | nobody => rfl
  | observer name => rfl
  | bridge held => simp only [map, Listener.map, Bridge.map_map]

theorem bridge?_map : (link.map f).bridge? = link.bridge?.map (Bridge.map f) := by
  obtain ⟨transport, listener⟩ := link
  cases listener <;> rfl

@[simp] theorem hasListener_map : (link.map f).hasListener = link.hasListener := by
  obtain ⟨transport, listener⟩ := link
  cases listener <;> rfl

@[simp] theorem hasLiveBridge_map : (link.map f).hasLiveBridge = link.hasLiveBridge := by
  obtain ⟨transport, listener⟩ := link
  cases listener <;> rfl

@[simp] theorem channel?_map : (link.map f).channel? = link.channel? := rfl

@[simp] theorem host?_map : (link.map f).host? = link.host? := rfl

theorem install_map (runtime : Bool) (listener : Listener κ) :
    (link.map f).install runtime (listener.map f) =
      ((link.install runtime listener).1, (link.install runtime listener).2.map f) := by
  simp only [install, hasListener_map, transport_map]
  cases link.transport.medium with
  | memory host => cases link.hasListener <;> rfl
  | channel channel => cases runtime <;> cases link.hasListener <;> rfl

theorem closeBridge_map : (link.map f).closeBridge = link.closeBridge.map f := by
  obtain ⟨transport, listener⟩ := link
  cases listener with
  | nobody => rfl
  | observer name => rfl
  | bridge bridge =>
    obtain ⟨config, replies, pending, registry, live⟩ := bridge
    cases live <;> rfl

theorem describeTransport_map : (link.map f).describeTransport = link.describeTransport := by
  unfold describeTransport
  rw [hasListener_map, transport_map]

end Link
end HostLink
