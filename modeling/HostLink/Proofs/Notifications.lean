import HostLink.Proofs.Classification
import HostLink.Proofs.Envelopes
import HostLink.Proofs.FanOut

/-!
# Events from end to end

The name of an event crosses to the native side inside the activation text and comes back inside a
notification.  On either way it is written as JSON text and read again, and at the end it is
compared with the names of the subscriptions.  `World.events_reach_subscribers` says that it arrives
as it was given, whatever characters a name may hold: the native side reads in the activation the
name that was subscribed to, and a notification of that name calls the subscriptions of that name
and no others, each with the whole object that the native side has built.

What a notification may hold besides its name is left open (`WireFormat.Notification`): any members
but a correlation id or a truthy error, with which it would be another kind of message.
-/

namespace HostLink

/-! ## The way out -/

namespace Command

/-- The members of the command that activates an event. -/
def activation (config : Config) (event : String) : Fields Json :=
  (notification config.activationCommand [(config.wire.eventField, .str event)]).members config.wire

/-- The command field holds the command, even if it is the event field too, the event field then
holds the name, and there are no more fields. -/
theorem lookup_activation (config : Config) (event field : String) :
    Fields.lookup field (activation config event) =
      if config.wire.commandField = field then some (.str config.activationCommand)
      else if config.wire.eventField = field then some (.str event)
      else none := by
  simp [activation, members, notification, Fields.lookup_insert, Fields.lookup]

theorem parse_activationText (config : Config) (event : String) :
    Json.parse (Bridge.activationText config event) = .ok (.obj (activation config event)) := by
  have hsorted : Fields.Sorted [(config.wire.eventField, Json.str event)] :=
    List.pairwise_singleton _ _
  have hmembers : ∀ member ∈ [(config.wire.eventField, Json.str event)], member.2.Fits 126 := by
    simpa using Json.fits_str event 126
  have hfits : (Json.obj (activation config event)).Fits Json.maxDepth :=
    Json.fits_obj (hsorted.insert _ _) (Json.fits_insert (Json.fits_str _ _) hmembers)
  exact Json.parse_compact hfits.canonical hfits.depth_le

end Command

namespace Bridge

variable {κ : Type} (bridge : Bridge κ) (transport : Transport) {event : String} (callback : κ)

/-- A subscription that stands is the last one, under the name as it was given. -/
theorem subscriptions_subscribe_of_ok {id : SubscriptionId}
    (h : (bridge.subscribe transport event callback).answer = .ok id) :
    (bridge.subscribe transport event callback).bridge.registry.subscriptions =
      bridge.registry.subscriptions ++ [⟨id, event, callback⟩] := by
  unfold subscribe at h ⊢
  split at h
  · cases h
  · dsimp only at h ⊢
    split at h
    · next hfirst =>
      split at h
      · next hposted =>
        obtain rfl := Except.ok.inj h
        simp only [hfirst, if_true]
        rfl
      · cases h
    · next hlistens =>
      obtain rfl := Except.ok.inj h
      simp only [hlistens, Bool.false_eq_true, if_false]
      rfl

/-- The first subscription for an event posts its activation text, whether or not the transport
takes it. -/
theorem transport_subscribe_of_silent (accepted : Registry.checkEventName event = .ok ())
    (silent : bridge.registry.hasListener event = false) :
    (bridge.subscribe transport event callback).transport =
      (transport.post (activationText bridge.config event)).2.1 := by
  cases hpost : (transport.post (activationText bridge.config event)).1 with
  | ok => exact (subscribe_of_posted bridge transport callback accepted silent hpost).2
  | error error =>
    rw [(subscribe_of_refused bridge transport callback accepted silent hpost).2.2,
      Transport.post_of_error hpost]

end Bridge

/-! ## The way back -/

/-- A notification of an event, as the native side may build it: an object that names the event and
can be written, with neither a correlation id nor a truthy error. -/
structure WireFormat.Notification (wire : WireFormat) (event : String) (members : Fields Json) :
    Prop where
  named : Fields.lookup wire.eventField members = some (.str event)
  uncorrelated : Fields.lookup wire.correlationField members = none
  sound : ∀ error, Fields.lookup wire.errorField members = some error → error.Falsy
  fits : (Json.obj members).Fits Json.maxDepth

/-- The text of a notification is read as the event it names, with the whole object. -/
theorem WireFormat.Notification.parse {wire : WireFormat} {event : String} {members : Fields Json}
    (h : wire.Notification event members) :
    Inbound.parse wire (Json.obj members).compact = .ok (.event event (.obj members)) := by
  have hparse := Json.parse_compact h.fits.canonical h.fits.depth_le
  exact Inbound.parse_event_iff.2
    ⟨members, hparse, h.uncorrelated, h.sound, h.named, rfl⟩

namespace World

variable {invoke : Invoke} {world : World} {index : LinkIndex} {station : Station CallbackRef}

/-- How the name of an event goes out and is kept. -/
structure Announced (station : Station CallbackRef) (event : String) (members : Fields Json) :
    Prop where
  /-- The native side reads these members in the activation text. -/
  reads : Json.parse (Bridge.activationText station.bridge.config event) = .ok (.obj members)
  named : Fields.lookup station.bridge.config.wire.eventField members = some (.str event)
  commanded : Fields.lookup station.bridge.config.wire.commandField members =
    some (.str station.bridge.config.activationCommand)
  /-- The first subscription for the name posts that text. -/
  posted : ∀ callback, station.bridge.registry.hasListener event = false →
    (station.perform (.subscribe event callback)).transport =
      (station.transport.post (Bridge.activationText station.bridge.config event)).2.1
  /-- A subscription stands behind all others under the name as it was given. -/
  kept : ∀ callback id,
    (station.bridge.subscribe station.transport event callback).answer = .ok id →
      (station.perform (.subscribe event callback)).bridge.registry.subscriptions =
        station.bridge.registry.subscriptions ++ [⟨id, event, callback⟩]

/-- How a notification comes in: the message itself leaves the bridge alone, its requests included,
and what follows is the round of its event, with the whole object as the payload. -/
structure Notified (invoke : Invoke) (index : LinkIndex) (event : String) (body : Json)
    (station : Station CallbackRef) (world : World) (calls : List Call) (last : World) : Prop where
  untouched : station.perform (.receive body.compact) = station
  round : Round invoke index event body station world calls last
  payload : (Snapshot.freeze body).toJson = body
  /-- The listener of the link hears the text. -/
  heard : station.bridge.live = true →
    deliver invoke index body.compact world = last.unpin index
  /-- The text is handed to the bridge by its name. -/
  handed : ∀ name handle, Fields.lookup name world.bridges = some handle → handle.link = index →
    (Step.onReply name body.compact).perform invoke world = (.done, last.unpin index)

/-- For every event name that a bridge accepts, if its command and event fields differ: the
activation names exactly the event, and every notification of that name that the native side can
write calls exactly the subscriptions of that name, in the order of registration, each with the
whole object, and touches no request. -/
theorem events_reach_subscribers (acts : Acts invoke) (grounded : world.Grounded)
    (hstation : world.station? index = some station)
    (distinct : station.bridge.config.wire.commandField ≠ station.bridge.config.wire.eventField)
    {event : String} (accepted : Registry.checkEventName event = .ok ()) :
    (∃ members, Announced station event members) ∧
      ∀ members, station.bridge.config.wire.Notification event members →
        ∃ calls last, Notified invoke index event (.obj members) station world calls last := by
  constructor
  · refine ⟨_, Command.parse_activationText _ _, ?_, ?_, fun callback silent => ?_,
      fun callback id answered => ?_⟩
    · rw [Command.lookup_activation, if_neg distinct, if_pos rfl]
    · rw [Command.lookup_activation, if_pos rfl]
    · exact Bridge.transport_subscribe_of_silent _ _ callback accepted silent
    · exact Bridge.subscriptions_subscribe_of_ok _ _ callback answered
  · intro members notification
    have message : station.read (Json.obj members).compact = .ok (.event event (.obj members)) :=
      notification.parse
    obtain ⟨calls, last, round⟩ := exists_round acts grounded hstation event (.obj members)
    obtain ⟨named, delivered⟩ := dispatches invoke hstation event (.obj members)
    refine ⟨calls, last, ?_, round, Snapshot.toJson_freeze _, fun live => ?_,
      fun name handle hname hindex => ?_⟩
    · rw [Station.perform, Station.receive_of_event message]
    · rw [delivered _ message live, round.result]
    · rw [(named name handle hname hindex).2 _ message, round.result]

/-- A name with a quote and a letter beyond ASCII, three subscriptions of which the middle one is
for the same name without the quote, and a notification with a falsy error and a list inside. -/
theorem events_reach_subscribers_of_quoted_name :
    let event := "dröhnt\""
    let members : Fields Json :=
      [("error", .bool false), ("eventName", .str event), ("items", .arr [.null, .str "a"])]
    let steps : List Step :=
      [.createMemory "transport" "host", .openBridge "transport" "bridge" (.shipped .standard) true,
        .subscribe "bridge" "first" event [], .subscribe "bridge" "second" "dröhnt" [],
        .subscribe "bridge" "third" event []]
    let world : World := steps.foldl (fun world step => (Session.step world step).2) {}
    ∃ station, world.station? 0 = some station ∧
      (∃ members, Announced station event members) ∧
      ∃ calls last, Notified (call 1) 0 event (.obj members) station world calls last ∧
        (calls.map Call.subscription).map (fun subscription => subscription.id.value) = [0, 2] := by
  intro event members steps world
  have hworld : (world.station? 0).map (fun station =>
      (station.bridge.config, (station.bridge.registry.subscriptions.filter fun subscription =>
        subscription.event = event).map fun subscription => subscription.id.value)) =
          some ({}, [0, 2]) := by decide +kernel
  obtain ⟨station, hstation, hsame⟩ := Option.map_eq_some_iff.1 hworld
  obtain ⟨hconfig, hsubscribed⟩ := Prod.mk.inj hsame
  have accepted : Registry.checkEventName "dröhnt\"" = .ok () := by rfl
  obtain ⟨announced, notified⟩ := events_reach_subscribers (acts_call 1)
    (Session.grounded_steps steps) hstation (by rw [hconfig]; decide) accepted
  have notification : station.bridge.config.wire.Notification event members := by
    rw [hconfig]
    refine ⟨by rfl, by rfl, ?_, ?_⟩
    · rintro error ⟨⟩
      exact .no
    · have hsorted : Fields.Sorted members := by
        simp only [Fields.Sorted, members]
        decide
      refine ⟨⟨hsorted, ?_⟩, by decide⟩
      simp [members, Json.CanonicalMembers, Json.CanonicalItems, Json.Canonical]
  obtain ⟨calls, last, h⟩ := notified members notification
  refine ⟨station, hstation, announced, calls, last, h, ?_⟩
  rw [h.round.subscribers]
  exact hsubscribed

end World
end HostLink
