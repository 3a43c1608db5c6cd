import HostLink.Proofs.Receiving
import HostLink.Proofs.Registration
import HostLink.Proofs.Sessions

/-!
# Dispatching an event

A dispatch calls the callbacks that are subscribed to the event when it begins, while these very
callbacks may subscribe and unsubscribe, send, deliver messages and dispatch events on the same
bridge.  `World.dispatch_exact` proves that none of this can disturb the round: the calls are those
of the subscriptions at the beginning, each once and in order, and between and behind them nothing
happens to the bridge but what the callbacks themselves do.

What a callback may do is left open as in `Step.perform`.  All that the proofs know of a call is
that it leads on (`World.Acts`): each bridge goes through a run of operations, and a bridge that a
running delivery holds is not closed in it.  Calls of scripts do, however deep they nest
(`World.acts_call`).
-/

namespace HostLink
namespace World

/-! ## Calls -/

/-- One call of a callback in the course of a dispatch. -/
structure Call where
  subscription : Subscription CallbackRef
  before : World
  /-- What the callback did to the bridge that has called it, in order. -/
  operations : List (Operation CallbackRef)
  after : World

/-- The call took place: its callback was called with the payload, and did to the bridge on the link
what the call says. -/
structure Call.Made (invoke : Invoke) (payload : Snapshot) (index : LinkIndex) (call : Call) :
    Prop where
  invoked : call.after = invoke call.subscription.callback payload call.before
  acted : ∃ station, call.before.station? index = some station ∧
    call.after.station? index = some (station.run call.operations)
  unclosed : .close ∉ call.operations

/-- Calls were made one after the other, with nothing in between. -/
inductive MadeInTurn (invoke : Invoke) (payload : Snapshot) (index : LinkIndex) :
    World → List Call → World → Prop
  | none (world : World) : MadeInTurn invoke payload index world [] world
  | next {call : Call} {rest : List Call} {last : World}
      (made : call.Made invoke payload index)
      (others : MadeInTurn invoke payload index call.after rest last) :
      MadeInTurn invoke payload index call.before (call :: rest) last

variable {invoke : Invoke} {payload : Snapshot} {index : LinkIndex} {world last : World}
  {calls : List Call} {station : Station CallbackRef}

/-- The last world is what calling the callbacks one after the other makes of the first. -/
theorem MadeInTurn.last_eq (h : MadeInTurn invoke payload index world calls last) :
    last = (calls.map Call.subscription).foldl
      (fun world subscription => invoke subscription.callback payload world) world := by
  induction h with
  | none world => rfl
  | next made others ih =>
    rw [List.map_cons, List.foldl_cons, ← made.invoked]
    exact ih

/-- What the callbacks did to the bridge, one behind the other, is what happened to it. -/
theorem MadeInTurn.station?_last (h : MadeInTurn invoke payload index world calls last)
    (hstation : world.station? index = some station) :
    last.station? index = some (station.run (calls.flatMap Call.operations)) := by
  induction h generalizing station with
  | none world => exact hstation
  | next made others ih =>
    obtain ⟨before, hbefore, hafter⟩ := made.acted
    obtain rfl := Option.some.inj (hbefore.symm.trans hstation)
    rw [List.flatMap_cons, Station.run_append]
    exact ih hafter

/-- Behind each call the bridge is where some run leads. -/
theorem MadeInTurn.exists_run (h : MadeInTurn invoke payload index world calls last)
    (hstation : world.station? index = some station) {call : Call} (hcall : call ∈ calls) :
    ∃ operations, call.after.station? index = some (station.run operations) := by
  induction h generalizing station with
  | none world => cases hcall
  | next made others ih =>
    obtain ⟨before, hbefore, hafter⟩ := made.acted
    obtain rfl := Option.some.inj (hbefore.symm.trans hstation)
    rcases List.mem_cons.1 hcall with rfl | hcall
    · exact ⟨_, hafter⟩
    · obtain ⟨operations, hlater⟩ := ih hafter hcall
      exact ⟨_, by rw [hlater, ← Station.run_append]⟩

theorem Call.Made.leads {call : Call} (made : call.Made invoke payload index)
    (acts : Acts invoke) : call.before.Leads call.after := by
  rw [made.invoked]
  exact acts _ _ _

/-- Behind each call every bridge can still be reached. -/
theorem MadeInTurn.grounded (h : MadeInTurn invoke payload index world calls last)
    (acts : Acts invoke) (grounded : world.Grounded) : ∀ call ∈ calls, call.after.Grounded := by
  induction h with
  | none world => exact fun call hcall => absurd hcall List.not_mem_nil
  | next made others ih =>
    have hafter := (made.leads acts).grounded grounded
    exact List.forall_mem_cons.2 ⟨hafter, ih hafter⟩

/-- Subscriptions of a bridge that is held can be called in turn. -/
theorem exists_madeInTurn (acts : Acts invoke) (payload : Snapshot) (held : index ∈ world.pins)
    (hstation : world.station? index = some station)
    (subscriptions : List (Subscription CallbackRef)) :
    ∃ calls last, MadeInTurn invoke payload index world calls last ∧
      calls.map Call.subscription = subscriptions := by
  induction subscriptions generalizing world station with
  | nil => exact ⟨[], world, .none world, rfl⟩
  | cons subscription rest ih =>
    -- The call gives back the holds that it has found, so the next one finds the bridge held too.
    have hleads := acts subscription.callback payload world
    have hevolves := hleads.stations index
    rw [hstation] at hevolves
    obtain ⟨operations, hafter, hopen⟩ := hevolves
    obtain ⟨calls, last, hcalls, hsubscriptions⟩ := ih (hleads.pins.symm ▸ held) hafter
    have made : Call.Made invoke payload index
        ⟨subscription, world, operations, invoke subscription.callback payload world⟩ :=
      ⟨rfl, ⟨station, hstation, hafter⟩, hopen held⟩
    exact ⟨_, last, .next made hcalls, by rw [List.map_cons, hsubscriptions]⟩

/-! ## Rounds -/

/-- A bridge dispatches an event: a line reports if nobody is subscribed, and the callbacks are
called. -/
def dispatch (invoke : Invoke) (index : LinkIndex) (bridge : Bridge CallbackRef) (event : String)
    (value : Json) (world : World) : World :=
  fanOutHeld invoke index (bridge.dispatch event value).2
    (world.write (bridge.dispatch event value).1)

theorem fanOut_dispatch (bridge : Bridge CallbackRef) (event : String) (value : Json) :
    fanOut invoke (bridge.dispatch event value).2 world =
      (bridge.registry.subscriptions.filter fun subscription => subscription.event = event).foldl
        (fun world subscription => invoke subscription.callback (.freeze value) world) world := by
  rw [← List.foldl_map (f := Subscription.callback)
    (g := fun world callback => invoke callback (.freeze value) world)]
  change _ = (bridge.registry.callbacks event).foldl _ world
  unfold fanOut Bridge.dispatch
  cases bridge.registry.callbacks event <;> rfl

/-- A station is that of the bridge on a link. -/
theorem exists_of_station? (h : world.station? index = some station) :
    ∃ link, world.links[index]? = some link ∧ link.listener = .bridge station.bridge ∧
      station = ⟨world.now, link.transport, station.bridge⟩ := by
  obtain ⟨link, hlink, hlinked⟩ := Option.bind_eq_some_iff.1 h
  obtain ⟨bridge, hbridge, rfl⟩ := Option.map_eq_some_iff.1 hlinked
  refine ⟨link, hlink, ?_, rfl⟩
  unfold Link.bridge? at hbridge
  split at hbridge
  · next hlistener => rw [hlistener, Option.some.inj hbridge]
  · cases hbridge

/-- A message that brings an event leaves the bridge alone and has the event dispatched. -/
theorem receive_of_event (hstation : world.station? index = some station)
    {link : Link CallbackRef} (hlink : world.links[index]? = some link) {text event : String}
    {value : Json} (message : station.read text = .ok (.event event value)) :
    World.receive invoke index link station.bridge text world =
      world.dispatch invoke index station.bridge event value := by
  obtain ⟨found, hfound, hlistener, hworld⟩ := exists_of_station? hstation
  obtain rfl := Option.some.inj (hfound.symm.trans hlink)
  have hreceive := Station.receive_of_event message
  rw [show station.now = world.now from congrArg Station.now hworld] at hreceive
  have hsame : world.setLink index (found.withBridge station.bridge) = world := by
    have hkept : found.withBridge station.bridge = found := by
      rw [Link.withBridge, ← hlistener]
    obtain ⟨hlt, hget⟩ := List.getElem?_eq_some_iff.1 hlink
    rw [hkept, setLink, ← hget, List.set_getElem_self]
  simp only [World.receive, hreceive, hsame]
  rfl

/-- The ways in which a bridge comes to dispatch an event: a step asks for it, or a message brings
it, handed over by its name or coming in at the listener. -/
theorem dispatches (invoke : Invoke) (hstation : world.station? index = some station)
    (event : String) (value : Json) :
    (∀ name handle, Fields.lookup name world.bridges = some handle → handle.link = index →
      (Step.dispatch name event value).perform invoke world =
          (.done, world.dispatch invoke index station.bridge event value) ∧
        ∀ text, station.read text = .ok (.event event value) →
          (Step.onReply name text).perform invoke world =
            (.done, world.dispatch invoke index station.bridge event value)) ∧
    ∀ text, station.read text = .ok (.event event value) → station.bridge.live = true →
      deliver invoke index text world =
        world.dispatch invoke index station.bridge event value := by
  obtain ⟨link, hlink, hlistener, -⟩ := exists_of_station? hstation
  have hbridge : link.bridge? = some station.bridge := by rw [Link.bridge?, hlistener]
  refine ⟨?_, fun text message live => ?_⟩
  · rintro name handle named rfl
    refine ⟨?_, fun text message => ?_⟩
    · simp only [Step.perform, onBridge, named, hlink, hbridge]
      rfl
    · simp only [Step.perform, onBridge, named, hlink, hbridge]
      rw [receive_of_event hstation hlink message]
  · simp only [deliver, hlink, hlistener, live, if_true]
    exact receive_of_event hstation hlink message

/-- Letting go of a bridge closes it if nobody else holds it. -/
theorem station?_unpin (hstation : world.station? index = some station) :
    ∃ closing, (world.unpin index).station? index = some (station.run closing) ∧
      (closing = [] ∨ closing = [.close] ∧ (world.unpin index).holdsBridge index = false) := by
  obtain ⟨link, hlink, hlistener, hworld⟩ := exists_of_station? hstation
  have hunpinned : station? { world with pins := world.pins.erase index } index = some station :=
    hstation
  have hclosed : link.closeBridge =
      if station.bridge.live then link.withBridge station.bridge.close else link := by
    rw [Link.closeBridge, hlistener]
  unfold unpin closeIfUnheld
  simp only [hlink]
  split
  · exact ⟨[], hunpinned, .inl rfl⟩
  · next hunheld =>
    rw [Bool.not_eq_true] at hunheld
    have hafter (after : Link CallbackRef) :
        (setLink { world with pins := world.pins.erase index } index after).station? index =
          after.station? world.now := station?_setLink hlink after
    rw [hafter, hclosed]
    cases station.bridge.live with
    | false =>
      refine ⟨[], ?_, .inl rfl⟩
      rw [if_neg Bool.false_ne_true, ← station?_of_link hlink, hstation]
      rfl
    | true =>
      refine ⟨[.close], ?_, .inr ⟨rfl, hunheld⟩⟩
      rw [if_pos rfl, hworld]
      rfl

/-- A round of an event: the calls that its dispatch made.  The callbacks subscribed to the event at
the beginning were called with its payload, all of them and no others, each once and in the order of
their numbers, with nothing in between. -/
structure Round (invoke : Invoke) (index : LinkIndex) (event : String) (value : Json)
    (station : Station CallbackRef) (world : World) (calls : List Call) (last : World) : Prop where
  made : MadeInTurn invoke (.freeze value) index
    ((world.write (station.bridge.dispatch event value).1).pin index) calls last
  result : world.dispatch invoke index station.bridge event value = last.unpin index
  subscribers : calls.map Call.subscription =
    station.bridge.registry.subscriptions.filter fun subscription => subscription.event = event
  ascending : (calls.map Call.subscription).Pairwise fun first second =>
    first.id.value < second.id.value
  /-- Whoever subscribed during the round was not called in it. -/
  newcomers : ∀ call ∈ calls, ∀ present, call.after.station? index = some present →
    ∀ subscription ∈ present.bridge.registry.subscriptions,
      subscription ∉ station.bridge.registry.subscriptions →
        ∀ other ∈ calls, other.subscription.id ≠ subscription.id
  /-- The bridge is where the callbacks have taken it, and closed if nobody holds it any more. -/
  left : ∃ closing,
    (last.unpin index).station? index =
      some ((station.run (calls.flatMap Call.operations)).run closing) ∧
    (closing = [] ∨ closing = [.close] ∧ (last.unpin index).holdsBridge index = false)

theorem exists_round (acts : Acts invoke) (grounded : world.Grounded)
    (hstation : world.station? index = some station) (event : String) (value : Json) :
    ∃ calls last, Round invoke index event value station world calls last := by
  have inOrder : station.InOrder := by
    obtain ⟨config, transport, now, operations, rfl⟩ := grounded index station hstation
    exact Station.inOrder_run_opened config transport now operations
  have hpinned : ((world.write (station.bridge.dispatch event value).1).pin index).station? index =
      some station := hstation
  obtain ⟨calls, last, made, subscribers⟩ := exists_madeInTurn acts (.freeze value)
    List.mem_cons_self hpinned
    (station.bridge.registry.subscriptions.filter fun subscription => subscription.event = event)
  refine ⟨calls, last, made, ?_, subscribers, ?_, ?_, station?_unpin (made.station?_last hstation)⟩
  · unfold dispatch fanOutHeld
    rw [fanOut_dispatch, made.last_eq, subscribers]
  · rw [subscribers]
    exact inOrder.ascending.filter _
  · -- A newcomer's number was not given away when the round began, unlike those of the called.
    intro call hcall present hpresent subscription hmem hnew other hother hid
    obtain ⟨operations, hafter⟩ := made.exists_run hstation hcall
    obtain rfl := Option.some.inj (hpresent.symm.trans hafter)
    have hge : station.bridge.registry.issued ≤ subscription.id.value :=
      ((Station.follows_run inOrder.numbered operations).mem_or_new hmem).resolve_left hnew
    have hlisted : other.subscription ∈ station.bridge.registry.subscriptions := by
      have hcalled : other.subscription ∈ calls.map Call.subscription := List.mem_map_of_mem hother
      rw [subscribers] at hcalled
      exact (List.mem_filter.1 hcalled).1
    have hlt := inOrder.numbered other.subscription hlisted
    rw [hid] at hlt
    exact Nat.lt_irrefl _ (Nat.lt_of_lt_of_le hlt hge)

/-- Whatever its callbacks do, and wherever in a session it begins: a dispatch is the round of its
event, and so is every other that begins behind it or in the midst of it; in particular it calls
whoever has subscribed by then and still is. -/
theorem dispatch_exact (acts : Acts invoke) (grounded : world.Grounded)
    (hstation : world.station? index = some station) (event : String) (value : Json) :
    ∃ calls last, Round invoke index event value station world calls last ∧
      (∀ name handle, Fields.lookup name world.bridges = some handle → handle.link = index →
        (Step.dispatch name event value).perform invoke world = (.done, last.unpin index) ∧
          ∀ text, station.read text = .ok (.event event value) →
            (Step.onReply name text).perform invoke world = (.done, last.unpin index)) ∧
      (∀ text, station.read text = .ok (.event event value) → station.bridge.live = true →
        deliver invoke index text world = last.unpin index) ∧
      (∀ call ∈ calls, call.after.Grounded) ∧ (last.unpin index).Grounded ∧
      ∀ later, later.Grounded → ∀ present, later.station? index = some present →
        ∀ subscription ∈ present.bridge.registry.subscriptions, subscription.event = event →
          ∀ other, ∃ calls last, Round invoke index event other present later calls last ∧
            subscription ∈ calls.map Call.subscription := by
  obtain ⟨calls, last, round⟩ := exists_round acts grounded hstation event value
  obtain ⟨named, delivered⟩ := dispatches invoke hstation event value
  rw [round.result] at named delivered
  have hleads : world.Leads (last.unpin index) := by
    rw [← round.result]
    exact ((Leads.refl world).write _).fanOutHeld acts index _
  have hcalls := round.made.grounded acts grounded
  refine ⟨calls, last, round, named, delivered, hcalls, hleads.grounded grounded, ?_⟩
  intro later hlater present hpresent subscription hmem hevent other
  obtain ⟨calls', last', round'⟩ := exists_round acts hlater hpresent event other
  refine ⟨calls', last', round', ?_⟩
  rw [round'.subscribers]
  exact List.mem_filter.2 ⟨hmem, decide_eq_true hevent⟩

/-- The first callback of two takes away the subscription of the second and subscribes a third: both
are called, the third is not, and the first and the third are left. -/
theorem dispatch_exact_of_meddling_callback :
    let steps : List Step :=
      [.createMemory "transport" "host", .openBridge "transport" "bridge" (.shipped .standard) true,
        .subscribe "bridge" "first" "tick"
          [[.unsubscribe "bridge" "second", .subscribe "bridge" "third" "tick" []]],
        .subscribe "bridge" "second" "tick" []]
    let world : World := steps.foldl (fun world step => (Session.step world step).2) {}
    ∃ station, world.station? 0 = some station ∧ ∃ calls last,
      Round (call 1) 0 "tick" .null station world calls last ∧
      (calls.map Call.subscription).map (fun subscription => subscription.id.value) = [0, 1] ∧
      ((last.unpin 0).station? 0).map (fun station =>
        station.bridge.registry.subscriptions.map fun subscription => subscription.id.value) =
          some [0, 2] := by
  intro steps world
  have hsome : (world.station? 0).isSome = true := by decide +kernel
  obtain ⟨station, hstation⟩ := Option.isSome_iff_exists.1 hsome
  obtain ⟨calls, last, round, -⟩ :=
    dispatch_exact (acts_call 1) (Session.grounded_steps steps) hstation "tick" .null
  refine ⟨station, hstation, calls, last, round, ?_, ?_⟩
  · have hcalled : (world.station? 0).map (fun station =>
        (station.bridge.registry.subscriptions.filter fun subscription =>
          subscription.event = "tick").map fun subscription => subscription.id.value) =
            some [0, 1] := by decide +kernel
    rw [hstation] at hcalled
    rw [round.subscribers]
    exact Option.some.inj hcalled
  · have hleft : (world.station? 0).map (fun station =>
        ((world.dispatch (call 1) 0 station.bridge "tick" .null).station? 0).map fun station =>
          station.bridge.registry.subscriptions.map fun subscription => subscription.id.value) =
            some (some [0, 2]) := by decide +kernel
    rw [hstation] at hleft
    rw [← round.result]
    exact Option.some.inj hleft

end World
end HostLink
