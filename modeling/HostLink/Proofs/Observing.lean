import HostLink.Proofs.Arrivals

/-!
# What observers report

An observer notes each text that it is called with, and a session reports these notes.  Nothing else
in a session notes a text for an observer (`Step.events_begin`), so what the reports of a session
show is what the listeners that are observers were called with, in the order of the calls.

That makes the history of a session an account of it that can be checked against the reports
(`Session.recounts_history`).
-/

namespace HostLink

/-! ## Notes -/

/-- The text that an observer of this name has noted, if the event is that. -/
def Event.heardBy? (name : String) : Event → Option String
  | .heard other text => if other = name then some text else none
  | _ => none

/-- The texts that observers of this name have noted. -/
def observedIn (name : String) (events : List Event) : List String :=
  events.filterMap (Event.heardBy? name)

theorem observedIn_append (name : String) (events more : List Event) :
    observedIn name (events ++ more) = observedIn name events ++ observedIn name more :=
  List.filterMap_append

/-- Who listens is an observer of this name. -/
def Claimant.observes (name : String) : Claimant → Bool
  | .observer other => other = name
  | .bridge _ => false

/-- What observers of this name are called with in a moment. -/
def Moment.observed (name : String) (moment : Moment) : List String :=
  match moment.heard? with
  | some (index, text) =>
    if (moment.start.owner? index).any (Claimant.observes name) then [text] else []
  | none => []

/-! ## What notes nothing -/

namespace World

variable (world : World)

theorem events_closeIfUnheld (index : LinkIndex) :
    (world.closeIfUnheld index).events = world.events := by
  unfold closeIfUnheld
  split
  · split <;> rfl
  · rfl

theorem events_storeBridge (name : String) (handle : BridgeHandle) :
    (world.storeBridge name handle).events = world.events := by
  simp only [storeBridge]
  split
  · exact events_closeIfUnheld _ _
  · rfl

theorem events_releaseReply (reply : ReplyRef) :
    (world.releaseReply reply).events = world.events := by
  unfold releaseReply
  split
  · split
    · split <;> rfl
    · rfl
  · rfl

theorem events_storeReply (name : String) (reply : ReplyRef) :
    (world.storeReply name reply).events = world.events := by
  simp only [storeReply]
  split
  · exact events_releaseReply _ _
  · rfl

theorem events_storeSettler (name : String) (settler : Settler) :
    (world.storeSettler name settler).events = world.events := by
  simp only [storeSettler]
  split <;> rfl

theorem events_wakePump (index : LinkIndex) : (world.wakePump index).events = world.events := by
  unfold wakePump
  split
  · split
    · split <;> rfl
    · rfl
  · rfl

theorem events_closeEndpoint (index : LinkIndex) :
    (world.closeEndpoint index).events = world.events := by
  unfold closeEndpoint
  split
  · split
    · exact events_wakePump _ _
    · rfl
  · rfl

theorem events_createTransport (name : String) (transport : Transport) :
    (world.createTransport name transport).events = world.events := by
  simp only [createTransport, storeNative]
  split
  · exact events_closeEndpoint _ _
  · rfl

theorem events_installListener (index : LinkIndex) (link : Link CallbackRef) (runtime : Bool)
    (listener : Listener CallbackRef) :
    (world.installListener index link runtime listener).2.events = world.events := by
  unfold installListener
  split
  · rfl
  · dsimp only
    split <;> rfl

theorem events_openBridge (index : LinkIndex) (link : Link CallbackRef) (runtime : Bool)
    (config : Config) (name : String) (facade : Option Facade) :
    (world.openBridge index link runtime config name facade).2.events = world.events := by
  have hinstalled := world.events_installListener index link runtime (.bridge { config })
  unfold openBridge
  split
  · rfl
  · next heq =>
    rw [heq] at hinstalled
    exact (events_storeBridge _ _ _).trans hinstalled

theorem events_endpointPost (index : LinkIndex) (link : Link CallbackRef) (channel : Channel)
    (message : String) :
    (world.endpointPost index link channel message).2.events = world.events := by
  unfold endpointPost
  split
  · exact events_wakePump _ _
  · rfl

theorem events_endpointPostResult (index : LinkIndex) (link : Link CallbackRef)
    (channel : Channel) (result : Except BridgeError Json) :
    (world.endpointPostResult index link channel result).2.events = world.events := by
  cases result with
  | ok message => exact world.events_endpointPost index link channel _
  | error error => rfl

theorem events_endpointReceive (index : LinkIndex) (link : Link CallbackRef) (channel : Channel)
    (answer : String → Answer) :
    (world.endpointReceive index link channel answer).2.events = world.events := by
  unfold endpointReceive
  split <;> rfl

theorem events_subscribe (handle : BridgeHandle) (link : Link CallbackRef)
    (bridge : Bridge CallbackRef) (name event : String) (scripts : List (List Step)) :
    (world.subscribe handle link bridge name event scripts).2.events = world.events := by
  simp only [subscribe]
  split <;> rfl

theorem events_pollReply (reply : ReplyRef) :
    (world.pollReply reply).2.events = world.events := by
  unfold pollReply
  split
  · split
    · rfl
    · split <;> rfl
  · rfl

theorem events_armReply (timeout : Nanoseconds) (reply : ReplyRef) :
    (world.armReply timeout reply).events = world.events := by
  unfold armReply
  split
  · split
    · rfl
    · split <;> rfl
  · rfl

section named

variable {world} (name : String)

theorem events_onTransport {act : LinkIndex → Link CallbackRef → Answer × World}
    (hact : ∀ index link, (act index link).2.events = world.events) :
    (world.onTransport name act).2.events = world.events := by
  obtain ⟨index, link, -, -, heq⟩ | ⟨-, hgone⟩ := world.onTransport_cases name act
  · rw [heq, hact]
  · rw [hgone]

theorem events_onHost {act : LinkIndex → Link CallbackRef → MemoryHost → Answer × World}
    (hact : ∀ index link host, Fields.lookup name world.natives = some index →
      world.links[index]? = some link → link.host? = some host →
        (act index link host).2.events = world.events) :
    (world.onHost name act).2.events = world.events := by
  obtain ⟨index, link, host, hname, hlink, hhost, heq⟩ | ⟨-, hgone⟩ := world.onHost_cases name act
  · rw [heq, hact index link host hname hlink hhost]
  · rw [hgone]

theorem events_onEndpoint {act : LinkIndex → Link CallbackRef → Channel → Answer × World}
    (hact : ∀ index link channel, (act index link channel).2.events = world.events) :
    (world.onEndpoint name act).2.events = world.events := by
  obtain ⟨index, link, channel, -, -, -, heq⟩ | ⟨-, hgone⟩ := world.onEndpoint_cases name act
  · rw [heq, hact]
  · rw [hgone]

theorem events_onBridge
    {act : BridgeHandle → Link CallbackRef → Bridge CallbackRef → Answer × World}
    (hact : ∀ handle link bridge, (act handle link bridge).2.events = world.events) :
    (world.onBridge name act).2.events = world.events := by
  obtain ⟨handle, link, bridge, -, -, -, heq⟩ | ⟨-, hgone⟩ := world.onBridge_cases name act
  · rw [heq, hact]
  · rw [hgone]

theorem events_bridgeOpening
    {opens : BridgeHandle → Link CallbackRef → Bridge CallbackRef → Opening}
    (hopens : ∀ handle link bridge, (opens handle link bridge).world.events = world.events) :
    (((world.bridgeOpening? name opens).map Opening.world).getD world).events = world.events := by
  cases hopened : world.bridgeOpening? name opens with
  | none => rfl
  | some opening =>
    obtain ⟨handle, -, hlinked⟩ := Option.bind_eq_some_iff.1 hopened
    obtain ⟨link, -, hbridged⟩ := Option.bind_eq_some_iff.1 hlinked
    obtain ⟨bridge, -, rfl⟩ := Option.map_eq_some_iff.1 hbridged
    exact hopens handle link bridge

theorem events_onReply {act : ReplyRef → Answer × World}
    (hact : ∀ reply, (act reply).2.events = world.events) :
    (world.onReply name act).2.events = world.events := by
  unfold onReply
  split
  · exact hact _
  · rfl

theorem events_onSettler {act : Settler → Answer × World}
    (hact : ∀ settler, (act settler).2.events = world.events) :
    (world.onSettler name act).2.events = world.events := by
  unfold onSettler
  split
  · exact hact _
  · rfl

end named
end World

/-- A step notes nothing where it begins, unless it hands a text to a listener. -/
theorem Step.events_begin (world : World) {step : Step} (h : step.delivers = false) :
    (step.begin world).events = world.events := by
  cases step with
  | createMemory name id => exact World.events_createTransport _ _ _
  | createChannel name id => exact World.events_createTransport _ _ _
  | transportInfo name => exact World.events_onTransport name fun _ _ => rfl
  | postMessage name text => exact World.events_onTransport name fun _ _ => rfl
  | sendSyncMessage name text => exact World.events_onTransport name fun _ _ => rfl
  | observe name =>
    exact World.events_onTransport name fun _ _ => World.events_installListener _ _ _ _ _
  | posted name | takePosted name | postedJson name | hasListener name | setOffline name _
  | onSync name _ => exact World.events_onHost name fun _ _ _ _ _ _ => rfl
  | deliver | deliverJson => cases h
  | recv name | recvJson name =>
    exact World.events_onEndpoint name fun _ _ _ => World.events_endpointReceive _ _ _ _ _
  | endpointPost name text | endpointPostJson name value =>
    exact World.events_onEndpoint name fun _ _ _ => World.events_endpointPost _ _ _ _ _
  | endpointReply name wire request data | endpointReplyError name wire request error =>
    exact World.events_onEndpoint name fun _ _ _ => World.events_endpointPostResult _ _ _ _ _
  | dropEndpoint name =>
    exact World.events_onEndpoint name fun _ _ _ => World.events_closeEndpoint _ _
  | openBridge transport name choice runtime =>
    simp only [begin, perform]
    split
    · rfl
    · exact World.events_onTransport transport fun _ _ => World.events_openBridge _ _ _ _ _ _ _
  | buildBridge transport name edits =>
    exact World.events_onTransport transport fun _ _ => World.events_openBridge _ _ _ _ _ _ _
  | openFacade name facade source =>
    cases source with
    | transport transport =>
      exact World.events_onTransport transport fun _ _ => World.events_openBridge _ _ _ _ _ _ _
    | bridge bridge =>
      exact World.events_onBridge bridge fun _ _ _ => World.events_storeBridge _ _ _
  | call name reply _ | send name reply _ _ _ =>
    exact World.events_onBridge name fun _ _ _ => World.events_storeReply _ reply _
  | cloneBridge name copy =>
    exact World.events_onBridge name fun _ _ _ => World.events_storeBridge _ _ _
  | dropBridge name =>
    simp only [begin, perform]
    split
    · rfl
    · exact World.events_closeIfUnheld _ _
  | showConfig name | describe name | sendSync name _ _ | pendingCount name | isPending name _
  | subscriptionCount name => exact World.events_onBridge name fun _ _ _ => rfl
  | onReply name text | dispatch name event value =>
    exact World.events_bridgeOpening name fun _ _ _ => rfl
  | subscribe name subscription event scripts =>
    exact World.events_onBridge name fun _ _ _ => World.events_subscribe _ _ _ _ _ _ _
  | unsubscribe name subscription =>
    refine World.events_onBridge name fun _ _ _ => ?_
    dsimp only
    split <;> rfl
  | createSettler name reply id =>
    exact (World.events_storeReply _ reply _).trans (World.events_storeSettler _ name _)
  | resolve name value | reject name value | fail name error | settlerInfo name
  | dropSettler name => exact World.events_onSettler name fun _ => rfl
  | poll name =>
    refine World.events_onReply name fun reply => ?_
    have hpolled := world.events_pollReply reply
    split <;> rename_i hresult <;> rw [hresult] at hpolled <;> exact hpolled
  | decodeReply name target =>
    refine World.events_onReply name fun reply => ?_
    have hpolled := world.events_pollReply reply
    split <;> rename_i hresult <;> rw [hresult] at hpolled
    · exact (World.events_releaseReply _ _).trans hpolled
    · exact hpolled
  | withTimeout name timeout =>
    refine World.events_onReply name fun ref => ?_
    split
    · exact world.events_armReply timeout ref
    · rfl
  | replyInfo name =>
    refine World.events_onReply name fun ref => ?_
    split <;> rfl
  | dropReply name =>
    exact World.events_onReply name fun reply => World.events_releaseReply _ reply
  | dropTransport | advance => rfl

/-! ## What observers note -/

/-- An observer that is called notes the text, and nobody else does. -/
theorem World.observedIn_hear (world : World) (name : String) (index : LinkIndex) (text : String) :
    observedIn name (world.hear index text).events = observedIn name world.events ++
      if (world.owner? index).any (Claimant.observes name) then [text] else [] := by
  have hunnoted (h : (world.owner? index).any (Claimant.observes name) = false) :
      observedIn name world.events = observedIn name world.events ++
        if (world.owner? index).any (Claimant.observes name) then [text] else [] := by
    rw [h, if_neg Bool.false_ne_true, List.append_nil]
  unfold World.hear
  cases hlink : world.links[index]? with
  | none =>
    refine hunnoted ?_
    rw [World.owner?, hlink]
    rfl
  | some link =>
    rw [World.owner?_of_link hlink, Link.owner?] at hunnoted ⊢
    dsimp only
    cases hlistener : link.listener with
    | nobody =>
      rw [hlistener] at hunnoted
      exact hunnoted rfl
    | bridge bridge =>
      rw [hlistener] at hunnoted
      dsimp only
      split
      · exact hunnoted rfl
      · exact hunnoted rfl
    | observer other =>
      refine (observedIn_append name world.events [.heard other text]).trans ?_
      by_cases heq : other = name
      · simp [observedIn, Event.heardBy?, Claimant.observes, heq]
      · simp [observedIn, Event.heardBy?, Claimant.observes, heq]

/-- A host that finds nobody to hand a text to notes nothing. -/
theorem World.events_hostHear {world : World} {name text : String}
    (h : ((world.onHost name fun index link _ =>
      world.hostDeliver World.silent index link text).1.brought
        (world.linkOf? (.native name)) text) = none) :
    (world.hostHear name text).events = world.events := by
  rw [hostHear]
  refine events_onHost name fun index link host hname hlink hhost => ?_
  have hlinkOf : world.linkOf? (.native name) = some index := hname
  rw [onHost_of_host? hname hlink hhost, hlinkOf, hostDeliver] at h
  dsimp only
  split
  · next hlistens =>
    rw [if_pos hlistens] at h
    cases h
  · rfl

/-- What is no text heard leaves the notes of observers alone. -/
theorem World.observedIn_note (world : World) (name : String) {event : Event}
    (h : event.heardBy? name = none) :
    observedIn name (world.note event).events = observedIn name world.events := by
  refine (observedIn_append name world.events [event]).trans ?_
  rw [observedIn, observedIn, List.filterMap_cons_none h, List.filterMap_nil, List.append_nil]

namespace Moment

/-- What a moment adds to the notes of observers is what they are called with. -/
theorem observedIn_after {busy : Option LinkIndex} (moment : Moment) (name : String)
    (sound : moment.before.Sound busy) (due : moment.deed.Due busy moment.before) :
    observedIn name moment.after.events =
      observedIn name moment.start.events ++ moment.observed name := by
  cases hheard : moment.heard? with
  | some call =>
    obtain ⟨index, text⟩ := call
    have hmem : text ∈ moment.heard index := by
      rw [heard, hheard, textOn_some]
      exact List.mem_singleton_self text
    obtain ⟨-, called, hlistener, hevents, hafter⟩ := calls sound due hmem
    rw [hafter, World.observedIn_hear, hevents, World.owner?_of_listener? hlistener, observed,
      hheard]
  | none =>
    have hsame (h : observedIn name moment.after.events = observedIn name moment.start.events) :
        observedIn name moment.after.events =
          observedIn name moment.start.events ++ moment.observed name := by
      rw [h, observed, hheard, List.append_nil]
    refine hsame ?_
    obtain ⟨deed, before⟩ := moment
    have hbegun {step : Step} {world : World}
        (h : (if step.delivers then step.arrival? world else none) = none) :
        (step.begin world).events = world.events := by
      cases step with
      | deliver name text => exact World.events_hostHear h
      | deliverJson name value => exact World.events_hostHear h
      | _ => exact Step.events_begin world rfl
    cases deed with
    | performed step => exact congrArg (observedIn name) (hbegun hheard)
    | began step => exact congrArg (observedIn name) (hbegun hheard)
    | pumped place text => cases hheard
    | called callback payload =>
      simp only [after, Deed.effect, World.noteCall]
      split
      · exact World.observedIn_note _ name rfl
      · rfl
    | ran subscription answer => exact World.observedIn_note _ name rfl
    | released index => exact congrArg (observedIn name) (World.events_closeIfUnheld _ index)
    | scripted callback =>
      simp only [after, Deed.effect, World.takeScript]
      split <;> rfl
    | started index =>
      simp only [after, Deed.effect, World.startPump, World.onChannel]
      split
      · split <;> rfl
      · rfl
    | rested index =>
      simp only [after, Deed.effect, World.restPump, World.onChannel]
      split
      · split
        · split <;> rfl
        · rfl
      · rfl
    | turn index => rfl

end Moment

/-! ## What a session reports of observers -/

namespace World

/-- Within a step of a session the notes of observers grow by what they are called with. -/
theorem Chain.observedIn_eq {busy next : Option LinkIndex} {start world : World}
    {moments : List Moment} (chain : Chain busy start moments next world) (sound : start.Sound busy)
    (inward : Inward moments) (name : String) :
    observedIn name world.events =
      observedIn name start.events ++ moments.flatMap (Moment.observed name) := by
  induction chain with
  | nil => rw [List.flatMap_nil, List.append_nil]
  | @cons busy next before world deed moments due rest ih =>
    obtain ⟨hfirst, hrest⟩ := List.forall_mem_cons.1 (List.filterMap_eq_nil_iff.1 inward)
    have hstart : deed.start before = before := by
      cases deed with
      | performed step => cases hfirst
      | _ => rfl
    have hnoted : observedIn name (deed.effect before).events =
        observedIn name (deed.start before).events ++ Moment.observed name ⟨deed, before⟩ :=
      Moment.observedIn_after ⟨deed, before⟩ name sound due
    rw [ih (Deed.unfolds sound due).sound (List.filterMap_eq_nil_iff.2 hrest), hnoted, hstart,
      List.flatMap_cons, List.append_assoc]

end World

namespace Session

variable {world : World} (sound : world.Sound none)
include sound

/-- What a step of a session reports of observers is what they are called with. -/
theorem observed_step (step : Step) (name : String) :
    observedIn name (Session.step world step).1.events =
      (stepMoments world step).flatMap (Moment.observed name) := by
  have hchain := (passage_step sound step).1.chain
  obtain ⟨inner, hmoments, hinner⟩ := exists_stepMoments world step
  have hreported : (Session.step world step).1.events = (Session.step world step).2.events := rfl
  rw [hmoments] at hchain ⊢
  rw [hreported, List.flatMap_cons]
  cases hchain with
  | cons due rest =>
    have hnoted := Moment.observedIn_after ⟨.performed step, world⟩ name sound due
    rw [rest.observedIn_eq (Deed.unfolds sound due).sound hinner name]
    exact congrArg (· ++ _) hnoted

theorem observed_runFrom (steps : List Step) (name : String) :
    observedIn name ((runFrom world steps).flatMap StepReport.events) =
      (historyFrom world steps).flatMap (Moment.observed name) := by
  induction steps generalizing world with
  | nil => rfl
  | cons step rest ih =>
    rw [runFrom, historyFrom, List.flatMap_cons, List.flatMap_append, observedIn_append,
      observed_step sound step name, ih ((passage_step sound step).1.chain.sound sound)]

omit sound

/-- The moments are what goes on in a session: they lead to where it does, any number of them is a
history of its own, and its reports show its steps with their answers, and the texts that observers
are called with. -/
structure Recounts (steps : List Step) (moments : List Moment) : Prop where
  leads : World.History moments (behind {} steps)
  amid : ∀ first rest, moments = first ++ rest → ∃ world, World.History first world
  reported : moments.filterMap Moment.reported? = steps.zip ((run steps).map StepReport.answer)
  observed : ∀ name, observedIn name ((run steps).flatMap StepReport.events) =
    moments.flatMap (Moment.observed name)

theorem recounts_history (steps : List Step) : Recounts steps (history steps) := by
  have hleads := history_behind steps
  refine ⟨hleads, fun first rest hsplit => ?_, reported_historyFrom {} steps,
    observed_runFrom World.sound_empty steps⟩
  rw [hsplit] at hleads
  exact hleads.of_append

end Session
end HostLink
