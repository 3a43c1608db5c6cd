import HostLink.Proofs.Beginning
import HostLink.Proofs.Primitives

/-!
# Steps unfold into incidents

Whatever a step of a session does before callbacks are called is a list of incidents on each of its
links, and one of them at most leaves a notice (`Step.unfolds_begin`).  Which one that is can be
read off the step (`Step.incident?`): the notable incident happens on the link that a name of the
step stands for, and not at all if there is no such link.

The work left for the pumps grows by two at most, and by two for each step in the scripts that the
step brings.
-/

namespace HostLink
namespace World

variable {start world : World} {busy : Option LinkIndex} {spent : Nat} {notices : List LinkNotice}
  {index : LinkIndex} {link : Link CallbackRef}

/-! ## The listener is called -/

theorem liveAt_setLink (hlink : world.links[index]? = some link) {after : Link CallbackRef}
    (hlive : after.hasLiveBridge = true) : (world.setLink index after).LiveAt index := by
  obtain ⟨hlt, -⟩ := List.getElem?_eq_some_iff.1 hlink
  exact ⟨after, List.getElem?_set_self hlt, hlive⟩

theorem hasLiveBridge_received (link : Link CallbackRef) {bridge : Bridge CallbackRef}
    (hlive : bridge.live = true) (now : Instant) (message : String) :
    (link.withBridge (bridge.receive now message).1).hasLiveBridge = true :=
  (Bridge.sameAround_receive bridge now message).live.trans hlive

/-- A call of the listener goes on from where the link has heard the message. -/
theorem Unfolds.hear (hlink : world.links[index]? = some link) (message : String)
    (h : start.Unfolds busy spent notices
      (world.setLink index (link.hear world.now message))) :
    start.Unfolds busy spent notices (world.hear index message) := by
  have hunmoved (hsame : link.hear world.now message = link) :
      start.Unfolds busy spent notices world := by
    rwa [hsame, setLink_self hlink] at h
  unfold World.hear
  rw [hlink]
  dsimp only
  cases hlistener : link.listener with
  | nobody => exact hunmoved (by rw [Link.hear, hlistener])
  | observer name => exact (hunmoved (by rw [Link.hear, hlistener])).note _
  | bridge bridge =>
    dsimp only
    cases hlive : bridge.live with
    | false => exact (hunmoved (by simp [Link.hear, hlistener, hlive])).write _
    | true =>
      have hheard : link.hear world.now message =
          link.withBridge (bridge.receive world.now message).1 := by
        simp [Link.hear, hlistener, hlive]
      rw [hheard] at h
      have hheld := liveAt_setLink hlink (hasLiveBridge_received link hlive world.now message)
      exact (h.write _).pin hheld

/-! ## Objects by name -/

/-- A name that stands for no link leaves no notice. -/
theorem noticeVia_of_absent {name : Name}
    (h : ∀ index, world.linkOf? name = some index → world.links[index]? = none)
    (incident : LinkIndex → Incident CallbackRef) : world.noticeVia name incident = [] := by
  cases hname : world.linkOf? name with
  | none => exact noticeVia_of_none hname incident
  | some index =>
    rw [noticeVia_of_linkOf? hname]
    exact notice_of_no_link (h index hname) _

/-- A transport name stands for a link, or for none. -/
theorem onTransport_cases (world : World) (name : String)
    (act : LinkIndex → Link CallbackRef → Answer × World) :
    (∃ index link, Fields.lookup name world.transports = some index ∧
        world.links[index]? = some link ∧ world.onTransport name act = act index link) ∨
      (∀ index, Fields.lookup name world.transports = some index → world.links[index]? = none) ∧
        world.onTransport name act = (.gone, world) := by
  unfold onTransport
  cases Fields.lookup name world.transports with
  | none => exact .inr ⟨nofun, rfl⟩
  | some index =>
    dsimp only
    cases hlink : world.links[index]? with
    | none =>
      refine .inr ⟨?_, rfl⟩
      rintro other ⟨⟩
      exact hlink
    | some link => exact .inl ⟨index, link, rfl, hlink, rfl⟩

/-- The name of a native side stands for a host, for something else, or for nothing. -/
theorem onHost_cases (world : World) (name : String)
    (act : LinkIndex → Link CallbackRef → MemoryHost → Answer × World) :
    (∃ index link host, Fields.lookup name world.natives = some index ∧
        world.links[index]? = some link ∧ link.host? = some host ∧
        world.onHost name act = act index link host) ∨
      (∀ index link, Fields.lookup name world.natives = some index →
        world.links[index]? = some link → link.host? = none) ∧
        world.onHost name act = (.gone, world) := by
  unfold onHost onNative
  cases Fields.lookup name world.natives with
  | none => exact .inr ⟨fun _ _ h => (nomatch h), rfl⟩
  | some index =>
    dsimp only
    cases hlink : world.links[index]? with
    | none =>
      refine .inr ⟨?_, rfl⟩
      rintro other link ⟨⟩ hother
      cases hlink.symm.trans hother
    | some link =>
      dsimp only
      cases hhost : link.host? with
      | some host => exact .inl ⟨index, link, host, rfl, hlink, hhost, rfl⟩
      | none =>
        refine .inr ⟨?_, rfl⟩
        rintro other found ⟨⟩ hother
        rwa [← Option.some.inj (hlink.symm.trans hother)]

/-- The name of a native side stands for an endpoint, for something else, or for nothing. -/
theorem onEndpoint_cases (world : World) (name : String)
    (act : LinkIndex → Link CallbackRef → Channel → Answer × World) :
    (∃ index link channel, Fields.lookup name world.natives = some index ∧
        world.links[index]? = some link ∧ link.channel? = some channel ∧
        world.onEndpoint name act = act index link channel) ∨
      (∀ index link, Fields.lookup name world.natives = some index →
        world.links[index]? = some link → link.channel? = none) ∧
        world.onEndpoint name act = (.gone, world) := by
  unfold onEndpoint onNative
  cases Fields.lookup name world.natives with
  | none => exact .inr ⟨fun _ _ h => (nomatch h), rfl⟩
  | some index =>
    dsimp only
    cases hlink : world.links[index]? with
    | none =>
      refine .inr ⟨?_, rfl⟩
      rintro other link ⟨⟩ hother
      cases hlink.symm.trans hother
    | some link =>
      dsimp only
      cases hchannel : link.channel? with
      | some channel => exact .inl ⟨index, link, channel, rfl, hlink, hchannel, rfl⟩
      | none =>
        refine .inr ⟨?_, rfl⟩
        rintro other found ⟨⟩ hother
        rwa [← Option.some.inj (hlink.symm.trans hother)]

/-- The name of a bridge stands for one, or for nothing. -/
theorem onBridge_cases (world : World) (name : String)
    (act : BridgeHandle → Link CallbackRef → Bridge CallbackRef → Answer × World) :
    (∃ handle link bridge, Fields.lookup name world.bridges = some handle ∧
        world.links[handle.link]? = some link ∧ link.bridge? = some bridge ∧
        world.onBridge name act = act handle link bridge) ∨
      (∀ handle link, Fields.lookup name world.bridges = some handle →
        world.links[handle.link]? = some link → link.bridge? = none) ∧
        world.onBridge name act = (.gone, world) := by
  unfold onBridge
  cases Fields.lookup name world.bridges with
  | none => exact .inr ⟨fun _ _ h => (nomatch h), rfl⟩
  | some handle =>
    dsimp only
    cases hlink : world.links[handle.link]? with
    | none =>
      refine .inr ⟨?_, rfl⟩
      rintro other link ⟨⟩ hother
      cases hlink.symm.trans hother
    | some link =>
      dsimp only
      cases hbridge : link.bridge? with
      | some bridge => exact .inl ⟨handle, link, bridge, rfl, hlink, hbridge, rfl⟩
      | none =>
        refine .inr ⟨?_, rfl⟩
        rintro other found ⟨⟩ hother
        rwa [← Option.some.inj (hlink.symm.trans hother)]

section named

variable {name : String} {index : LinkIndex}

/-- What is done by the name of a transport is done on the link that it stands for. -/
theorem onTransport_named (hname : world.linkOf? (.transport name) = some index)
    (act : LinkIndex → Link CallbackRef → Answer × World) :
    world.onTransport name act = (world.links[index]?).elim (.gone, world) (act index) := by
  have hlookup : Fields.lookup name world.transports = some index := hname
  unfold onTransport
  rw [hlookup]
  dsimp only
  cases world.links[index]? <;> rfl

theorem onNative_named (hname : world.linkOf? (.native name) = some index)
    (act : LinkIndex → Link CallbackRef → Answer × World) :
    world.onNative name act = (world.links[index]?).elim (.gone, world) (act index) := by
  have hlookup : Fields.lookup name world.natives = some index := hname
  unfold onNative
  rw [hlookup]
  dsimp only
  cases world.links[index]? <;> rfl

theorem onHost_named (hname : world.linkOf? (.native name) = some index)
    (act : LinkIndex → Link CallbackRef → MemoryHost → Answer × World) :
    world.onHost name act = (world.links[index]?).elim (.gone, world) fun link =>
      link.host?.elim (.gone, world) (act index link) := by
  rw [onHost, onNative_named hname]
  cases world.links[index]? with
  | none => rfl
  | some link =>
    simp only [Option.elim_some]
    cases link.host? <;> rfl

theorem onEndpoint_named (hname : world.linkOf? (.native name) = some index)
    (act : LinkIndex → Link CallbackRef → Channel → Answer × World) :
    world.onEndpoint name act = (world.links[index]?).elim (.gone, world) fun link =>
      link.channel?.elim (.gone, world) (act index link) := by
  rw [onEndpoint, onNative_named hname]
  cases world.links[index]? with
  | none => rfl
  | some link =>
    simp only [Option.elim_some]
    cases link.channel? <;> rfl

theorem onBridge_named (hname : world.linkOf? (.bridge name) = some index)
    (act : BridgeHandle → Link CallbackRef → Bridge CallbackRef → Answer × World) :
    ∃ facade, world.onBridge name act = (world.links[index]?).elim (.gone, world) fun link =>
      link.bridge?.elim (.gone, world) (act ⟨index, facade⟩ link) := by
  obtain ⟨⟨link, facade⟩, hlookup, rfl⟩ := Option.map_eq_some_iff.1 hname
  refine ⟨facade, ?_⟩
  unfold onBridge
  rw [show Fields.lookup name world.bridges = some ⟨link, facade⟩ from hlookup]
  dsimp only
  cases world.links[link]? with
  | none => rfl
  | some found =>
    simp only [Option.elim_some]
    cases found.bridge? <;> rfl

end named

/-- An incident that changes nothing on the link that a name stands for, if it stands for one. -/
theorem Unfolds.idleVia (h : start.Unfolds busy spent notices world) {name : Name}
    {incident : LinkIndex → Incident CallbackRef}
    (hclock : ∀ index time, incident index ≠ .advance time)
    (hundergo : ∀ index link, world.linkOf? name = some index → world.links[index]? = some link →
      link.undergo world.now (incident index) = link) :
    start.Unfolds busy spent (notices ++ world.noticeVia name incident) world := by
  by_cases habsent : ∀ index, world.linkOf? name = some index → world.links[index]? = none
  · rw [noticeVia_of_absent habsent, List.append_nil]
    exact h
  · simp only [not_forall, Option.ne_none_iff_exists'] at habsent
    obtain ⟨index, hname, link, hlink⟩ := habsent
    rw [noticeVia_of_linkOf? hname]
    exact h.idle hlink (hclock index) (hundergo index link hname hlink)

theorem Unfolds.onTransport (h : start.Unfolds busy spent notices world) (name : String)
    (incident : LinkIndex → Incident CallbackRef)
    {act : LinkIndex → Link CallbackRef → Answer × World}
    (hact : ∀ index link, world.links[index]? = some link →
      start.Unfolds busy spent (notices ++ world.notice index (incident index))
        (act index link).2) :
    start.Unfolds busy spent (notices ++ world.noticeVia (.transport name) incident)
      (world.onTransport name act).2 := by
  obtain ⟨index, link, hname, hlink, heq⟩ | ⟨habsent, hgone⟩ := world.onTransport_cases name act
  · have hlinkOf : world.linkOf? (.transport name) = some index := hname
    rw [heq, noticeVia_of_linkOf? hlinkOf]
    exact hact index link hlink
  · have hnone : ∀ index, world.linkOf? (.transport name) = some index →
        world.links[index]? = none := habsent
    rw [hgone, noticeVia_of_absent hnone, List.append_nil]
    exact h

theorem Unfolds.onTransport_plain (h : start.Unfolds busy spent notices world) (name : String)
    {act : LinkIndex → Link CallbackRef → Answer × World}
    (hact : ∀ index link, world.links[index]? = some link →
      start.Unfolds busy spent notices (act index link).2) :
    start.Unfolds busy spent notices (world.onTransport name act).2 := by
  obtain ⟨index, link, -, hlink, heq⟩ | ⟨-, hgone⟩ := world.onTransport_cases name act
  · rw [heq]
    exact hact index link hlink
  · rw [hgone]
    exact h

theorem Unfolds.onHost (h : start.Unfolds busy spent notices world) (name : String)
    (incident : Incident CallbackRef) (hclock : ∀ time, incident ≠ .advance time)
    (hidle : ∀ link : Link CallbackRef, link.host? = none → link.undergo world.now incident = link)
    {act : LinkIndex → Link CallbackRef → MemoryHost → Answer × World}
    (hact : ∀ index link host, world.links[index]? = some link → link.host? = some host →
      start.Unfolds busy spent (notices ++ world.notice index incident) (act index link host).2) :
    start.Unfolds busy spent (notices ++ world.noticeVia (.native name) fun _ => incident)
      (world.onHost name act).2 := by
  obtain ⟨index, link, host, hname, hlink, hhost, heq⟩ | ⟨habsent, hgone⟩ :=
    world.onHost_cases name act
  · have hlinkOf : world.linkOf? (.native name) = some index := hname
    rw [heq, noticeVia_of_linkOf? hlinkOf]
    exact hact index link host hlink hhost
  · rw [hgone]
    exact h.idleVia (fun _ => hclock) fun index link hname hlink =>
      hidle link (habsent index link hname hlink)

theorem Unfolds.onHost_plain (h : start.Unfolds busy spent notices world) (name : String)
    {act : LinkIndex → Link CallbackRef → MemoryHost → Answer × World}
    (hact : ∀ index link host, world.links[index]? = some link → link.host? = some host →
      start.Unfolds busy spent notices (act index link host).2) :
    start.Unfolds busy spent notices (world.onHost name act).2 := by
  obtain ⟨index, link, host, -, hlink, hhost, heq⟩ | ⟨-, hgone⟩ := world.onHost_cases name act
  · rw [heq]
    exact hact index link host hlink hhost
  · rw [hgone]
    exact h

theorem Unfolds.onEndpoint (h : start.Unfolds busy spent notices world) (name : String)
    (incident : LinkIndex → Incident CallbackRef)
    (hclock : ∀ index time, incident index ≠ .advance time)
    (hidle : ∀ index (link : Link CallbackRef), link.channel? = none →
      link.undergo world.now (incident index) = link)
    {act : LinkIndex → Link CallbackRef → Channel → Answer × World}
    (hact : ∀ index link channel, Fields.lookup name world.natives = some index →
      world.links[index]? = some link → link.channel? = some channel →
      start.Unfolds busy spent (notices ++ world.notice index (incident index))
        (act index link channel).2) :
    start.Unfolds busy spent (notices ++ world.noticeVia (.native name) incident)
      (world.onEndpoint name act).2 := by
  obtain ⟨index, link, channel, hname, hlink, hchannel, heq⟩ | ⟨habsent, hgone⟩ :=
    world.onEndpoint_cases name act
  · have hlinkOf : world.linkOf? (.native name) = some index := hname
    rw [heq, noticeVia_of_linkOf? hlinkOf]
    exact hact index link channel hname hlink hchannel
  · rw [hgone]
    exact h.idleVia hclock fun index link hname hlink =>
      hidle index link (habsent index link hname hlink)

theorem Unfolds.onBridge (h : start.Unfolds busy spent notices world) (name : String)
    (operation : Operation CallbackRef) (own : operation.Own)
    {act : BridgeHandle → Link CallbackRef → Bridge CallbackRef → Answer × World}
    (hact : ∀ handle link bridge, world.links[handle.link]? = some link →
      link.bridge? = some bridge →
      start.Unfolds busy spent (notices ++ world.notice handle.link (.operate operation own))
        (act handle link bridge).2) :
    start.Unfolds busy spent
      (notices ++ world.noticeVia (.bridge name) fun _ => .operate operation own)
      (world.onBridge name act).2 := by
  obtain ⟨handle, link, bridge, hname, hlink, hbridge, heq⟩ | ⟨habsent, hgone⟩ :=
    world.onBridge_cases name act
  · have hlinkOf : world.linkOf? (.bridge name) = some handle.link :=
      congrArg (Option.map BridgeHandle.link) hname
    rw [heq, noticeVia_of_linkOf? hlinkOf]
    exact hact handle link bridge hlink hbridge
  · rw [hgone]
    refine h.idleVia (fun _ _ => nofun) fun index link hname hlink => ?_
    obtain ⟨handle, hhandle, rfl⟩ := Option.map_eq_some_iff.1 hname
    simp only [Link.undergo, Link.operate, habsent handle link hhandle hlink]

theorem Unfolds.onBridge_plain (h : start.Unfolds busy spent notices world) (name : String)
    {act : BridgeHandle → Link CallbackRef → Bridge CallbackRef → Answer × World}
    (hact : ∀ handle link bridge, world.LiveAt handle.link →
      world.links[handle.link]? = some link → link.bridge? = some bridge →
      start.Unfolds busy spent notices (act handle link bridge).2) :
    start.Unfolds busy spent notices (world.onBridge name act).2 := by
  obtain ⟨handle, link, bridge, hname, hlink, hbridge, heq⟩ | ⟨-, hgone⟩ :=
    world.onBridge_cases name act
  · rw [heq]
    exact hact handle link bridge (h.sound.liveAt hname) hlink hbridge
  · rw [hgone]
    exact h

theorem Unfolds.onReply (h : start.Unfolds busy spent notices world) (name : String)
    {act : ReplyRef → Answer × World}
    (hact : ∀ reply, start.Unfolds busy spent notices (act reply).2) :
    start.Unfolds busy spent notices (world.onReply name act).2 := by
  unfold World.onReply
  split
  · exact hact _
  · exact h

theorem Unfolds.onSettler (h : start.Unfolds busy spent notices world) (name : String)
    {act : Settler → Answer × World}
    (hact : ∀ settler, start.Unfolds busy spent notices (act settler).2) :
    start.Unfolds busy spent notices (world.onSettler name act).2 := by
  unfold World.onSettler
  split
  · exact hact _
  · exact h

/-! ## Parts of steps -/

theorem Unfolds.installListener (h : start.Unfolds busy spent notices world)
    (hlink : world.links[index]? = some link) (runtime : Bool) (claimant : Claimant) :
    start.Unfolds busy (spent + 1) (notices ++ world.notice index (.claim claimant runtime))
      (world.installListener index link runtime claimant.listener).2 := by
  rw [installListener_eq h.sound hlink]
  exact h.act hlink (.claim claimant runtime) trivial

/-- An attempt to listen that fails changes nothing. -/
theorem installListener_of_error {runtime : Bool} {listener : Listener CallbackRef}
    {error : BridgeError} {after : World}
    (h : world.installListener index link runtime listener = (.error error, after)) :
    after = world := by
  unfold installListener at h
  split at h
  · exact (congrArg Prod.snd h).symm
  · dsimp only at h
    split at h <;> cases h

/-- A bridge that was just installed is live. -/
theorem liveAt_installListener (hlink : world.links[index]? = some link) {runtime : Bool}
    {bridge : Bridge CallbackRef} (hlive : bridge.live = true) {listening : World}
    (hok : world.installListener index link runtime (.bridge bridge) = (.ok (), listening)) :
    listening.LiveAt index := by
  have hlistening (after : Link CallbackRef) (hafter : after.listener = .bridge bridge) :
      (world.setLink index after).LiveAt index := by
    refine liveAt_setLink hlink ?_
    rw [Link.hasLiveBridge, Link.bridge?, hafter]
    exact hlive
  unfold installListener at hok
  obtain ⟨error, hresult⟩ | ⟨-, ⟨-, hresult⟩ | ⟨channel, -, hresult⟩⟩ :=
    link.install_cases runtime (.bridge bridge)
  · rw [hresult] at hok
    cases hok
  · rw [hresult] at hok
    dsimp only at hok
    split at hok <;> cases hok <;> exact hlistening _ rfl
  · rw [hresult] at hok
    dsimp only at hok
    split at hok <;> cases hok <;> exact hlistening _ rfl

theorem Unfolds.openBridge (h : start.Unfolds busy spent notices world)
    (hlink : world.links[index]? = some link) (runtime : Bool) (config : Config) (name : String)
    (facade : Option Facade) :
    start.Unfolds busy (spent + 1) (notices ++ world.notice index (.claim (.bridge config) runtime))
      (world.openBridge index link runtime config name facade).2 := by
  have hlistening := h.installListener hlink runtime (.bridge config)
  unfold World.openBridge
  rcases hresult : world.installListener index link runtime (.bridge { config })
    with ⟨result, listening⟩
  rw [show Claimant.listener (.bridge config) = .bridge { config } from rfl, hresult] at hlistening
  cases result with
  | error error =>
    -- An attempt that fails has left the world as it was.
    have hsame : listening = world := installListener_of_error hresult
    exact hsame ▸ hlistening
  | ok =>
    have hlive := liveAt_installListener hlink rfl hresult
    exact (hlistening.write _).storeBridge name hlive

/-- What an operation of a bridge on its transport leaves behind. -/
theorem Unfolds.commit {α : Type} (h : start.Unfolds busy spent notices world)
    (hlink : world.links[index]? = some link) {bridge : Bridge CallbackRef}
    (hbridge : link.bridge? = some bridge) {acted : Acted CallbackRef α}
    (operation : Operation CallbackRef) (own : operation.Own)
    (hacted : Station.perform ⟨world.now, link.transport, bridge⟩ operation =
      ⟨world.now, acted.transport, acted.bridge⟩) (hopen : operation ≠ .close) :
    start.Unfolds busy spent (notices ++ world.notice index (.operate operation own))
      (world.commit index acted) :=
  (h.operate hlink hbridge operation own hopen hacted).write _

theorem Unfolds.send (h : start.Unfolds busy spent notices world) {handle : BridgeHandle}
    (hlink : world.links[handle.link]? = some link) {bridge : Bridge CallbackRef}
    (hbridge : link.bridge? = some bridge) (name command : String) (payload : Datum)
    (timeout : Option Nanoseconds) :
    start.Unfolds busy spent
      (notices ++ world.notice handle.link (.operate (.send command payload timeout) trivial))
      (world.send handle link bridge name command payload timeout).2 :=
  (h.commit hlink hbridge (.send command payload timeout) trivial rfl nofun).storeReply name _

theorem Unfolds.endpointPost (h : start.Unfolds busy spent notices world) {name : String}
    (hname : Fields.lookup name world.natives = some index)
    (hlink : world.links[index]? = some link) {channel : Channel}
    (hchannel : link.channel? = some channel) (message : String) :
    start.Unfolds busy (spent + 2)
      (notices ++ world.notice index (.endpointPost message (world.holdsTransport index)))
      (world.endpointPost index link channel message).2 := by
  have hopen : channel.endpointOpen = true :=
    (h.sound.natives name index hname).2 _
      ((inlet?_of_link hlink).trans (link.inlet?_of_channel? hchannel))
  rw [endpointPost_eq hlink hchannel hopen]
  exact h.act hlink (.endpointPost message _) trivial

theorem Unfolds.endpointReceive (h : start.Unfolds busy spent notices world)
    (hlink : world.links[index]? = some link) {channel : Channel}
    (hchannel : link.channel? = some channel) (answer : String → Answer) :
    start.Unfolds busy spent (notices ++ world.notice index .receive)
      (world.endpointReceive index link channel answer).2 := by
  have hundergo : link.undergo world.now .receive =
      link.withChannel { channel with outbox := channel.outbox.tail } :=
    Link.onChannel_of_channel? hchannel _
  unfold World.endpointReceive
  split
  · next houtbox =>
    refine h.setLink hlink .receive trivial trivial ?_
    rw [hundergo, houtbox]
    rfl
  · next houtbox =>
    refine h.idle hlink (fun _ => nofun) ?_
    rw [hundergo, houtbox, List.tail_nil, ← houtbox]
    exact Link.withChannel_self hchannel

/-- A new callback brings its scripts, which are worth two for each of their steps. -/
theorem Unfolds.enlist (h : start.Unfolds busy spent notices world) (callback : Callback)
    (subscriptions : Fields SubscriptionId) :
    start.Unfolds busy (spent + 2 * stepCountOfScripts callback.scripts) notices
      { world with callbacks := world.callbacks ++ [callback], subscriptions } := by
  refine h.onward ⟨fun _ => .refl _, ?_, ?_⟩
  · exact ⟨h.sound.nodup, h.sound.running, h.sound.inlets, h.sound.natives, h.sound.alone,
      h.sound.held⟩
  · simp only [World.burden, stepCount, List.foldl_append, List.foldl_cons, List.foldl_nil]
    have hbacklog : backlog { world with
        callbacks := world.callbacks ++ [callback], subscriptions } = world.backlog := rfl
    omega

theorem Unfolds.subscribe (h : start.Unfolds busy spent notices world) {handle : BridgeHandle}
    (hlink : world.links[handle.link]? = some link) {bridge : Bridge CallbackRef}
    (hbridge : link.bridge? = some bridge) (name event : String) (scripts : List (List Step)) :
    start.Unfolds busy (spent + 2 * stepCountOfScripts scripts)
      (notices ++ world.notice handle.link
        (.operate (.subscribe event ⟨world.callbacks.length⟩) trivial))
      (world.subscribe handle link bridge name event scripts).2 := by
  have hcommitted : start.Unfolds busy spent
      (notices ++ world.notice handle.link
        (.operate (.subscribe event ⟨world.callbacks.length⟩) trivial))
      (world.commit handle.link
        (bridge.subscribe link.transport event ⟨world.callbacks.length⟩)) :=
    h.commit hlink hbridge (.subscribe event ⟨world.callbacks.length⟩) trivial rfl nofun
  simp only [World.subscribe]
  split
  · exact hcommitted.mono (Nat.le_add_right _ _)
  · exact hcommitted.enlist { subscription := name, scripts } _

theorem Unfolds.pollReply (h : start.Unfolds busy spent notices world) (reply : ReplyRef) :
    start.Unfolds busy spent notices (world.pollReply reply).2 := by
  unfold World.pollReply
  cases reply with
  | detached ticket => exact h.alike (.of_same rfl rfl rfl rfl rfl rfl rfl)
  | ofBridge index ticket =>
    dsimp only
    cases hlink : world.links[index]? with
    | none => exact h
    | some link =>
      dsimp only
      cases hbridge : link.bridge? with
      | none => exact h
      | some bridge =>
        exact (h.setBridge hlink hbridge (.poll ticket) trivial rfl nofun rfl).write _

theorem Unfolds.armReply (h : start.Unfolds busy spent notices world) (timeout : Nanoseconds)
    (reply : ReplyRef) : start.Unfolds busy spent notices (world.armReply timeout reply) := by
  unfold World.armReply
  cases reply with
  | detached ticket => exact h.alike (.of_same rfl rfl rfl rfl rfl rfl rfl)
  | ofBridge index ticket =>
    dsimp only
    cases hlink : world.links[index]? with
    | none => exact h
    | some link =>
      dsimp only
      cases hbridge : link.bridge? with
      | none => exact h
      | some bridge => exact h.setBridge hlink hbridge (.arm ticket timeout) trivial rfl nofun rfl

theorem Unfolds.settle (h : start.Unfolds busy spent notices world) (name : String)
    (settler : Settler)
    (outcome : Outcome) : start.Unfolds busy spent notices (world.settle name settler outcome).2 :=
  h.alike (.of_same rfl rfl rfl rfl rfl rfl rfl)

end World

/-! ## Steps -/

namespace Step

/-- The notable incident that a step is: the name of the link that it happens on, and what happens
there. -/
def incident? (world : World) : Step → Option (Name × (LinkIndex → Incident CallbackRef))
  | .createMemory name _ | .createChannel name _ | .dropEndpoint name =>
    some (.native name, fun _ => .dropEndpoint)
  | .postMessage transport text => some (.transport transport, fun _ => .post text)
  | .observe transport =>
    some (.transport transport, fun _ => .claim (.observer transport) true)
  | .takePosted name => some (.native name, fun _ => .takePosted)
  | .deliver name text => some (.native name, fun _ => .deliver text)
  | .deliverJson name value => some (.native name, fun _ => .deliver value.compact)
  | .recv name | .recvJson name => some (.native name, fun _ => .receive)
  | .endpointPost name text =>
    some (.native name, fun index => .endpointPost text (world.holdsTransport index))
  | .endpointPostJson name value =>
    some (.native name, fun index => .endpointPost value.compact (world.holdsTransport index))
  | .endpointReply name wire request data =>
    (wire.replyTo request data).toOption.map fun message =>
      (.native name, fun index => .endpointPost message.compact (world.holdsTransport index))
  | .endpointReplyError name wire request error =>
    (wire.replyErrorTo request error).toOption.map fun message =>
      (.native name, fun index => .endpointPost message.compact (world.holdsTransport index))
  | .openBridge transport _ choice runtime =>
    choice.resolve.toOption.map fun config =>
      (.transport transport, fun _ => .claim (.bridge config) runtime)
  | .buildBridge transport _ edits =>
    some (.transport transport, fun _ => .claim (.bridge (ConfigEdit.build edits)) true)
  | .openFacade _ facade (.transport transport) =>
    some (.transport transport, fun _ => .claim (.bridge facade.config) true)
  | .call bridge _ action =>
    some (.bridge bridge, fun _ => .operate (.send action.command action.payload none) trivial)
  | .send bridge _ command payload timeout =>
    some (.bridge bridge, fun _ => .operate (.send command payload timeout) trivial)
  | .subscribe bridge _ event _ =>
    some (.bridge bridge, fun _ =>
      .operate (.subscribe event ⟨world.callbacks.length⟩) trivial)
  | _ => none

end Step

/-- What kind of notable incident there is. -/
inductive Kind where
  | plain
  | claim
  | post
  | operate
  | takePosted
  | deliver
  | receive
  | endpointPost
  | dropEndpoint
  | pump

/-- The kind of an incident. -/
def Incident.kind {κ : Type} : Incident κ → Kind
  | .claim _ _ => .claim
  | .post _ => .post
  | .operate _ _ => .operate
  | .takePosted => .takePosted
  | .deliver _ => .deliver
  | .receive => .receive
  | .endpointPost _ _ => .endpointPost
  | .dropEndpoint => .dropEndpoint
  | .pump => .pump
  | .advance _ | .sendSync _ | .setOffline _ | .setResponder _ | .startPump => .plain

namespace Step

/-- The kind of the notable incident that a step may be. -/
def kind : Step → Kind
  | .createMemory _ _ | .createChannel _ _ | .dropEndpoint _ => .dropEndpoint
  | .postMessage _ _ => .post
  | .takePosted _ => .takePosted
  | .deliver _ _ | .deliverJson _ _ => .deliver
  | .recv _ | .recvJson _ => .receive
  | .endpointPost _ _ | .endpointPostJson _ _ | .endpointReply _ _ _ _
  | .endpointReplyError _ _ _ _ => .endpointPost
  | .observe _ | .openBridge _ _ _ _ | .buildBridge _ _ _ | .openFacade _ _ _ => .claim
  | .call _ _ _ | .send _ _ _ _ _ | .subscribe _ _ _ _ => .operate
  | _ => .plain

theorem kind_of_incident? {step : Step} {world : World} {name : Name}
    {incident : LinkIndex → Incident CallbackRef}
    (h : step.incident? world = some (name, incident)) (index : LinkIndex) :
    (incident index).kind = step.kind := by
  cases step with
  | endpointReply native wire request data =>
    obtain ⟨message, -, heq⟩ := Option.map_eq_some_iff.1 h
    cases heq
    rfl
  | endpointReplyError native wire request error =>
    obtain ⟨message, -, heq⟩ := Option.map_eq_some_iff.1 h
    cases heq
    rfl
  | openBridge transport bridge choice runtime =>
    obtain ⟨config, -, heq⟩ := Option.map_eq_some_iff.1 h
    cases heq
    rfl
  | openFacade bridge facade source => cases source <;> cases h; rfl
  | _ => cases h <;> rfl

/-- The notice that a step leaves. -/
def notices (world : World) (step : Step) : List World.LinkNotice :=
  (step.incident? world).elim [] fun deed => world.noticeVia deed.1 deed.2

end Step

namespace World

variable {start world : World} {busy : Option LinkIndex} {spent : Nat} {notices : List LinkNotice}
  {index : LinkIndex} {link : Link CallbackRef}

/-- An endpoint posts, if it is one. -/
theorem Unfolds.postFrom (h : start.Unfolds busy spent notices world) (name message : String) :
    start.Unfolds busy (spent + 2)
      (notices ++ world.noticeVia (.native name) fun index =>
        .endpointPost message (world.holdsTransport index))
      (world.onEndpoint name fun index link channel =>
        world.endpointPost index link channel message).2 := by
  refine (h.mono (Nat.le_add_right _ 2)).onEndpoint name
    (fun index => .endpointPost message (world.holdsTransport index)) (fun _ _ => nofun)
    (fun index link hnone => ?_) fun index link channel hname hlink hchannel =>
      h.endpointPost hname hlink hchannel message
  rw [Link.undergo, Link.onChannel, hnone]

/-- An endpoint posts an answer, if there is one. -/
theorem Unfolds.replyFrom (h : start.Unfolds busy spent notices world) (name : String)
    (result : Except BridgeError Json) :
    start.Unfolds busy (spent + 2)
      (notices ++ result.toOption.elim [] fun message => world.noticeVia (.native name) fun index =>
        .endpointPost message.compact (world.holdsTransport index))
      (world.onEndpoint name fun index link channel =>
        world.endpointPostResult index link channel result).2 := by
  cases result with
  | ok message => exact h.postFrom name message.compact
  | error error =>
    have hfree : start.Unfolds busy (spent + 2) (notices ++ []) world :=
      (List.append_nil notices).symm ▸ h.mono (Nat.le_add_right _ 2)
    obtain ⟨index, link, channel, -, -, -, heq⟩ | ⟨-, hgone⟩ := world.onEndpoint_cases name
      fun index link channel => world.endpointPostResult index link channel (.error error)
    · rw [heq]
      exact hfree
    · rw [hgone]
      exact hfree

/-- An endpoint takes the next message, if it is one. -/
theorem Unfolds.receiveAt (h : start.Unfolds busy spent notices world) (name : String)
    (answer : String → Answer) :
    start.Unfolds busy spent (notices ++ world.noticeVia (.native name) fun _ => .receive)
      (world.onEndpoint name fun index link channel =>
        world.endpointReceive index link channel answer).2 := by
  refine h.onEndpoint name (fun _ => .receive) (fun _ _ => nofun) (fun index link hnone => ?_)
    fun index link channel _ hlink hchannel => h.endpointReceive hlink hchannel answer
  rw [Link.undergo, Link.onChannel, hnone]

/-- A host hands a message to the listener, if it is a host and somebody listens. -/
theorem Unfolds.hostHear (h : start.Unfolds busy spent notices world) (name message : String) :
    start.Unfolds busy spent (notices ++ world.noticeVia (.native name) fun _ => .deliver message)
      (world.hostHear name message) := by
  refine h.onHost name (.deliver message) (fun _ => nofun) (fun link hnone => ?_)
    fun index link host hlink hhost => ?_
  · rw [Link.undergo, Link.onHost, hnone]
  · have hheard := h.setLink hlink (.deliver message) trivial trivial
      (Link.onHost_of_host? hhost _)
    dsimp only
    split
    · exact Unfolds.hear (show (world.write _).links[index]? = some link from hlink) message
        (hheard.write _)
    · next hsilent =>
      have hsame : link.hear world.now message = link := by
        unfold Link.hear
        split
        · next bridge hlistener => simp [Link.hasListener, hlistener] at hsilent
        · rfl
      rwa [hsame, setLink_self hlink] at hheard

/-- A bridge is opened on the transport of a name, if it stands for one. -/
theorem Unfolds.openOn (h : start.Unfolds busy spent notices world) (transport : String)
    (runtime : Bool) (config : Config) (name : String) (facade : Option Facade) :
    start.Unfolds busy (spent + 1)
      (notices ++ world.noticeVia (.transport transport) fun _ => .claim (.bridge config) runtime)
      (world.onTransport transport fun index link =>
        world.openBridge index link runtime config name facade).2 :=
  (h.mono (Nat.le_succ _)).onTransport transport (fun _ => .claim (.bridge config) runtime)
    fun _ _ hlink => h.openBridge hlink runtime config name facade

/-- A request is sent over the bridge of a name, if it stands for one. -/
theorem Unfolds.sendOn (h : start.Unfolds busy spent notices world) (name reply command : String)
    (payload : Datum) (timeout : Option Nanoseconds) :
    start.Unfolds busy spent
      (notices ++ world.noticeVia (.bridge name) fun _ =>
        .operate (.send command payload timeout) trivial)
      (world.onBridge name fun handle link bridge =>
        world.send handle link bridge reply command payload timeout).2 :=
  h.onBridge name (.send command payload timeout) trivial fun _ _ _ hlink hbridge =>
    h.send hlink hbridge reply command payload timeout

/-- A message comes in at a bridge that is held. -/
theorem Unfolds.opening (h : start.Unfolds busy spent notices world) (hlive : world.LiveAt index)
    (hlink : world.links[index]? = some link) {bridge : Bridge CallbackRef}
    (hbridge : link.bridge? = some bridge) (message : String) :
    start.Unfolds busy spent notices (world.opening index link bridge message).world := by
  have hreceived := h.setBridge hlink hbridge (.receive message) trivial rfl nofun rfl
  obtain ⟨live, hfound, hbridgeLive⟩ := hlive
  obtain rfl := Option.some.inj (hfound.symm.trans hlink)
  rw [Link.hasLiveBridge_of_bridge? hbridge] at hbridgeLive
  have hheld := liveAt_setLink hlink (hasLiveBridge_received live hbridgeLive world.now message)
  exact (hreceived.write _).pin hheld

/-- A delivery is opened at the bridge of a name, if it stands for one. -/
theorem Unfolds.bridgeOpening (h : start.Unfolds busy spent notices world) (name : String)
    {opens : BridgeHandle → Link CallbackRef → Bridge CallbackRef → Opening}
    (hopens : ∀ handle link bridge, world.LiveAt handle.link →
      world.links[handle.link]? = some link → link.bridge? = some bridge →
      start.Unfolds busy spent notices (opens handle link bridge).world) :
    start.Unfolds busy spent notices
      (((world.bridgeOpening? name opens).map Opening.world).getD world) := by
  unfold World.bridgeOpening?
  cases hname : Fields.lookup name world.bridges with
  | none => exact h
  | some handle =>
    simp only [Option.bind_some]
    cases hlink : world.links[handle.link]? with
    | none => exact h
    | some link =>
      simp only [Option.bind_some]
      cases hbridge : link.bridge? with
      | none => exact h
      | some bridge => exact hopens handle link bridge (h.sound.liveAt hname) hlink hbridge

end World

/-- Every step unfolds into incidents, up to where it calls callbacks.  It is worth two, and the
scripts that it brings are worth two for each of their steps. -/
theorem Step.unfolds_begin {start world : World} {busy : Option LinkIndex} {spent : Nat}
    {notices : List World.LinkNotice} (h : start.Unfolds busy spent notices world) (step : Step) :
    start.Unfolds busy (spent + (2 * step.stepCount + 2)) (notices ++ step.notices world)
      (step.begin world) := by
  have hfree : start.Unfolds busy (spent + (2 * step.stepCount + 2)) notices world :=
    h.mono (Nat.le_add_right _ _)
  have hplain {after : World}
      (hafter : start.Unfolds busy (spent + (2 * step.stepCount + 2)) notices after) :
      start.Unfolds busy (spent + (2 * step.stepCount + 2)) (notices ++ []) after :=
    (List.append_nil notices).symm ▸ hafter
  have hone {more : List World.LinkNotice} {after : World}
      (hafter : start.Unfolds busy (spent + 1) more after) :
      start.Unfolds busy (spent + (2 * step.stepCount + 2)) more after := hafter.mono (by omega)
  have htwo {more : List World.LinkNotice} {after : World}
      (hafter : start.Unfolds busy (spent + 2) more after) :
      start.Unfolds busy (spent + (2 * step.stepCount + 2)) more after := hafter.mono (by omega)
  cases step with
  | createMemory name id => exact hone ((h.write _).createTransport name id false)
  | createChannel name id => exact hone (h.createTransport name id true)
  | transportInfo name => exact hplain (hfree.onTransport_plain name fun _ _ _ => hfree)
  | dropTransport name => exact hplain (hfree.alike (.of_same rfl rfl rfl rfl rfl rfl rfl))
  | postMessage name text =>
    exact hfree.onTransport name (fun _ => .post text) fun index link hlink =>
      (hfree.setLink hlink (.post text) trivial trivial rfl).write _
  | sendSyncMessage name text =>
    exact hplain (hfree.onTransport_plain name fun index link hlink =>
      hfree.setLink_plain hlink (.sendSync text) trivial trivial rfl rfl)
  | observe name =>
    exact hfree.onTransport name (fun _ => .claim (.observer name) true) fun index link hlink =>
      hone (h.installListener hlink true (.observer name))
  | posted name => exact hplain (hfree.onHost_plain name fun _ _ _ _ _ => hfree)
  | takePosted name =>
    refine hfree.onHost name .takePosted (by simp) (fun link hnone => ?_)
      fun index link host hlink hhost =>
        hfree.setLink hlink .takePosted trivial trivial (Link.onHost_of_host? hhost _)
    rw [Link.undergo, Link.onHost, hnone]
  | postedJson name => exact hplain (hfree.onHost_plain name fun _ _ _ _ _ => hfree)
  | hasListener name => exact hplain (hfree.onHost_plain name fun _ _ _ _ _ => hfree)
  | deliver name text => exact hfree.hostHear name text
  | deliverJson name value => exact hfree.hostHear name value.compact
  | setOffline name offline =>
    exact hplain (hfree.onHost_plain name fun index link host hlink hhost =>
      hfree.setLink_plain hlink (.setOffline offline) trivial trivial rfl
        (Link.onHost_of_host? hhost _))
  | onSync name responder =>
    exact hplain (hfree.onHost_plain name fun index link host hlink hhost =>
      hfree.setLink_plain hlink (.setResponder responder) trivial trivial rfl
        (Link.onHost_of_host? hhost _))
  | recv name => exact hfree.receiveAt name .text
  | recvJson name => exact hfree.receiveAt name World.readMessage
  | endpointPost name text => exact htwo (h.postFrom name text)
  | endpointPostJson name value => exact htwo (h.postFrom name value.compact)
  | endpointReply name wire request data =>
    have hreplied := htwo (h.replyFrom name (wire.replyTo request data))
    simp only [Step.notices, incident?, Option.elim_map]
    exact hreplied
  | endpointReplyError name wire request error =>
    have hreplied := htwo (h.replyFrom name (wire.replyErrorTo request error))
    simp only [Step.notices, incident?, Option.elim_map]
    exact hreplied
  | dropEndpoint name =>
    refine hfree.onEndpoint name (fun _ => .dropEndpoint) (by simp)
      (fun index link hnone => ?_) fun index link channel hname hlink _ =>
        hone (h.hangUp hname hlink)
    rw [Link.undergo, Link.onChannel, hnone]
  | openBridge transport name choice runtime =>
    simp only [begin, perform, Step.notices, incident?]
    cases choice.resolve with
    | error error => exact hplain hfree
    | ok config => exact hone (h.openOn transport runtime config name none)
  | buildBridge transport name edits => exact hone (h.openOn transport true _ name none)
  | openFacade name facade source =>
    cases source with
    | transport transport => exact hone (h.openOn transport true facade.config name (some facade))
    | bridge bridge =>
      exact hplain (hfree.onBridge_plain bridge fun handle link bridge hlive _ _ =>
        hfree.storeBridge name hlive)
  | call name reply action =>
    exact hfree.sendOn name reply action.command action.payload none
  | cloneBridge name copy =>
    exact hplain (hfree.onBridge_plain name fun handle link bridge hlive _ _ =>
      hfree.storeBridge copy hlive)
  | dropBridge name =>
    refine hplain ?_
    simp only [begin, perform]
    split
    · exact hfree
    · exact (hfree.eraseBridge name).closeIfUnheld _
  | showConfig name => exact hplain (hfree.onBridge_plain name fun _ _ _ _ _ _ => hfree)
  | describe name =>
    exact hplain (hfree.onBridge_plain name fun handle link bridge _ hlink hbridge =>
      (hfree.setBridge hlink hbridge .pendingCount trivial rfl (by simp) rfl).write _)
  | send name reply command payload timeout =>
    exact hfree.sendOn name reply command payload timeout
  | sendSync name command payload =>
    refine hplain (hfree.onBridge_plain name fun handle link bridge _ hlink hbridge => ?_)
    have hsent := hfree.operate hlink hbridge (.sendSync command payload) trivial (by simp) rfl
    have hquiet : world.notice handle.link (.operate (.sendSync command payload) trivial) = [] :=
      world.notice_of_plain handle.link rfl
    rw [hquiet, List.append_nil, ← Link.listener_of_bridge? hbridge] at hsent
    exact hsent
  | onReply name text =>
    exact hplain (hfree.bridgeOpening name fun handle link bridge hlive hlink hbridge =>
      hfree.opening hlive hlink hbridge text)
  | dispatch name event value =>
    exact hplain (hfree.bridgeOpening name fun handle link bridge hlive _ _ =>
      (hfree.write _).pin hlive)
  | subscribe name subscription event scripts =>
    exact hfree.onBridge name (.subscribe event ⟨world.callbacks.length⟩) trivial
      fun handle link bridge hlink hbridge =>
        (h.subscribe hlink hbridge subscription event scripts).mono
          (by simp only [stepCount]; omega)
  | unsubscribe name subscription =>
    refine hplain (hfree.onBridge_plain name fun handle link bridge _ hlink hbridge => ?_)
    dsimp only
    split
    · exact hfree
    · exact (hfree.setBridge hlink hbridge (.unsubscribe _) trivial rfl (by simp) rfl).write _
  | pendingCount name =>
    exact hplain (hfree.onBridge_plain name fun handle link bridge _ hlink hbridge =>
      (hfree.setBridge hlink hbridge .pendingCount trivial rfl (by simp) rfl).write _)
  | isPending name id =>
    exact hplain (hfree.onBridge_plain name fun handle link bridge _ hlink hbridge =>
      (hfree.setBridge hlink hbridge (.isPending id) trivial rfl (by simp) rfl).write _)
  | subscriptionCount name => exact hplain (hfree.onBridge_plain name fun _ _ _ _ _ _ => hfree)
  | advance time => exact hplain (hfree.advance time)
  | createSettler name reply id =>
    refine hplain
      (World.Unfolds.storeReply (World.Unfolds.storeSettler (hfree.alike ?_) name _) reply _)
    exact .of_same rfl rfl rfl rfl rfl rfl rfl
  | resolve name value =>
    exact hplain (hfree.onSettler name fun settler => hfree.settle name settler _)
  | reject name value =>
    exact hplain (hfree.onSettler name fun settler => hfree.settle name settler _)
  | fail name error =>
    exact hplain (hfree.onSettler name fun settler => hfree.settle name settler _)
  | settlerInfo name => exact hplain (hfree.onSettler name fun _ => hfree)
  | dropSettler name =>
    exact hplain (hfree.onSettler name fun settler =>
      hfree.alike (.of_same rfl rfl rfl rfl rfl rfl rfl))
  | poll name =>
    refine hplain (hfree.onReply name fun reply => ?_)
    have hpolled := hfree.pollReply reply
    split <;> rename_i hresult <;> rw [hresult] at hpolled
    · exact hpolled
    · exact hpolled.alike (.of_same rfl rfl rfl rfl rfl rfl rfl)
  | decodeReply name target =>
    refine hplain (hfree.onReply name fun reply => ?_)
    have hpolled := hfree.pollReply reply
    split <;> rename_i hresult <;> rw [hresult] at hpolled
    · exact hpolled.dropReply name reply
    · exact hpolled.alike (.of_same rfl rfl rfl rfl rfl rfl rfl)
  | withTimeout name timeout =>
    refine hplain (hfree.onReply name fun ref => ?_)
    split
    · exact hfree.armReply timeout ref
    · exact hfree
  | replyInfo name =>
    refine hplain (hfree.onReply name fun ref => ?_)
    split <;> exact hfree
  | dropReply name => exact hplain (hfree.onReply name fun reply => hfree.dropReply name reply)

end HostLink
