import HostLink.Proofs.Bookkeeping
import HostLink.Proofs.Naming

/-!
# What happens to a world, as incidents

The functions of a session that change a link are single incidents on it, and the theorems named
after them say which: `World.closeEndpoint_eq`, `World.endpointPost_eq`, `World.installListener_eq`.
The others leave the inbound side of every channel alone, and no pump notices them.
-/

namespace HostLink

/-- The incident leaves the inbound side of a channel alone. -/
def Incident.Quiet {κ : Type} : Incident κ → Prop
  | .claim _ _ | .endpointPost _ _ | .dropEndpoint | .startPump | .pump => False
  | _ => True

theorem Inlet.undergo_of_quiet {κ : Type} (inlet : Inlet) {incident : Incident κ}
    (quiet : incident.Quiet) : inlet.undergo incident = inlet := by
  cases incident with
  | claim | endpointPost | dropEndpoint | startPump | pump => exact quiet.elim
  | _ => rfl

theorem Incident.worth_of_quiet {κ : Type} {incident : Incident κ} (quiet : incident.Quiet) :
    incident.worth = 0 := by
  cases incident with
  | claim | endpointPost | dropEndpoint => exact quiet.elim
  | _ => rfl

/-- An incident that wakes the pump gives it a turn if it has waited. -/
theorem Inlet.summoned_of_wake {κ : Type} {inlet after : Inlet} {incident : Incident κ}
    (hundergo : inlet.undergo incident = after.wake) (hpump : after.pump = inlet.pump) :
    inlet.summoned incident = decide (inlet.pump = .waiting) := by
  unfold summoned
  rw [hundergo, wake, hpump]
  cases hinlet : inlet.pump <;> simp [hpump, hinlet, Pump.running]

namespace Link

variable {κ : Type} {link : Link κ}

theorem summoned_of_quiet {incident : Incident κ} (quiet : incident.Quiet) :
    link.summoned incident = false := by
  unfold summoned Inlet.summoned
  cases link.inlet? with
  | none => rfl
  | some inlet =>
    simp only [Option.any_some, inlet.undergo_of_quiet quiet]
    cases inlet.pump.running <;> rfl

/-- Where nothing happens to the link no turn is given. -/
theorem summoned_of_undergo_eq {now : Instant} {incident : Incident κ}
    (h : link.undergo now incident = link) : link.summoned incident = false := by
  have hinlet := link.inlet?_undergo now incident
  rw [h] at hinlet
  unfold summoned Inlet.summoned
  cases hlink : link.inlet? with
  | none => rfl
  | some inlet =>
    rw [hlink] at hinlet
    rw [Option.any_some, ← (Option.some.inj hinlet : inlet = inlet.undergo incident)]
    cases inlet.pump.running <;> rfl

theorem onHost_of_host? {host : MemoryHost} (h : link.host? = some host)
    (act : MemoryHost → Link κ) : link.onHost act = act host := by
  rw [onHost, h]

theorem onChannel_of_channel? {channel : Channel} (h : link.channel? = some channel)
    (act : Channel → Link κ) : link.onChannel act = act channel := by
  rw [onChannel, h]

theorem withChannel_self {channel : Channel} (h : link.channel? = some channel) :
    link.withChannel channel = link := by
  rcases link with ⟨⟨id, host | found⟩, listener⟩
  · cases h
  · obtain rfl := Option.some.inj h
    rfl

end Link

namespace World

variable {start world : World} {busy : Option LinkIndex} {spent : Nat} {notices : List LinkNotice}
  {index : LinkIndex} {link : Link CallbackRef}

/-! ## Changes that no pump notices -/

theorem Unfolds.write (h : start.Unfolds busy spent notices world) (log : List LogEvent) :
    start.Unfolds busy spent notices (world.write log) :=
  h.alike (.of_same rfl rfl rfl rfl rfl rfl rfl)

theorem Unfolds.note (h : start.Unfolds busy spent notices world) (event : Event) :
    start.Unfolds busy spent notices (world.note event) :=
  h.alike (.of_same rfl rfl rfl rfl rfl rfl rfl)

theorem setLink_self (hlink : world.links[index]? = some link) :
    world.setLink index link = world := by
  have hsame : world.links.set index link = world.links := by
    obtain ⟨hlt, hget⟩ := List.getElem?_eq_some_iff.1 hlink
    rw [← hget]
    exact List.set_getElem_self hlt
  unfold setLink
  rw [hsame]

theorem act_eq {incident : Incident CallbackRef} {after : Link CallbackRef} {summoned : Bool}
    (hafter : link.undergo world.now incident = after)
    (hsummoned : link.summoned incident = summoned) :
    world.act index link incident =
      { world with
        links := world.links.set index after
        ready := if summoned then world.ready ++ [index] else world.ready } := by
  subst hafter hsummoned
  rfl

/-- An incident that leaves the link as it was leaves the world as it was. -/
theorem act_of_undergo_eq (hlink : world.links[index]? = some link)
    {incident : Incident CallbackRef} (h : link.undergo world.now incident = link) :
    world.act index link incident = world :=
  (act_eq h (Link.summoned_of_undergo_eq h)).trans (setLink_self hlink)

theorem act_of_quiet (world : World) (index : LinkIndex) (link : Link CallbackRef)
    {incident : Incident CallbackRef} (quiet : incident.Quiet) :
    world.act index link incident = world.setLink index (link.undergo world.now incident) :=
  act_eq rfl (Link.summoned_of_quiet quiet)

/-- An incident that changes nothing. -/
theorem Unfolds.idle (h : start.Unfolds busy spent notices world)
    (hlink : world.links[index]? = some link) {incident : Incident CallbackRef}
    (hclock : ∀ time, incident ≠ .advance time)
    (hundergo : link.undergo world.now incident = link) :
    start.Unfolds busy spent (notices ++ world.notice index incident) world := by
  have hsites := sites_act hlink incident hclock
  rw [act_of_undergo_eq hlink hundergo] at hsites
  have hstays : world.Unfolds busy 0 (world.notice index incident) world :=
    ⟨hsites, h.sound, Nat.le_refl _⟩
  exact h.trans hstays

/-- One link is changed by an incident that no pump notices. -/
theorem Unfolds.setLink (h : start.Unfolds busy spent notices world)
    (hlink : world.links[index]? = some link) (incident : Incident CallbackRef)
    (quiet : incident.Quiet) (allowed : world.Allows index incident) {after : Link CallbackRef}
    (hafter : link.undergo world.now incident = after) :
    start.Unfolds busy spent (notices ++ world.notice index incident)
      (world.setLink index after) := by
  have hact := h.act hlink incident allowed
  rw [act_of_quiet world index link quiet, hafter, Incident.worth_of_quiet quiet] at hact
  exact hact

/-- The same where the incident is not notable. -/
theorem Unfolds.setLink_plain (h : start.Unfolds busy spent notices world)
    (hlink : world.links[index]? = some link) (incident : Incident CallbackRef)
    (quiet : incident.Quiet) (allowed : world.Allows index incident)
    (hplain : incident.notable = false) {after : Link CallbackRef}
    (hafter : link.undergo world.now incident = after) :
    start.Unfolds busy spent notices (world.setLink index after) := by
  have hset := h.setLink hlink incident quiet allowed hafter
  rwa [notice_of_plain world index hplain, List.append_nil] at hset

theorem allows_operate (world : World) (index : LinkIndex) {operation : Operation CallbackRef}
    {own : operation.Own} (hopen : operation ≠ .close) :
    world.Allows index (.operate operation own) := by
  cases operation with
  | close => exact absurd rfl hopen
  | _ => trivial

theorem Unfolds.operate (h : start.Unfolds busy spent notices world)
    (hlink : world.links[index]? = some link) {bridge : Bridge CallbackRef}
    (hbridge : link.bridge? = some bridge) (operation : Operation CallbackRef)
    (own : operation.Own) (hopen : operation ≠ .close) {transport : Transport}
    {after : Bridge CallbackRef}
    (hafter : Station.perform ⟨world.now, link.transport, bridge⟩ operation =
      ⟨world.now, transport, after⟩) :
    start.Unfolds busy spent (notices ++ world.notice index (.operate operation own))
      (world.setLink index { transport, listener := .bridge after }) := by
  refine h.setLink hlink (.operate operation own) trivial
    (world.allows_operate index hopen) ?_
  simp only [Link.undergo, Link.operate]
  rw [hbridge]
  dsimp only
  rw [hafter]

/-- Putting another bridge on a link that has one, by an operation that posts nothing. -/
theorem Unfolds.setBridge (h : start.Unfolds busy spent notices world)
    (hlink : world.links[index]? = some link) {bridge after : Bridge CallbackRef}
    (hbridge : link.bridge? = some bridge) (operation : Operation CallbackRef)
    (own : operation.Own)
    (hafter : Station.perform ⟨world.now, link.transport, bridge⟩ operation =
      ⟨world.now, link.transport, after⟩) (hopen : operation ≠ .close)
    (hposts : operation.posts = false) :
    start.Unfolds busy spent notices (world.setLink index (link.withBridge after)) := by
  have hset := h.operate hlink hbridge operation own hopen hafter
  have hplain : (Incident.operate operation own).notable = false := hposts
  rwa [notice_of_plain world index hplain, List.append_nil] at hset

theorem Unfolds.releaseReply (h : start.Unfolds busy spent notices world) (reply : ReplyRef) :
    start.Unfolds busy spent notices (world.releaseReply reply) := by
  unfold World.releaseReply
  cases reply with
  | detached ticket => exact h.alike (.of_same rfl rfl rfl rfl rfl rfl rfl)
  | ofBridge index ticket =>
    dsimp only
    cases hlink : world.links[index]? with
    | none => exact h
    | some link =>
      dsimp only
      cases hbridge : link.bridge? with
      | none => exact h
      | some bridge => exact h.setBridge hlink hbridge (.release ticket) trivial rfl nofun rfl

theorem Unfolds.storeReply (h : start.Unfolds busy spent notices world) (name : String)
    (reply : ReplyRef) : start.Unfolds busy spent notices (world.storeReply name reply) := by
  have hstored :
      start.Unfolds busy spent notices
        { world with replies := Fields.insert name reply world.replies } :=
    h.alike (.of_same rfl rfl rfl rfl rfl rfl rfl)
  simp only [World.storeReply]
  split
  · exact hstored.releaseReply _
  · exact hstored

theorem Unfolds.dropReply (h : start.Unfolds busy spent notices world) (name : String)
    (reply : ReplyRef) : start.Unfolds busy spent notices (world.dropReply name reply) := by
  refine Unfolds.releaseReply (h.alike ?_) reply
  exact .of_same rfl rfl rfl rfl rfl rfl rfl

theorem Unfolds.storeSettler (h : start.Unfolds busy spent notices world) (name : String)
    (settler : Settler) : start.Unfolds busy spent notices (world.storeSettler name settler) := by
  simp only [World.storeSettler]
  split <;> exact h.alike (.of_same rfl rfl rfl rfl rfl rfl rfl)

/-- When the clock moves, it moves for every link. -/
theorem Unfolds.advance (h : start.Unfolds busy spent notices world) (time : Nanoseconds) :
    start.Unfolds busy spent notices { world with now := world.now + time } := by
  suffices hmoves : world.Unfolds busy 0 [] { world with now := world.now + time } from
    h.onward hmoves
  refine ⟨fun index => ?_, ?_, Nat.le_refl _⟩
  · have hmoved : site? { world with now := world.now + time } index =
        (world.site? index).map (·.perform (.advance time)) := by
      simp only [site?, Option.map_map]
      rfl
    rw [hmoved]
    cases world.site? index with
    | none => exact .refl _
    | some site => exact .perform site (.advance time)
  · exact ⟨h.sound.nodup, h.sound.running, h.sound.inlets, h.sound.natives, h.sound.alone,
      h.sound.held⟩

/-! ## Bridges that are held -/

theorem Unfolds.closeIfUnheld (h : start.Unfolds busy spent notices world) (index : LinkIndex) :
    start.Unfolds busy spent notices (world.closeIfUnheld index) := by
  unfold World.closeIfUnheld
  cases hlink : world.links[index]? with
  | none => exact h
  | some link =>
    dsimp only
    split
    · exact h
    · next hunheld =>
      have hidle (hsame : link.closeBridge = link) :
          start.Unfolds busy spent notices (world.setLink index link.closeBridge) := by
        rw [hsame, setLink_self hlink]
        exact h
      cases hlistener : link.listener with
      | nobody => exact hidle (by rw [Link.closeBridge, hlistener])
      | observer name => exact hidle (by rw [Link.closeBridge, hlistener])
      | bridge bridge =>
        cases hlive : bridge.live with
        | false => exact hidle (by simp [Link.closeBridge, hlistener, hlive])
        | true =>
          refine h.setLink_plain hlink (.operate .close trivial) trivial hunheld rfl ?_
          simp [Link.undergo, Link.operate, Link.bridge?, Link.closeBridge, hlistener, hlive,
            Station.perform, Link.withBridge]

theorem holdsBridge_iff (world : World) (index : LinkIndex) : world.holdsBridge index = true ↔
    (∃ handle ∈ world.bridges, handle.2.link = index) ∨ index ∈ world.pins := by
  simp [holdsBridge]

/-- A name may come to stand for a live bridge. -/
theorem Unfolds.storeBridge (h : start.Unfolds busy spent notices world) (name : String)
    {handle : BridgeHandle} (hlive : world.LiveAt handle.link) :
    start.Unfolds busy spent notices (world.storeBridge name handle) := by
  have hstored : start.Unfolds busy spent notices
      { world with bridges := Fields.insert name handle world.bridges } := by
    refine h.alike ⟨rfl, rfl, rfl, rfl, fun _ _ h => h, fun index hheld => ?_⟩
    rw [holdsBridge_iff] at hheld ⊢
    rcases hheld with ⟨other, hmem, hlink⟩ | hpinned
    · rcases Fields.mem_insert hmem with rfl | hold
      · exact .inr (hlink ▸ hlive)
      · exact .inl (.inl ⟨other, hold, hlink⟩)
    · exact .inl (.inr hpinned)
  simp only [World.storeBridge]
  split
  · exact hstored.closeIfUnheld _
  · exact hstored

/-- A name may cease to stand for a bridge. -/
theorem Unfolds.eraseBridge (h : start.Unfolds busy spent notices world) (name : String) :
    start.Unfolds busy spent notices { world with bridges := Fields.erase name world.bridges } := by
  refine h.alike ⟨rfl, rfl, rfl, rfl, fun _ _ h => h, fun index hheld => .inl ?_⟩
  rw [holdsBridge_iff] at hheld ⊢
  exact hheld.imp_left fun ⟨handle, hmem, hlink⟩ => ⟨handle, List.mem_of_mem_filter hmem, hlink⟩

/-- The bridge of a name is live. -/
theorem Sound.liveAt (h : world.Sound busy) {name : String} {handle : BridgeHandle}
    (hname : Fields.lookup name world.bridges = some handle) : world.LiveAt handle.link := by
  refine h.held handle.link ?_
  rw [holdsBridge_iff]
  exact .inl ⟨(name, handle), Fields.mem_of_lookup hname, rfl⟩

theorem Unfolds.pin (h : start.Unfolds busy spent notices world) (hlive : world.LiveAt index) :
    start.Unfolds busy spent notices (world.pin index) := by
  refine h.alike ⟨rfl, rfl, rfl, rfl, fun _ _ h => h, fun other hheld => ?_⟩
  rw [holdsBridge_iff] at hheld ⊢
  rcases hheld with hnamed | hpinned
  · exact .inl (.inl hnamed)
  · rcases List.mem_cons.1 hpinned with rfl | hpinned
    · exact .inr hlive
    · exact .inl (.inr hpinned)

theorem Unfolds.unpin (h : start.Unfolds busy spent notices world) (index : LinkIndex) :
    start.Unfolds busy spent notices (world.unpin index) := by
  refine Unfolds.closeIfUnheld (h.alike ?_) index
  refine ⟨rfl, rfl, rfl, rfl, fun _ _ h => h, fun other hheld => .inl ?_⟩
  rw [holdsBridge_iff] at hheld ⊢
  exact hheld.imp_right List.mem_of_mem_erase

/-! ## Pumps that are woken -/

theorem setLink_setLink (world : World) (index : LinkIndex) (first second : Link CallbackRef) :
    (world.setLink index first).setLink index second = world.setLink index second := by
  unfold setLink
  rw [List.set_set]

/-- Waking a pump gives it a turn if it has waited. -/
theorem wakePump_setLink (hlink : world.links[index]? = some link) (channel : Channel) :
    (world.setLink index (link.withChannel channel)).wakePump index =
      { world with
        links := world.links.set index (link.withChannel channel.wake)
        ready := if channel.pump = .waiting then world.ready ++ [index] else world.ready } := by
  obtain ⟨hlt, -⟩ := List.getElem?_eq_some_iff.1 hlink
  have hset : (world.setLink index (link.withChannel channel)).links[index]? =
      some (link.withChannel channel) := List.getElem?_set_self hlt
  unfold wakePump
  rw [hset]
  dsimp only [Link.channel?, Link.withChannel]
  by_cases hwaiting : channel.pump = .waiting
  · rw [if_pos hwaiting, if_pos hwaiting]
    unfold setLink
    rw [List.set_set]
  · rw [if_neg hwaiting, if_neg hwaiting, Channel.wake, if_neg hwaiting]
    rfl

/-- Closing an endpoint is an incident. -/
theorem closeEndpoint_eq (hlink : world.links[index]? = some link) :
    world.closeEndpoint index = world.act index link .dropEndpoint := by
  unfold closeEndpoint
  rw [hlink]
  dsimp only
  cases hchannel : link.channel? with
  | none =>
    refine (act_of_undergo_eq hlink ?_).symm
    rw [Link.undergo, Link.onChannel, hchannel]
  | some channel =>
    have hsummoned : link.summoned .dropEndpoint = decide (channel.pump = .waiting) := by
      rw [Link.summoned, link.inlet?_of_channel? hchannel]
      exact Inlet.summoned_of_wake (κ := CallbackRef) rfl rfl
    have hundergo : link.undergo world.now .dropEndpoint =
        link.withChannel { channel with endpointOpen := false, outbox := [] }.wake :=
      Link.onChannel_of_channel? hchannel _
    rw [act_eq hundergo hsummoned]
    dsimp only
    rw [wakePump_setLink hlink]
    simp only [decide_eq_true_eq]

/-- What the endpoint posts while it is there is an incident. -/
theorem endpointPost_eq (hlink : world.links[index]? = some link) {channel : Channel}
    (hchannel : link.channel? = some channel) (hopen : channel.endpointOpen = true)
    (message : String) :
    (world.endpointPost index link channel message).2 =
      world.act index link (.endpointPost message (world.holdsTransport index)) := by
  have haccepts : (channel.endpointOpen && channel.takesInbound (world.holdsTransport index)) =
      channel.takesInbound (world.holdsTransport index) := by
    rw [hopen, Bool.true_and]
  have hundergo : link.undergo world.now (.endpointPost message (world.holdsTransport index)) =
      if channel.endpointOpen && channel.takesInbound (world.holdsTransport index) then
        link.withChannel { channel with inbox := channel.inbox ++ [message] }.wake
      else link := Link.onChannel_of_channel? hchannel _
  rw [haccepts] at hundergo
  unfold endpointPost
  by_cases htakes : channel.takesInbound (world.holdsTransport index) = true
  · have hsummoned : link.summoned (.endpointPost message (world.holdsTransport index)) =
        decide (channel.pump = .waiting) := by
      rw [Link.summoned, link.inlet?_of_channel? hchannel]
      exact Inlet.summoned_of_wake (κ := CallbackRef) (if_pos (haccepts.trans htakes)) rfl
    rw [if_pos htakes] at hundergo ⊢
    rw [act_eq hundergo hsummoned]
    dsimp only
    rw [wakePump_setLink hlink]
    simp only [decide_eq_true_eq]
  · rw [if_neg htakes] at hundergo ⊢
    exact (act_of_undergo_eq hlink hundergo).symm

/-- An attempt to listen is an incident.  If it succeeds over a channel the pump gets a turn, which
it has not had before. -/
theorem installListener_eq (h : world.Sound busy) (hlink : world.links[index]? = some link)
    (runtime : Bool) (claimant : Claimant) :
    (world.installListener index link runtime claimant.listener).2 =
      world.act index link (.claim claimant runtime) := by
  have hundergo : link.undergo world.now (.claim claimant runtime) =
      (link.install runtime claimant.listener).2 := rfl
  unfold installListener
  obtain ⟨error, hresult⟩ | ⟨hsilent, ⟨hmemory, hresult⟩ | ⟨channel, hchannel, hresult⟩⟩ :=
    link.install_cases runtime claimant.listener
  · rw [hresult] at hundergo ⊢
    exact (act_of_undergo_eq hlink hundergo).symm
  · have hsummoned : link.summoned (.claim claimant runtime) = false := by
      rw [Link.summoned, link.inlet?_eq_none hmemory]
      rfl
    have hstill :
        ({ link with listener := claimant.listener } : Link CallbackRef).channel? = none := hmemory
    rw [hresult] at hundergo ⊢
    rw [act_eq hundergo hsummoned]
    dsimp only
    rw [hstill]
    rfl
  · have hinlet := link.inlet?_of_channel? hchannel
    have habsent : channel.pump = .absent :=
      (h.inlets index _ ((inlet?_of_link hlink).trans hinlet)).absent_iff.2 hsilent
    have hafter := link.inlet?_undergo world.now (.claim claimant runtime)
    rw [hresult] at hundergo ⊢
    rw [hundergo, hinlet] at hafter
    have hfresh : ((channel.inlet link.hasListener).undergo (κ := CallbackRef)
        (.claim claimant runtime)).pump = .fresh :=
      congrArg Inlet.pump (Option.some.inj hafter).symm
    have hsummoned : link.summoned (.claim claimant runtime) = true := by
      rw [Link.summoned, hinlet, Option.any_some, Inlet.summoned, hfresh]
      rw [show (channel.inlet link.hasListener).pump = .absent from habsent]
      rfl
    rw [act_eq hundergo hsummoned]
    rfl

/-! ## Names of links -/

/-- The notice that an incident leaves on the link that a name stands for. -/
def noticeVia (world : World) (name : Name) (incident : LinkIndex → Incident CallbackRef) :
    List LinkNotice :=
  match world.linkOf? name with
  | some index => world.notice index (incident index)
  | none => []

theorem noticeVia_of_linkOf? {name : Name} (h : world.linkOf? name = some index)
    (incident : LinkIndex → Incident CallbackRef) :
    world.noticeVia name incident = world.notice index (incident index) := by
  rw [noticeVia, h]

theorem noticeVia_of_none {name : Name} (h : world.linkOf? name = none)
    (incident : LinkIndex → Incident CallbackRef) : world.noticeVia name incident = [] := by
  rw [noticeVia, h]

/-! ## New transports -/

/-- The world with one more link, whose native side has a name. -/
def withTransport (world : World) (name : String) (transport : Transport) : World :=
  { world.addLink transport with
    transports := Fields.insert name world.links.length world.transports
    natives := Fields.insert name world.links.length world.natives }

section withTransport

variable (name id : String) (onChannel : Bool)

theorem getElem?_withTransport (transport : Transport) {other : LinkIndex}
    (h : other < world.links.length) :
    (world.withTransport name transport).links[other]? = world.links[other]? :=
  List.getElem?_append_left h

theorem getElem?_withTransport_last (transport : Transport) :
    (world.withTransport name transport).links[world.links.length]? = some { transport } :=
  List.getElem?_concat_length

theorem lt_of_inlet? {inlet : Inlet} (h : world.inlet? index = some inlet) :
    index < world.links.length := by
  obtain ⟨link, hlink, -⟩ := Option.bind_eq_some_iff.1 h
  exact (List.getElem?_eq_some_iff.1 hlink).1

theorem inlet?_withTransport (transport : Transport) {other : LinkIndex}
    (h : other < world.links.length) :
    (world.withTransport name transport).inlet? other = world.inlet? other := by
  rw [inlet?, getElem?_withTransport name transport h]
  rfl

/-- The inbound side of a transport that was just made is open, and no pump is there. -/
theorem inlet?_withTransport_last {inlet : Inlet}
    (h : (world.withTransport name (.made id onChannel)).inlet? world.links.length = some inlet) :
    inlet = Channel.inlet {} false := by
  rw [inlet?, getElem?_withTransport_last name] at h
  cases onChannel with
  | false => cases h
  | true => exact (Option.some.inj h).symm

theorem sites_withTransport (other : LinkIndex) : Site.Evolves [] (world.site? other)
    ((world.withTransport name (.made id onChannel)).site? other) := by
  rcases Nat.lt_trichotomy other world.links.length with hlt | rfl | hgt
  · have hsame : (world.withTransport name (.made id onChannel)).site? other =
        world.site? other := by
      rw [site?, getElem?_withTransport name _ hlt]
      rfl
    rw [hsame]
    exact .refl _
  · have hnone : world.site? world.links.length = none := by
      rw [site?, List.getElem?_eq_none (Nat.le_refl _)]
      rfl
    rw [hnone, site?, getElem?_withTransport_last]
    exact .inr ⟨_, rfl, id, onChannel, world.now, [], rfl, rfl⟩
  · have hnone : world.site? other = none := by
      rw [site?, List.getElem?_eq_none (Nat.le_of_lt hgt)]
      rfl
    have hafter : (world.withTransport name (.made id onChannel)).links[other]? = none :=
      List.getElem?_eq_none (by simpa [withTransport, addLink] using Nat.succ_le_of_lt hgt)
    rw [hnone, site?, hafter]
    exact .refl _

theorem Sound.withTransport (h : world.Sound busy) :
    (world.withTransport name (.made id onChannel)).Sound busy := by
  have hlength : (world.withTransport name (.made id onChannel)).links.length =
      world.links.length + 1 := by
    simp [World.withTransport, addLink]
  -- A link of the new world is an old one or the last one.
  have hinlet {other : LinkIndex} {inlet : Inlet}
      (hinlet : (world.withTransport name (.made id onChannel)).inlet? other = some inlet) :
      other < world.links.length ∧ world.inlet? other = some inlet ∨
        other = world.links.length ∧ inlet = Channel.inlet {} false := by
    have hlt := hlength ▸ lt_of_inlet? hinlet
    rcases Nat.lt_succ_iff_lt_or_eq.1 hlt with hold | rfl
    · exact .inl ⟨hold, inlet?_withTransport name _ hold ▸ hinlet⟩
    · exact .inr ⟨rfl, inlet?_withTransport_last name id onChannel hinlet⟩
  have hnative {key : String} {other : LinkIndex} (hkey : Fields.lookup key
      (world.withTransport name (.made id onChannel)).natives = some other) :
      key = name ∧ other = world.links.length ∨ key ≠ name ∧ other < world.links.length ∧
        Fields.lookup key world.natives = some other := by
    rw [show (world.withTransport name (.made id onChannel)).natives =
      Fields.insert name world.links.length world.natives from rfl, Fields.lookup_insert] at hkey
    split at hkey
    · next heq => exact .inl ⟨heq.symm, (Option.some.inj hkey).symm⟩
    · next hne => exact .inr ⟨Ne.symm hne, (h.natives key other hkey).1, hkey⟩
  refine ⟨h.nodup, fun other => ?_, fun other inlet hother => ?_, fun key other hkey => ?_,
    fun key key' other hkey hkey' => ?_, fun other hheld => ?_⟩
  · refine (h.running other).trans ⟨?_, ?_⟩
    · rintro ⟨inlet, hother, hrunning⟩
      exact ⟨inlet, (inlet?_withTransport name _ (lt_of_inlet? hother)).trans hother, hrunning⟩
    · rintro ⟨inlet, hother, hrunning⟩
      rcases hinlet hother with ⟨-, hold⟩ | ⟨-, rfl⟩
      · exact ⟨inlet, hold, hrunning⟩
      · cases hrunning
  · rcases hinlet hother with ⟨-, hold⟩ | ⟨-, rfl⟩
    · exact h.inlets other inlet hold
    · exact Inlet.sound_made
  · rcases hnative hkey with ⟨-, rfl⟩ | ⟨-, hlt, hold⟩
    · refine ⟨hlength ▸ Nat.lt_succ_self _, fun inlet hlast => ?_⟩
      rw [inlet?_withTransport_last name id onChannel hlast]
      rfl
    · refine ⟨hlength ▸ Nat.lt_succ_of_lt hlt, fun inlet hother => ?_⟩
      rw [inlet?_withTransport name _ hlt] at hother
      exact (h.natives key other hold).2 inlet hother
  · rcases hnative hkey with ⟨rfl, hlast⟩ | ⟨-, hlt, hold⟩
    · rcases hnative hkey' with ⟨rfl, -⟩ | ⟨-, hlt, -⟩
      · rfl
      · exact absurd hlast (Nat.ne_of_lt hlt)
    · rcases hnative hkey' with ⟨-, hlast⟩ | ⟨-, -, hold'⟩
      · exact absurd hlast (Nat.ne_of_lt hlt)
      · exact h.alone key key' other hold hold'
  · obtain ⟨link, hlink, hlive⟩ := h.held other hheld
    have hlt := (List.getElem?_eq_some_iff.1 hlink).1
    exact ⟨link, (getElem?_withTransport name _ hlt).trans hlink, hlive⟩

theorem Unfolds.withTransport (h : start.Unfolds busy spent notices world) :
    start.Unfolds busy spent notices (world.withTransport name (.made id onChannel)) := by
  suffices hadds : world.Unfolds busy 0 [] (world.withTransport name (.made id onChannel)) from
    h.onward hadds
  refine ⟨sites_withTransport name id onChannel, h.sound.withTransport name id onChannel, ?_⟩
  have hbacklog : (world.withTransport name (.made id onChannel)).backlog = world.backlog := by
    simp only [backlog, World.withTransport, addLink, List.foldl_append, List.foldl_cons,
      List.foldl_nil]
    cases onChannel <;> rfl
  have hsteps : (world.withTransport name (.made id onChannel)).stepCount = world.stepCount := rfl
  have hready : (world.withTransport name (.made id onChannel)).ready = world.ready := rfl
  rw [World.burden, World.burden, hbacklog, hsteps, hready]
  exact Nat.le_refl _

/-- The endpoint that had the name goes away. -/
theorem Unfolds.createTransport (h : start.Unfolds busy spent notices world) :
    start.Unfolds busy (spent + 1)
      (notices ++ world.noticeVia (.native name) fun _ => .dropEndpoint)
      (world.createTransport name (.made id onChannel)) := by
  have hadded := h.withTransport name id onChannel
  rcases hold : Fields.lookup name world.natives with _ | old
  · have hcreate : world.createTransport name (.made id onChannel) =
        world.withTransport name (.made id onChannel) := by
      simp only [World.createTransport, storeNative, addLink, hold]
      rfl
    have hnone : world.linkOf? (.native name) = none := hold
    rw [hcreate, noticeVia_of_none hnone, List.append_nil]
    exact hadded.mono (Nat.le_succ _)
  · have hcreate : world.createTransport name (.made id onChannel) =
        (world.withTransport name (.made id onChannel)).closeEndpoint old := by
      simp only [World.createTransport, storeNative, addLink, hold]
      rfl
    obtain ⟨hlt, -⟩ := h.sound.natives name old hold
    have hlink : (world.withTransport name (.made id onChannel)).links[old]? =
        some world.links[old] :=
      (getElem?_withTransport name _ hlt).trans (List.getElem?_eq_getElem hlt)
    have hsame : (world.withTransport name (.made id onChannel)).notice old .dropEndpoint =
        world.notice old .dropEndpoint := by
      refine notice_congr ?_ (getElem?_withTransport name _ hlt) _
      rfl
    have hnative : world.linkOf? (.native name) = some old := hold
    rw [hcreate, noticeVia_of_linkOf? hnative, ← hsame, closeEndpoint_eq hlink]
    refine hadded.act hlink .dropEndpoint fun key hkey => ?_
    rw [show (world.withTransport name (.made id onChannel)).natives =
      Fields.insert name world.links.length world.natives from rfl, Fields.lookup_insert] at hkey
    split at hkey
    · exact absurd (Option.some.inj hkey) (Nat.ne_of_gt hlt)
    · next hne => exact hne (h.sound.alone name key old hold hkey)

end withTransport

/-- The endpoint of a name goes away, and the name with it. -/
theorem Unfolds.hangUp (h : start.Unfolds busy spent notices world) {name : String}
    (hname : Fields.lookup name world.natives = some index)
    (hlink : world.links[index]? = some link) :
    start.Unfolds busy (spent + 1) (notices ++ world.notice index .dropEndpoint)
      ({ world with natives := Fields.erase name world.natives }.closeEndpoint index) := by
  have hnatives {key : String} {other : LinkIndex}
      (hkey : Fields.lookup key (Fields.erase name world.natives) = some other) :
      name ≠ key ∧ Fields.lookup key world.natives = some other := by
    rw [Fields.lookup_erase] at hkey
    split at hkey
    · cases hkey
    · next hne => exact ⟨hne, hkey⟩
  have herased :
      start.Unfolds busy spent notices { world with natives := Fields.erase name world.natives } :=
    h.alike ⟨rfl, rfl, rfl, rfl, fun _ _ hkey => (hnatives hkey).2, fun _ hheld => .inl hheld⟩
  rw [closeEndpoint_eq (show { world with
    natives := Fields.erase name world.natives }.links[index]? = some link from hlink)]
  refine herased.act hlink .dropEndpoint fun key hkey => ?_
  obtain ⟨hne, hold⟩ := hnatives hkey
  exact hne (h.sound.alone name key index hname hold)

end World
end HostLink
