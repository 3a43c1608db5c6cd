import HostLink.Proofs.Accounting
import HostLink.Session.Run

/-!
# Sessions take bridges through runs

The laws of a bridge are laws of runs of its station.  This module shows that they speak of every
session: whatever steps a session takes, whatever scripts its callbacks run in the middle of a
delivery, and whatever the pumps deliver, each bridge is always where some run of operations leaves
a bridge that was just opened (`Session.grounded_step`).

`World.Leads` relates two worlds of a session: every bridge of the first is found in the second,
behind a run of operations.  It is about one link at a time, so what a step has to show is only what
it did to the link that it acted on.  A bridge that a running delivery holds is not closed on the
way, for a nested delivery puts back the holds that it has found.

Calls of callbacks come in as an argument, as in `Step.perform`; that they too lead from one world
to the next goes by induction on how deep they may nest.
-/

namespace HostLink

namespace Station

variable {κ : Type}

/-- Some run of a bridge that was just opened leads here. -/
def Reachable (station : Station κ) : Prop :=
  ∃ config transport now operations, station = (opened config transport now).run operations

theorem reachable_opened (config : Config) (transport : Transport) (now : Instant) :
    (opened (κ := κ) config transport now).Reachable :=
  ⟨config, transport, now, [], rfl⟩

theorem Reachable.run {station : Station κ} (h : station.Reachable)
    (operations : List (Operation κ)) : (station.run operations).Reachable := by
  obtain ⟨config, transport, now, earlier, rfl⟩ := h
  exact ⟨config, transport, now, earlier ++ operations, (run_append _ _ _).symm⟩

/-- What may become of the station in a place: one that is there goes on by operations, none of
which closes it while it is held, and one that is new can be reached. -/
def Evolves (held : Prop) (before after : Option (Station κ)) : Prop :=
  match before with
  | some station =>
    ∃ operations, after = some (station.run operations) ∧ (held → .close ∉ operations)
  | none => ∀ station, after = some station → station.Reachable

namespace Evolves

variable {held : Prop} {before after : Option (Station κ)} {station : Station κ}

theorem refl (held : Prop) (before : Option (Station κ)) : Evolves held before before := by
  cases before with
  | none => exact fun _ h => nomatch h
  | some station => exact ⟨[], rfl, fun _ => List.not_mem_nil⟩

theorem trans {first second third : Option (Station κ)} (h : Evolves held first second)
    (h' : Evolves held second third) : Evolves held first third := by
  cases first with
  | some station =>
    obtain ⟨operations, rfl, hopen⟩ := h
    obtain ⟨more, rfl, hopen'⟩ := h'
    refine ⟨operations ++ more, by rw [run_append], fun hheld hmem => ?_⟩
    exact (List.mem_append.1 hmem).elim (hopen hheld) (hopen' hheld)
  | none =>
    cases second with
    | none => exact h'
    | some middle =>
      obtain ⟨more, rfl, -⟩ := h'
      rintro station ⟨⟩
      exact (h middle rfl).run more

theorem mono {held' : Prop} (h : Evolves held before after) (hheld : held' → held) :
    Evolves held' before after := by
  cases before with
  | none => exact h
  | some station =>
    obtain ⟨operations, hafter, hopen⟩ := h
    exact ⟨operations, hafter, hopen ∘ hheld⟩

/-- One operation, which does not close the station if it is held. -/
theorem perform (operation : Operation κ) (hopen : held → operation ≠ .close)
    (station : Station κ) : Evolves held (some station) (some (station.perform operation)) :=
  ⟨[operation], rfl, fun hheld hmem => hopen hheld (List.mem_singleton.1 hmem).symm⟩

end Evolves
end Station

namespace Link

variable {κ : Type} {link : Link κ} {bridge : Bridge κ} {now : Instant} {held : Prop}

/-- The station of the bridge on the link, if there is one. -/
def station? (link : Link κ) (now : Instant) : Option (Station κ) :=
  link.bridge?.map fun bridge => ⟨now, link.transport, bridge⟩

theorem station?_of_bridge? (h : link.bridge? = some bridge) (now : Instant) :
    link.station? now = some ⟨now, link.transport, bridge⟩ := by
  rw [station?, h]
  rfl

theorem evolves_withBridge (hbridge : link.bridge? = some bridge) (operation : Operation κ)
    {after : Bridge κ}
    (hafter : Station.perform ⟨now, link.transport, bridge⟩ operation =
      ⟨now, link.transport, after⟩) (hopen : held → operation ≠ .close) :
    Station.Evolves held (link.station? now) ((link.withBridge after).station? now) := by
  have hstation : (link.withBridge after).station? now = some ⟨now, link.transport, after⟩ := rfl
  rw [station?_of_bridge? hbridge, hstation, ← hafter]
  exact .perform operation hopen _

/-- Whatever happens to the transport of a link, its bridge goes on. -/
theorem evolves_carry (link : Link κ) (transport : Transport) :
    Station.Evolves held (link.station? now) (station? { link with transport } now) := by
  cases hbridge : link.bridge? with
  | none =>
    have hnone (other : Link κ) (h : other.bridge? = none) : other.station? now = none := by
      rw [station?, h]
      rfl
    rw [hnone link hbridge, hnone { link with transport } hbridge]
    exact .refl held none
  | some bridge =>
    rw [station?_of_bridge? hbridge,
      station?_of_bridge? (show bridge? { link with transport } = some bridge from hbridge)]
    exact .perform (.carry transport) (fun _ => nofun) ⟨now, link.transport, bridge⟩

theorem evolves_withChannel (link : Link κ) (channel : Channel) :
    Station.Evolves held (link.station? now) ((link.withChannel channel).station? now) :=
  link.evolves_carry _

theorem evolves_withHost (link : Link κ) (host : MemoryHost) :
    Station.Evolves held (link.station? now) ((link.withHost host).station? now) :=
  link.evolves_carry _

theorem evolves_closeBridge (link : Link κ) (unheld : ¬held) :
    Station.Evolves held (link.station? now) (link.closeBridge.station? now) := by
  unfold Link.closeBridge
  cases hlistener : link.listener with
  | nobody => exact .refl _ _
  | observer name => exact .refl _ _
  | bridge bridge =>
    have hbridge : link.bridge? = some bridge := by
      unfold bridge?
      rw [hlistener]
    dsimp only
    split
    · exact evolves_withBridge hbridge .close rfl fun hheld => absurd hheld unheld
    · exact .refl _ _

/-- A listener that was just installed is an observer or a new bridge, and a bridge that was there
before keeps its place. -/
theorem evolves_install (link : Link κ) {runtime : Bool} {listener : Listener κ}
    (hlistener : ∀ bridge, listener = .bridge bridge → ∃ config, bridge = { config := config }) :
    Station.Evolves held (link.station? now) ((link.install runtime listener).2.station? now) := by
  have hnew (transport : Transport) (station : Station κ)
      (h : station? { transport := transport, listener := listener } now = some station) :
      station.Reachable := by
    cases listener with
    | nobody => cases h
    | observer name => cases h
    | bridge bridge =>
      obtain ⟨config, rfl⟩ := hlistener bridge rfl
      obtain rfl := Option.some.inj h
      exact Station.reachable_opened config transport now
  have hsilent (h : ¬link.hasListener = true) : link.station? now = none := by
    unfold hasListener at h
    unfold station? bridge?
    cases hlink : link.listener with
    | nobody => rfl
    | observer name => rfl
    | bridge bridge => simp [hlink] at h
  unfold Link.install
  cases link.transport.medium with
  | memory host =>
    dsimp only
    split
    · exact .refl _ _
    · next h =>
      rw [hsilent h]
      exact hnew _
  | channel channel =>
    dsimp only
    split
    · exact .refl _ _
    · split
      · exact .refl _ _
      · next h =>
        rw [hsilent h]
        exact hnew _

end Link

namespace World

/-! ## Worlds -/

/-- The station of the bridge on a link. -/
def station? (world : World) (index : LinkIndex) : Option (Station CallbackRef) :=
  (world.links[index]?).bind fun link => link.station? world.now

/-- The bridges of the world can all be reached. -/
def Grounded (world : World) : Prop :=
  ∀ index station, world.station? index = some station → station.Reachable

/-- From one world to a later one: the same bridges are held by deliveries, each bridge goes on by
operations, the held ones without being closed, and new bridges can be reached. -/
structure Leads (start world : World) : Prop where
  pins : world.pins = start.pins
  stations : ∀ index, Station.Evolves (index ∈ start.pins) (start.station? index)
    (world.station? index)

variable {start world : World} {index : LinkIndex} {link : Link CallbackRef}

theorem station?_of_link (h : world.links[index]? = some link) :
    world.station? index = link.station? world.now := by
  rw [station?, h]
  rfl

theorem station?_setLink (h : world.links[index]? = some link) (after : Link CallbackRef) :
    (world.setLink index after).station? index = after.station? world.now := by
  refine station?_of_link ?_
  obtain ⟨hlt, -⟩ := List.getElem?_eq_some_iff.1 h
  exact List.getElem?_set_self hlt

theorem station?_setLink_of_ne {other : LinkIndex} (h : other ≠ index)
    (after : Link CallbackRef) :
    (world.setLink index after).station? other = world.station? other := by
  simp only [station?, setLink]
  rw [List.getElem?_set_ne h.symm]

theorem Leads.refl (world : World) : world.Leads world := ⟨rfl, fun _ => .refl _ _⟩

theorem Leads.trans {first second third : World} (h : first.Leads second)
    (h' : second.Leads third) : first.Leads third := by
  refine ⟨h'.pins.trans h.pins, fun index => (h.stations index).trans ?_⟩
  rw [← h.pins]
  exact h'.stations index

theorem Leads.grounded (h : start.Leads world) (grounded : start.Grounded) : world.Grounded := by
  intro index station hstation
  have hevolves := h.stations index
  cases hstart : start.station? index with
  | none =>
    rw [hstart] at hevolves
    exact hevolves station hstation
  | some before =>
    rw [hstart] at hevolves
    obtain ⟨operations, hafter, -⟩ := hevolves
    obtain rfl := Option.some.inj (hstation.symm.trans hafter)
    exact (grounded index before hstart).run operations

/-- Only the links, the clock and the holds matter. -/
theorem Leads.of_same {after : World} (h : start.Leads world) (hlinks : after.links = world.links)
    (hnow : after.now = world.now) (hpins : after.pins = world.pins) : start.Leads after := by
  refine ⟨hpins.trans h.pins, fun index => ?_⟩
  have hsame : after.station? index = world.station? index := by
    rw [station?, hlinks, hnow]
    rfl
  rw [hsame]
  exact h.stations index

/-- One link is changed. -/
theorem Leads.setLink (h : start.Leads world) (hlink : world.links[index]? = some link)
    {after : Link CallbackRef}
    (hafter : Station.Evolves (index ∈ world.pins) (link.station? world.now)
      (after.station? world.now)) : start.Leads (world.setLink index after) := by
  refine h.trans ⟨rfl, fun other => ?_⟩
  by_cases heq : other = index
  · subst heq
    rw [station?_of_link hlink, station?_setLink hlink]
    exact hafter
  · rw [station?_setLink_of_ne heq]
    exact .refl _ _

/-- When the clock moves, it moves for every bridge. -/
theorem Leads.advance (h : start.Leads world) (time : Nanoseconds) :
    start.Leads { world with now := world.now + time } := by
  refine h.trans ⟨rfl, fun index => ?_⟩
  have hmoved : station? { world with now := world.now + time } index =
      (world.station? index).map (·.perform (.advance time)) := by
    simp only [station?, Link.station?, Option.map_bind]
    congr 1
    funext link
    simp [Station.perform, Function.comp_def]
  rw [hmoved]
  cases world.station? index with
  | none => exact .refl _ _
  | some station =>
    refine .perform (.advance time) (fun _ hclose => ?_) station
    cases hclose

theorem Leads.write (h : start.Leads world) (log : List LogEvent) : start.Leads (world.write log) :=
  h.of_same rfl rfl rfl

theorem Leads.note (h : start.Leads world) (event : Event) : start.Leads (world.note event) :=
  h.of_same rfl rfl rfl

theorem Leads.addLink (h : start.Leads world) (transport : Transport) :
    start.Leads (world.addLink transport) := by
  refine h.trans ⟨rfl, fun index => ?_⟩
  have hold (hlt : index < world.links.length) :
      (world.addLink transport).station? index = world.station? index := by
    simp only [station?, World.addLink]
    rw [List.getElem?_append_left hlt]
  rcases Nat.lt_or_ge index world.links.length with hlt | hge
  · rw [hold hlt]
    exact .refl _ _
  · have hnone : world.station? index = none := by
      rw [station?, List.getElem?_eq_none hge]
      rfl
    rw [hnone]
    intro station hstation
    rcases Nat.eq_or_lt_of_le hge with rfl | hgt
    · simp [station?, World.addLink, Link.station?, Link.bridge?] at hstation
    · rw [station?, World.addLink,
        List.getElem?_eq_none (by rw [List.length_append]; exact hgt)] at hstation
      cases hstation

theorem Leads.closeIfUnheld (h : start.Leads world) (index : LinkIndex) :
    start.Leads (world.closeIfUnheld index) := by
  unfold World.closeIfUnheld
  cases hlink : world.links[index]? with
  | none => exact h
  | some link =>
    dsimp only
    split
    · exact h
    · next hunheld =>
      refine h.setLink hlink (link.evolves_closeBridge fun hpinned => hunheld ?_)
      simp [World.holdsBridge, hpinned]

theorem Leads.storeBridge (h : start.Leads world) (name : String) (handle : BridgeHandle) :
    start.Leads (world.storeBridge name handle) := by
  have hstored : start.Leads { world with bridges := Fields.insert name handle world.bridges } :=
    h.of_same rfl rfl rfl
  simp only [World.storeBridge]
  split
  · exact hstored.closeIfUnheld _
  · exact hstored

/-- Putting another bridge on a link that has one. -/
theorem Leads.setBridge (h : start.Leads world) (hlink : world.links[index]? = some link)
    {bridge after : Bridge CallbackRef} (hbridge : link.bridge? = some bridge)
    (operation : Operation CallbackRef)
    (hafter : Station.perform ⟨world.now, link.transport, bridge⟩ operation =
      ⟨world.now, link.transport, after⟩) (hopen : operation ≠ .close) :
    start.Leads (world.setLink index (link.withBridge after)) :=
  h.setLink hlink (Link.evolves_withBridge hbridge operation hafter fun _ => hopen)

theorem Leads.releaseReply (h : start.Leads world) (reply : ReplyRef) :
    start.Leads (world.releaseReply reply) := by
  unfold World.releaseReply
  cases reply with
  | detached ticket => exact h.of_same rfl rfl rfl
  | ofBridge index ticket =>
    dsimp only
    cases hlink : world.links[index]? with
    | none => exact h
    | some link =>
      dsimp only
      cases hbridge : link.bridge? with
      | none => exact h
      | some bridge => exact h.setBridge hlink hbridge (.release ticket) rfl nofun

theorem Leads.storeReply (h : start.Leads world) (name : String) (reply : ReplyRef) :
    start.Leads (world.storeReply name reply) := by
  have hstored : start.Leads { world with replies := Fields.insert name reply world.replies } :=
    h.of_same rfl rfl rfl
  simp only [World.storeReply]
  split
  · exact hstored.releaseReply _
  · exact hstored

theorem Leads.dropReply (h : start.Leads world) (name : String) (reply : ReplyRef) :
    start.Leads (world.dropReply name reply) := by
  refine Leads.releaseReply ?_ reply
  exact h.of_same rfl rfl rfl

theorem Leads.storeSettler (h : start.Leads world) (name : String) (settler : Settler) :
    start.Leads (world.storeSettler name settler) := by
  simp only [World.storeSettler]
  split <;> exact h.of_same rfl rfl rfl

theorem Leads.wakePump (h : start.Leads world) (index : LinkIndex) :
    start.Leads (world.wakePump index) := by
  unfold World.wakePump
  cases hlink : world.links[index]? with
  | none => exact h
  | some link =>
    dsimp only
    split
    · split
      · exact Leads.of_same (h.setLink hlink (link.evolves_withChannel _)) rfl rfl rfl
      · exact h
    · exact h

theorem Leads.closeEndpoint (h : start.Leads world) (index : LinkIndex) :
    start.Leads (world.closeEndpoint index) := by
  unfold World.closeEndpoint
  cases hlink : world.links[index]? with
  | none => exact h
  | some link =>
    dsimp only
    split
    · exact (h.setLink hlink (link.evolves_withChannel _)).wakePump index
    · exact h

theorem Leads.storeNative (h : start.Leads world) (name : String) (index : LinkIndex) :
    start.Leads (world.storeNative name index) := by
  have hstored : start.Leads { world with natives := Fields.insert name index world.natives } :=
    h.of_same rfl rfl rfl
  simp only [World.storeNative]
  split
  · exact hstored.closeEndpoint _
  · exact hstored

/-! ## Calls and deliveries -/

/-- Calls that lead from one world to the next. -/
def Acts (invoke : Invoke) : Prop :=
  ∀ callback payload (world : World), world.Leads (invoke callback payload world)

variable {invoke : Invoke}

theorem Leads.fanOut (h : start.Leads world) (acts : Acts invoke) (calls : FanOut CallbackRef) :
    start.Leads (World.fanOut invoke calls world) := by
  unfold World.fanOut
  induction calls.callbacks generalizing world with
  | nil => exact h
  | cons callback rest ih => exact ih (h.trans (acts callback calls.payload world))

/-- Letting go of a bridge that was held on the way. -/
theorem Leads.unpin (h : (start.pin index).Leads world) : start.Leads (world.unpin index) := by
  -- The first hold on the bridge goes, which is the one that was added.
  refine Leads.closeIfUnheld ⟨?_, fun other => ?_⟩ index
  · simp [h.pins, World.pin]
  · exact (h.stations other).mono (List.mem_cons_of_mem index)

theorem Leads.fanOutHeld (h : start.Leads world) (acts : Acts invoke) (index : LinkIndex)
    (calls : FanOut CallbackRef) : start.Leads (World.fanOutHeld invoke index calls world) :=
  h.trans ((Leads.refl (world.pin index)).fanOut acts calls).unpin

theorem Leads.receive (h : start.Leads world) (acts : Acts invoke)
    (hlink : world.links[index]? = some link) {bridge : Bridge CallbackRef}
    (hbridge : link.bridge? = some bridge) (message : String) :
    start.Leads (World.receive invoke index link bridge message world) :=
  Leads.fanOutHeld ((h.setBridge hlink hbridge (.receive message) rfl nofun).write _) acts index _

theorem Leads.deliver (h : start.Leads world) (acts : Acts invoke) (index : LinkIndex)
    (message : String) : start.Leads (World.deliver invoke index message world) := by
  unfold World.deliver
  cases hlink : world.links[index]? with
  | none => exact h
  | some link =>
    dsimp only
    cases hlistener : link.listener with
    | nobody => exact h
    | observer name => exact h.note _
    | bridge bridge =>
      have hbridge : link.bridge? = some bridge := by
        unfold Link.bridge?
        rw [hlistener]
      dsimp only
      split
      · exact h.receive acts hlink hbridge message
      · exact h.write _

/-! ## Objects by name -/

theorem Leads.onTransport (h : start.Leads world) (name : String)
    {act : LinkIndex → Link CallbackRef → Answer × World}
    (hact : ∀ index link, world.links[index]? = some link → start.Leads (act index link).2) :
    start.Leads (world.onTransport name act).2 := by
  unfold World.onTransport
  cases Fields.lookup name world.transports with
  | none => exact h
  | some index =>
    dsimp only
    cases hlink : world.links[index]? with
    | none => exact h
    | some link => exact hact index link hlink

theorem Leads.onNative (h : start.Leads world) (name : String)
    {act : LinkIndex → Link CallbackRef → Answer × World}
    (hact : ∀ index link, world.links[index]? = some link → start.Leads (act index link).2) :
    start.Leads (world.onNative name act).2 := by
  unfold World.onNative
  cases Fields.lookup name world.natives with
  | none => exact h
  | some index =>
    dsimp only
    cases hlink : world.links[index]? with
    | none => exact h
    | some link => exact hact index link hlink

theorem Leads.onHost (h : start.Leads world) (name : String)
    {act : LinkIndex → Link CallbackRef → MemoryHost → Answer × World}
    (hact : ∀ index link host, world.links[index]? = some link →
      start.Leads (act index link host).2) : start.Leads (world.onHost name act).2 := by
  refine h.onNative name fun index link hlink => ?_
  cases link.host? with
  | none => exact h
  | some host => exact hact index link host hlink

theorem Leads.onEndpoint (h : start.Leads world) (name : String)
    {act : LinkIndex → Link CallbackRef → Channel → Answer × World}
    (hact : ∀ index link channel, world.links[index]? = some link →
      start.Leads (act index link channel).2) : start.Leads (world.onEndpoint name act).2 := by
  refine h.onNative name fun index link hlink => ?_
  cases link.channel? with
  | none => exact h
  | some channel => exact hact index link channel hlink

theorem Leads.onBridge (h : start.Leads world) (name : String)
    {act : BridgeHandle → Link CallbackRef → Bridge CallbackRef → Answer × World}
    (hact : ∀ handle link bridge, world.links[handle.link]? = some link →
      link.bridge? = some bridge → start.Leads (act handle link bridge).2) :
    start.Leads (world.onBridge name act).2 := by
  unfold World.onBridge
  cases Fields.lookup name world.bridges with
  | none => exact h
  | some handle =>
    dsimp only
    cases hlink : world.links[handle.link]? with
    | none => exact h
    | some link =>
      dsimp only
      cases hbridge : link.bridge? with
      | none => exact h
      | some bridge => exact hact handle link bridge hlink hbridge

theorem Leads.onReply (h : start.Leads world) (name : String) {act : ReplyRef → Answer × World}
    (hact : ∀ reply, start.Leads (act reply).2) : start.Leads (world.onReply name act).2 := by
  unfold World.onReply
  split
  · exact hact _
  · exact h

theorem Leads.onSettler (h : start.Leads world) (name : String) {act : Settler → Answer × World}
    (hact : ∀ settler, start.Leads (act settler).2) : start.Leads (world.onSettler name act).2 := by
  unfold World.onSettler
  split
  · exact hact _
  · exact h

/-! ## Parts of steps -/

theorem Leads.createTransport (h : start.Leads world) (name : String) (transport : Transport) :
    start.Leads (world.createTransport name transport) := by
  unfold World.createTransport
  refine Leads.storeNative ?_ name _
  exact (h.addLink transport).of_same rfl rfl rfl

theorem Leads.installListener (h : start.Leads world) (hlink : world.links[index]? = some link)
    (runtime : Bool) {listener : Listener CallbackRef}
    (hlistener : ∀ bridge, listener = .bridge bridge → ∃ config, bridge = { config := config }) :
    start.Leads (world.installListener index link runtime listener).2 := by
  have hinstalled : Station.Evolves (index ∈ world.pins) (link.station? world.now)
      ((link.install runtime listener).2.station? world.now) := link.evolves_install hlistener
  unfold World.installListener
  rcases hresult : link.install runtime listener with ⟨result, installed⟩
  rw [hresult] at hinstalled
  cases result with
  | error error => exact h
  | ok =>
    have hset : start.Leads (world.setLink index installed) := h.setLink hlink hinstalled
    dsimp only
    split
    · exact hset.of_same rfl rfl rfl
    · exact hset

theorem Leads.openBridge (h : start.Leads world) (hlink : world.links[index]? = some link)
    (runtime : Bool) (config : Config) (name : String) (facade : Option Facade) :
    start.Leads (world.openBridge index link runtime config name facade).2 := by
  have hlistening :
      start.Leads (world.installListener index link runtime (.bridge { config := config })).2 :=
    h.installListener hlink runtime fun bridge hbridge =>
      ⟨config, (Listener.bridge.inj hbridge).symm⟩
  unfold World.openBridge
  rcases hresult : world.installListener index link runtime (.bridge { config := config })
    with ⟨result, listening⟩
  rw [hresult] at hlistening
  cases result with
  | error error => exact h
  | ok => exact (hlistening.write _).storeBridge name _

/-- What an operation of a bridge on its transport leaves behind. -/
theorem Leads.commit {α : Type} (h : start.Leads world) (hlink : world.links[index]? = some link)
    {bridge : Bridge CallbackRef} (hbridge : link.bridge? = some bridge)
    {acted : Acted CallbackRef α} (operation : Operation CallbackRef)
    (hacted : Station.perform ⟨world.now, link.transport, bridge⟩ operation =
      ⟨world.now, acted.transport, acted.bridge⟩) (hopen : operation ≠ .close) :
    start.Leads (world.commit index acted) := by
  refine Leads.write (h.setLink hlink ?_) _
  have hafter : Link.station? { transport := acted.transport, listener := .bridge acted.bridge }
      world.now = some ⟨world.now, acted.transport, acted.bridge⟩ := rfl
  rw [Link.station?_of_bridge? hbridge, hafter, ← hacted]
  exact .perform operation (fun _ => hopen) _

theorem Leads.endpointPost (h : start.Leads world) (hlink : world.links[index]? = some link)
    (channel : Channel) (message : String) :
    start.Leads (world.endpointPost index link channel message).2 := by
  unfold World.endpointPost
  split
  · exact (h.setLink hlink (link.evolves_withChannel _)).wakePump index
  · exact h

theorem Leads.endpointPostResult (h : start.Leads world) (hlink : world.links[index]? = some link)
    (channel : Channel) (result : Except BridgeError Json) :
    start.Leads (world.endpointPostResult index link channel result).2 := by
  cases result with
  | ok message => exact h.endpointPost hlink channel _
  | error error => exact h

theorem Leads.endpointReceive (h : start.Leads world) (hlink : world.links[index]? = some link)
    (channel : Channel) (answer : String → Answer) :
    start.Leads (world.endpointReceive index link channel answer).2 := by
  unfold World.endpointReceive
  cases channel.outbox with
  | nil => exact h
  | cons message rest => exact h.setLink hlink (link.evolves_withChannel _)

theorem Leads.hostDeliver (h : start.Leads world) (acts : Acts invoke)
    (index : LinkIndex) (link : Link CallbackRef) (message : String) :
    start.Leads (World.hostDeliver invoke world index link message).2 := by
  unfold World.hostDeliver
  split
  · exact (h.write _).deliver acts index message
  · exact h

theorem Leads.subscribe (h : start.Leads world) {handle : BridgeHandle}
    (hlink : world.links[handle.link]? = some link) {bridge : Bridge CallbackRef}
    (hbridge : link.bridge? = some bridge) (name event : String) (scripts : List (List Step)) :
    start.Leads (world.subscribe handle link bridge name event scripts).2 := by
  have hcommitted : start.Leads (world.commit handle.link
      (bridge.subscribe link.transport event ⟨world.callbacks.length⟩)) :=
    h.commit hlink hbridge (.subscribe event ⟨world.callbacks.length⟩) rfl nofun
  simp only [World.subscribe]
  split
  · exact hcommitted
  · exact hcommitted.of_same rfl rfl rfl

theorem Leads.pollReply (h : start.Leads world) (reply : ReplyRef) :
    start.Leads (world.pollReply reply).2 := by
  unfold World.pollReply
  cases reply with
  | detached ticket => exact h.of_same rfl rfl rfl
  | ofBridge index ticket =>
    dsimp only
    cases hlink : world.links[index]? with
    | none => exact h
    | some link =>
      dsimp only
      cases hbridge : link.bridge? with
      | none => exact h
      | some bridge => exact (h.setBridge hlink hbridge (.poll ticket) rfl nofun).write _

theorem Leads.armReply (h : start.Leads world) (timeout : Nanoseconds) (reply : ReplyRef) :
    start.Leads (world.armReply timeout reply) := by
  unfold World.armReply
  cases reply with
  | detached ticket => exact h.of_same rfl rfl rfl
  | ofBridge index ticket =>
    dsimp only
    cases hlink : world.links[index]? with
    | none => exact h
    | some link =>
      dsimp only
      cases hbridge : link.bridge? with
      | none => exact h
      | some bridge => exact h.setBridge hlink hbridge (.arm ticket timeout) rfl nofun

theorem Leads.settle (h : start.Leads world) (name : String) (settler : Settler)
    (outcome : Outcome) : start.Leads (world.settle name settler outcome).2 :=
  h.of_same rfl rfl rfl

end World

/-! ## Steps -/

/-- Every step leads on, if the calls that it makes do. -/
theorem Step.leads_perform {invoke : World.Invoke} {start world : World} (h : start.Leads world)
    (acts : World.Acts invoke) (step : Step) : start.Leads (step.perform invoke world).2 := by
  cases step with
  | createMemory name id => exact (h.write _).createTransport name _
  | createChannel name id => exact h.createTransport name _
  | transportInfo name => exact h.onTransport name fun _ _ _ => h
  | dropTransport name => exact h.of_same rfl rfl rfl
  | postMessage name text =>
    exact h.onTransport name fun index link hlink =>
      (h.setLink hlink (link.evolves_carry _)).write _
  | sendSyncMessage name text =>
    exact h.onTransport name fun index link hlink => h.setLink hlink (link.evolves_carry _)
  | observe name =>
    exact h.onTransport name fun index link hlink => h.installListener hlink true nofun
  | posted name => exact h.onHost name fun _ _ _ _ => h
  | takePosted name =>
    exact h.onHost name fun index link host hlink => h.setLink hlink (link.evolves_withHost _)
  | postedJson name => exact h.onHost name fun _ _ _ _ => h
  | hasListener name => exact h.onHost name fun _ _ _ _ => h
  | deliver name text =>
    exact h.onHost name fun index link _ _ => h.hostDeliver acts index link text
  | deliverJson name value =>
    exact h.onHost name fun index link _ _ => h.hostDeliver acts index link _
  | setOffline name offline =>
    exact h.onHost name fun index link host hlink => h.setLink hlink (link.evolves_withHost _)
  | onSync name responder =>
    exact h.onHost name fun index link host hlink => h.setLink hlink (link.evolves_withHost _)
  | recv name =>
    exact h.onEndpoint name fun index link channel hlink => h.endpointReceive hlink channel _
  | recvJson name =>
    exact h.onEndpoint name fun index link channel hlink => h.endpointReceive hlink channel _
  | endpointPost name text =>
    exact h.onEndpoint name fun index link channel hlink => h.endpointPost hlink channel text
  | endpointPostJson name value =>
    exact h.onEndpoint name fun index link channel hlink => h.endpointPost hlink channel _
  | endpointReply name wire request data =>
    exact h.onEndpoint name fun index link channel hlink => h.endpointPostResult hlink channel _
  | endpointReplyError name wire request error =>
    exact h.onEndpoint name fun index link channel hlink => h.endpointPostResult hlink channel _
  | dropEndpoint name =>
    refine h.onEndpoint name fun index link channel hlink => ?_
    refine World.Leads.closeEndpoint ?_ index
    exact h.of_same rfl rfl rfl
  | openBridge transport name choice runtime =>
    simp only [Step.perform]
    split
    · exact h
    · exact h.onTransport transport fun index link hlink => h.openBridge hlink runtime _ name none
  | buildBridge transport name edits =>
    exact h.onTransport transport fun index link hlink => h.openBridge hlink true _ name none
  | openFacade name facade source =>
    cases source with
    | transport transport =>
      exact h.onTransport transport fun index link hlink => h.openBridge hlink true _ name _
    | bridge bridge => exact h.onBridge bridge fun handle link bridge _ _ => h.storeBridge name _
  | call name reply action =>
    exact h.onBridge name fun handle link bridge hlink hbridge =>
      (h.commit hlink hbridge (.send action.command action.payload none) rfl nofun).storeReply
        reply _
  | cloneBridge name copy =>
    exact h.onBridge name fun handle link bridge _ _ => h.storeBridge copy _
  | dropBridge name =>
    simp only [Step.perform]
    split
    · exact h
    · refine World.Leads.closeIfUnheld ?_ _
      exact h.of_same rfl rfl rfl
  | showConfig name => exact h.onBridge name fun _ _ _ _ _ => h
  | describe name =>
    exact h.onBridge name fun handle link bridge hlink hbridge =>
      (h.setBridge hlink hbridge .pendingCount rfl nofun).write _
  | send name reply command payload timeout =>
    exact h.onBridge name fun handle link bridge hlink hbridge =>
      (h.commit hlink hbridge (.send command payload timeout) rfl nofun).storeReply reply _
  | sendSync name command payload =>
    exact h.onBridge name fun handle link bridge hlink _ => h.setLink hlink (link.evolves_carry _)
  | onReply name text =>
    exact h.onBridge name fun handle link bridge hlink hbridge =>
      h.receive acts hlink hbridge text
  | dispatch name event value =>
    exact h.onBridge name fun handle link bridge hlink _ => (h.write _).fanOutHeld acts _ _
  | subscribe name subscription event scripts =>
    exact h.onBridge name fun handle link bridge hlink hbridge =>
      h.subscribe hlink hbridge subscription event scripts
  | unsubscribe name subscription =>
    refine h.onBridge name fun handle link bridge hlink hbridge => ?_
    dsimp only
    split
    · exact h
    · exact (h.setBridge hlink hbridge (.unsubscribe _) rfl nofun).write _
  | pendingCount name =>
    exact h.onBridge name fun handle link bridge hlink hbridge =>
      (h.setBridge hlink hbridge .pendingCount rfl nofun).write _
  | isPending name id =>
    exact h.onBridge name fun handle link bridge hlink hbridge =>
      (h.setBridge hlink hbridge (.isPending id) rfl nofun).write _
  | subscriptionCount name => exact h.onBridge name fun _ _ _ _ _ => h
  | advance time => exact h.advance time
  | createSettler name reply id =>
    refine World.Leads.storeReply (World.Leads.storeSettler ?_ name _) reply _
    exact h.of_same rfl rfl rfl
  | resolve name value => exact h.onSettler name fun settler => h.settle name settler _
  | reject name value => exact h.onSettler name fun settler => h.settle name settler _
  | fail name error => exact h.onSettler name fun settler => h.settle name settler _
  | settlerInfo name => exact h.onSettler name fun _ => h
  | dropSettler name => exact h.onSettler name fun settler => h.of_same rfl rfl rfl
  | poll name =>
    refine h.onReply name fun reply => ?_
    have hpolled := h.pollReply reply
    split <;> rename_i hresult <;> rw [hresult] at hpolled
    · exact hpolled
    · exact hpolled.of_same rfl rfl rfl
  | decodeReply name target =>
    refine h.onReply name fun reply => ?_
    have hpolled := h.pollReply reply
    split <;> rename_i hresult <;> rw [hresult] at hpolled
    · exact hpolled.dropReply name reply
    · exact hpolled.of_same rfl rfl rfl
  | withTimeout name timeout =>
    refine h.onReply name fun ref => ?_
    split
    · exact h.armReply timeout ref
    · exact h
  | replyInfo name =>
    refine h.onReply name fun ref => ?_
    split <;> exact h
  | dropReply name => exact h.onReply name fun reply => h.dropReply name reply

namespace World

variable {start world : World}

theorem Leads.runScript {invoke : Invoke} (h : start.Leads world) (acts : Acts invoke)
    (subscription : String) (script : List Step) :
    start.Leads (World.runScript invoke subscription world script) := by
  unfold World.runScript
  induction script generalizing world with
  | nil => exact h
  | cons step rest ih => exact ih ((step.leads_perform h acts).note _)

/-- Calls of callbacks lead on, however deep they nest. -/
theorem acts_call (fuel : Nat) : Acts (call fuel) := by
  induction fuel with
  | zero =>
    intro ref payload world
    unfold call
    split
    · exact .refl world
    · dsimp only
      split
      · contradiction
      · exact (Leads.refl world).note _
  | succ fuel ih =>
    intro ref payload world
    unfold call
    split
    · exact .refl world
    · rename_i callback _
      have hnoted := (Leads.refl world).note (.called callback.subscription payload.toJson)
      dsimp only
      split
      · rename_i hfuel
        obtain rfl := Nat.succ.inj hfuel
        refine Leads.runScript ?_ ih _ _
        exact hnoted.of_same rfl rfl rfl
      · exact hnoted

/-! ## Pumps -/

theorem Leads.setPump (h : start.Leads world) {index : LinkIndex} {link : Link CallbackRef}
    (hlink : world.links[index]? = some link) (channel : Channel) (pump : Pump) :
    start.Leads (world.setPump index link channel pump) :=
  h.setLink hlink (link.evolves_withChannel _)

theorem Leads.drain (h : start.Leads world) (fuel : Nat) (index : LinkIndex) :
    start.Leads (World.drain fuel index world) := by
  induction fuel generalizing world with
  | zero => exact h
  | succ fuel ih =>
    unfold World.drain
    split
    · exact h
    · rename_i link hlink
      split
      · exact h
      · split
        · refine ih (Leads.deliver ?_ (acts_call _) index _)
          exact h.setLink hlink (link.evolves_withChannel _)
        · split
          · exact h.setPump hlink _ _
          · exact (h.setPump hlink _ _).write _

theorem Leads.runPump (h : start.Leads world) (fuel : Nat) (index : LinkIndex) :
    start.Leads (World.runPump fuel index world) := by
  unfold World.runPump
  split
  · exact h
  · rename_i link hlink
    split
    · exact h
    · split
      · exact Leads.drain ((h.setPump hlink _ _).write _) fuel index
      · exact h.drain fuel index

theorem Leads.runPumpsFor (h : start.Leads world) (fuel drainFuel : Nat) :
    start.Leads (World.runPumpsFor fuel drainFuel world) := by
  induction fuel generalizing world with
  | zero => exact h
  | succ fuel ih =>
    unfold World.runPumpsFor
    split
    · exact h
    · refine ih (Leads.runPump ?_ drainFuel _)
      exact h.of_same rfl rfl rfl

end World

/-! ## Sessions -/

namespace Session

/-- A step of a session leads on, and so do the pumps after it. -/
theorem leads_step (world : World) (step : Step) : world.Leads (Session.step world step).2 := by
  have hfresh : world.Leads { world with events := [], log := [] } :=
    (World.Leads.refl world).of_same rfl rfl rfl
  exact World.Leads.runPumpsFor (step.leads_perform hfresh (World.acts_call _)) _ _

theorem grounded_step {world : World} (h : world.Grounded) (step : Step) :
    (Session.step world step).2.Grounded :=
  (leads_step world step).grounded h

/-- Every bridge of every session can be reached by a run of its station. -/
theorem grounded_steps (steps : List Step) :
    (steps.foldl (fun world step => (Session.step world step).2) {}).Grounded := by
  suffices hsteps : ∀ world : World, world.Grounded →
      (steps.foldl (fun world step => (Session.step world step).2) world).Grounded from
    hsteps {} fun index station hstation => nomatch hstation
  induction steps with
  | nil => exact fun world h => h
  | cons step rest ih => exact fun world h => ih _ (grounded_step h step)

end Session
end HostLink
