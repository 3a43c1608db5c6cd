import HostLink.Proofs.Activation
import HostLink.Proofs.Naming
import HostLink.Proofs.Parametric
import HostLink.Proofs.Placement

/-!
# One side of a session, alone and in company

The names of a session fall into two parts, and two worlds are compared: the world of the session,
and the world of one side that is alone.  What the lone side has is found in the session, though in
other places of its lists, for links, callbacks and detached replies are numbered as they come
(`Side`).  A callback is compared by its place, and so two bridges agree if they come from one whose
callbacks are pairs of places (`Places.Links`).

While a step of one side runs, the two worlds go in tandem (`Tandem`): time, notes and log are the
same, the same bridges are held and the same pumps are ready; and of the other side nothing changes
at all.  This module has what the parts of a step do to two such worlds.
-/

namespace HostLink

/-! ## Ids in a registry -/

namespace Link

variable {κ ι : Type} {link : Link κ} {bridge : Bridge κ}

/-- The bridge on the link, if there is one, has issued the ids in its registry. -/
def Numbered (link : Link κ) : Prop :=
  ∀ bridge, link.bridge? = some bridge → bridge.registry.Numbered

theorem Numbered.withTransport (numbered : link.Numbered) (transport : Transport) :
    Numbered { link with transport } := numbered

theorem numbered_withBridge (numbered : bridge.registry.Numbered) (link : Link κ) :
    (link.withBridge bridge).Numbered := by
  rintro _ ⟨⟩
  exact numbered

theorem numbered_new (link : Link κ) (config : Config) :
    (link.withBridge { config }).Numbered :=
  numbered_withBridge (fun _ hmem => absurd hmem List.not_mem_nil) link

theorem numbered_observer (link : Link κ) (name : String) :
    ({ link with listener := .observer name } : Link κ).Numbered := nofun

theorem Numbered.map (numbered : link.Numbered) (f : κ → ι) : (link.map f).Numbered := by
  intro mapped hmapped
  rw [bridge?_map, Option.map_eq_some_iff] at hmapped
  obtain ⟨bridge, hbridge, rfl⟩ := hmapped
  intro subscription hmem
  obtain ⟨before, hbefore, rfl⟩ := List.mem_map.1 hmem
  exact numbered bridge hbridge before hbefore

/-- The ids stay issued, whatever the bridge does. -/
theorem Numbered.perform (numbered : link.Numbered) (hbridge : link.bridge? = some bridge)
    (now : Instant) (operation : Operation κ) :
    (Station.perform ⟨now, link.transport, bridge⟩ operation).bridge.registry.Numbered :=
  Station.numbered_perform (numbered bridge hbridge) operation

theorem Numbered.closeBridge (numbered : link.Numbered) : link.closeBridge.Numbered := by
  unfold Link.closeBridge
  split
  · next bridge hlistener =>
    split
    · refine numbered_withBridge (numbered.perform ?_ 0 .close) link
      rw [bridge?, hlistener]
    · exact numbered
  · exact numbered

theorem Numbered.install {listener : Listener κ} (numbered : link.Numbered)
    (hlistener : Numbered { link with listener }) (runtime : Bool) :
    (link.install runtime listener).2.Numbered := by
  unfold Link.install
  split
  · split
    · exact numbered
    · exact hlistener
  · split
    · exact numbered
    · split
      · exact numbered
      · exact hlistener

end Link

/-! ## Places -/

/-- The places of one side's objects in the lists of a session. -/
structure Places where
  links : List LinkIndex := []
  callbacks : List Nat := []
  detached : List Ticket := []

namespace Places

variable (places : Places)

/-- The link of the lone side, and where it stands in the session; likewise below. -/
def Link (own shared : LinkIndex) : Prop := places.links[own]? = some shared

def Callback (own shared : CallbackRef) : Prop := places.callbacks[own.index]? = some shared.index

def Ticket (own shared : Ticket) : Prop := places.detached[own]? = some shared

structure Handle (own shared : BridgeHandle) : Prop where
  link : places.Link own.link shared.link
  facade : own.facade = shared.facade

inductive Reply : ReplyRef → ReplyRef → Prop where
  | ofBridge {own shared : LinkIndex} (h : places.Link own shared) (ticket : HostLink.Ticket) :
    Reply (.ofBridge own ticket) (.ofBridge shared ticket)
  | detached {own shared : HostLink.Ticket} (h : places.Ticket own shared) :
    Reply (.detached own) (.detached shared)

structure Settler (own shared : HostLink.Settler) : Prop where
  id : own.id = shared.id
  ticket : places.Ticket own.ticket shared.ticket
  settled : own.settled = shared.settled

/-- A callback of the lone side together with its place in the session. -/
abbrev Twin : Type := { pair : CallbackRef × CallbackRef // places.Callback pair.1 pair.2 }

variable {places}

def Twin.own (twin : places.Twin) : CallbackRef := twin.1.1

def Twin.shared (twin : places.Twin) : CallbackRef := twin.1.2

variable (places)

/-- The links agree in everything but the places of their callbacks. -/
def Links (own shared : HostLink.Link CallbackRef) : Prop :=
  ∃ twins : HostLink.Link places.Twin, twins.Numbered ∧
    twins.map Twin.own = own ∧ twins.map Twin.shared = shared

/-- The places stay, and there may be more. -/
structure Grows (before after : Places) : Prop where
  links : before.links <+: after.links
  callbacks : before.callbacks <+: after.callbacks
  detached : before.detached <+: after.detached

/-- No place belongs to both sides. -/
structure Apart (first second : Places) : Prop where
  links : ∀ place ∈ first.links, place ∉ second.links
  callbacks : ∀ place ∈ first.callbacks, place ∉ second.callbacks
  detached : ∀ place ∈ first.detached, place ∉ second.detached

variable {places}

theorem Apart.symm {first second : Places} (h : first.Apart second) : second.Apart first :=
  ⟨fun place hmem hother => h.links place hother hmem,
    fun place hmem hother => h.callbacks place hother hmem,
    fun place hmem hother => h.detached place hother hmem⟩

theorem getElem?_of_prefix {α : Type} {before after : List α} (h : before <+: after) {index : Nat}
    {item : α} (hitem : before[index]? = some item) : after[index]? = some item := by
  obtain ⟨more, rfl⟩ := h
  rw [List.getElem?_append_left (List.getElem?_eq_some_iff.1 hitem).1, hitem]

namespace Grows

variable {before after : Places}

theorem refl (places : Places) : places.Grows places :=
  ⟨List.prefix_refl _, List.prefix_refl _, List.prefix_refl _⟩

theorem trans {first second third : Places} (h : first.Grows second) (h' : second.Grows third) :
    first.Grows third :=
  ⟨h.links.trans h'.links, h.callbacks.trans h'.callbacks, h.detached.trans h'.detached⟩

variable (h : before.Grows after)
include h

theorem link {own shared : LinkIndex} (hlink : before.Link own shared) : after.Link own shared :=
  getElem?_of_prefix h.links hlink

theorem callback {own shared : CallbackRef} (hcallback : before.Callback own shared) :
    after.Callback own shared :=
  getElem?_of_prefix h.callbacks hcallback

theorem ticket {own shared : HostLink.Ticket} (hticket : before.Ticket own shared) :
    after.Ticket own shared :=
  getElem?_of_prefix h.detached hticket

theorem handle {own shared : BridgeHandle} (hhandle : before.Handle own shared) :
    after.Handle own shared :=
  ⟨h.link hhandle.link, hhandle.facade⟩

theorem reply {own shared : ReplyRef} (hreply : before.Reply own shared) :
    after.Reply own shared := by
  cases hreply with
  | ofBridge hlink ticket => exact .ofBridge (h.link hlink) ticket
  | detached hticket => exact .detached (h.ticket hticket)

theorem settler {own shared : HostLink.Settler} (hsettler : before.Settler own shared) :
    after.Settler own shared :=
  ⟨hsettler.id, h.ticket hsettler.ticket, hsettler.settled⟩

theorem sameLinks {own shared : HostLink.Link CallbackRef} (hlinks : before.Links own shared) :
    after.Links own shared := by
  obtain ⟨twins, numbered, rfl, rfl⟩ := hlinks
  refine ⟨twins.map fun twin => ⟨twin.1, h.callback twin.2⟩, numbered.map _, ?_, ?_⟩
  · rw [Link.map_map]
    rfl
  · rw [Link.map_map]
    rfl

end Grows
end Places

/-! ## Two worlds -/

/-- What a world has, apart from the time and from what the present step brings. -/
structure Inventory where
  links : List (Link CallbackRef)
  callbacks : List Callback
  detached : List Reply
  transports : Fields LinkIndex
  natives : Fields LinkIndex
  bridges : Fields BridgeHandle
  replies : Fields ReplyRef
  settlers : Fields Settler
  subscriptions : Fields SubscriptionId

abbrev World.inventory (world : World) : Inventory where
  links := world.links
  callbacks := world.callbacks
  detached := world.detached
  transports := world.transports
  natives := world.natives
  bridges := world.bridges
  replies := world.replies
  settlers := world.settlers
  subscriptions := world.subscriptions

/-- What the side that has the names of a part owns by itself, it has in the session too, in the
given places. -/
structure Side (part : Name → Bool) (places : Places) (own shared : Inventory) : Prop where
  links : Placed places.Links places.links own.links shared.links
  callbacks : Placed Eq places.callbacks own.callbacks shared.callbacks
  detached : Placed Eq places.detached own.detached shared.detached
  transports : Shared (fun name => part (.transport name)) places.Link
    own.transports shared.transports
  natives : Shared (fun name => part (.native name)) places.Link own.natives shared.natives
  bridges : Shared (fun name => part (.bridge name)) places.Handle own.bridges shared.bridges
  replies : Shared (fun name => part (.reply name)) places.Reply own.replies shared.replies
  settlers : Shared (fun name => part (.settler name)) places.Settler
    own.settlers shared.settlers
  subscriptions : Shared (fun name => part (.subscription name)) Eq
    own.subscriptions shared.subscriptions

/-- With more places there may be more links, callbacks and detached replies. -/
theorem Side.grown {part : Name → Bool} {places after : Places} {own shared : Inventory}
    (h : Side part places own shared) (hgrows : places.Grows after)
    {links others : List (Link CallbackRef)} {callbacks further : List Callback}
    {detached more : List Reply} (hlinks : Placed after.Links after.links links others)
    (hcallbacks : Placed Eq after.callbacks callbacks further)
    (hdetached : Placed Eq after.detached detached more) :
    Side part after { own with links, callbacks, detached }
      { shared with links := others, callbacks := further, detached := more } where
  links := hlinks
  callbacks := hcallbacks
  detached := hdetached
  transports := h.transports.mono fun _ _ => hgrows.link
  natives := h.natives.mono fun _ _ => hgrows.link
  bridges := h.bridges.mono fun _ _ => hgrows.handle
  replies := h.replies.mono fun _ _ => hgrows.reply
  settlers := h.settlers.mono fun _ _ => hgrows.settler
  subscriptions := h.subscriptions

/-- What stands by while a side takes a step: the part of the names that are its own, and the other
side with its places; and the time from which the clock goes on. -/
structure Company where
  part : Name → Bool
  elsewhere : Places
  others : Inventory
  since : Instant

/-- The world of one side and the world of the session, while a step of that side runs in both.  The
callbacks of the side have no more scripts left than the budget says. -/
structure Tandem (company : Company) (budget : Nat) (places : Places) (own shared : World) :
    Prop where
  side : Side company.part places own.inventory shared.inventory
  others : Side (fun name => !company.part name) company.elsewhere company.others shared.inventory
  apart : places.Apart company.elsewhere
  now : own.now = shared.now
  since : company.since ≤ own.now
  pins : List.Forall₂ places.Link own.pins shared.pins
  ready : List.Forall₂ places.Link own.ready shared.ready
  events : own.events = shared.events
  log : own.log = shared.log
  scripts : own.scriptCount ≤ budget

/-- The worlds go in tandem, perhaps with more places than there were. -/
def Onward (company : Company) (budget : Nat) (places : Places) (own shared : World) : Prop :=
  ∃ after, places.Grows after ∧ Tandem company budget after own shared

/-- Both worlds give the same answer and go on in tandem. -/
structure Agree {α : Type} (company : Company) (budget : Nat) (places : Places)
    (own shared : α × World) : Prop where
  answer : own.1 = shared.1
  worlds : Onward company budget places own.2 shared.2

theorem Agree.exists_worlds {α : Type} {company : Company} {budget : Nat} {places : Places}
    {own shared : α × World} (h : Agree company budget places own shared) :
    ∃ answer ownAfter sharedAfter, own = (answer, ownAfter) ∧ shared = (answer, sharedAfter) ∧
      Onward company budget places ownAfter sharedAfter :=
  ⟨own.1, own.2, shared.2, rfl, Prod.ext h.answer.symm rfl, h.worlds⟩

namespace Tandem

variable {company : Company} {budget : Nat} {places : Places} {own shared : World}
  {index place : LinkIndex}

theorem onward (h : Tandem company budget places own shared) :
    Onward company budget places own shared :=
  ⟨places, .refl places, h⟩

theorem agree {α : Type} {answer : α} (h : Tandem company budget places own shared) :
    Agree company budget places (answer, own) (answer, shared) :=
  ⟨rfl, h.onward⟩

variable (h : Tandem company budget places own shared)
include h

/-! ## Notes and time -/

theorem note (event : Event) :
    Tandem company budget places (own.note event) (shared.note event) :=
  ⟨h.side, h.others, h.apart, h.now, h.since, h.pins, h.ready,
    congrArg (· ++ [event]) h.events, h.log, h.scripts⟩

theorem write (log : List LogEvent) :
    Tandem company budget places (own.write log) (shared.write log) :=
  ⟨h.side, h.others, h.apart, h.now, h.since, h.pins, h.ready, h.events,
    congrArg (· ++ log) h.log, h.scripts⟩

theorem advance (time : Nanoseconds) :
    Tandem company budget places { own with now := own.now + time }
      { shared with now := shared.now + time } :=
  ⟨h.side, h.others, h.apart, congrArg (· + time) h.now, Nat.le_add_right_of_le h.since, h.pins,
    h.ready, h.events, h.log, h.scripts⟩

/-! ## Links -/

/-- Links in the same place come from one link. -/
theorem exists_twins (hlink : places.Link index place) :
    ∃ twins : Link places.Twin, twins.Numbered ∧
      own.links[index]? = some (twins.map Places.Twin.own) ∧
      shared.links[place]? = some (twins.map Places.Twin.shared) := by
  obtain ⟨_, _, hown, hshared, twins, numbered, rfl, rfl⟩ := h.side.links.items index place hlink
  exact ⟨twins, numbered, hown, hshared⟩

theorem link_eq_iff (hlink : places.Link index place) {other there : LinkIndex}
    (hother : places.Link other there) : other = index ↔ there = place :=
  h.side.links.inj hother hlink

theorem setLink (hlink : places.Link index place) {twins : Link places.Twin}
    (numbered : twins.Numbered) :
    Tandem company budget places (own.setLink index (twins.map Places.Twin.own))
      (shared.setLink place (twins.map Places.Twin.shared)) := by
  have helsewhere : place ∉ company.elsewhere.links :=
    h.apart.links place (List.mem_of_getElem? hlink)
  exact ⟨{ h.side with links := h.side.links.set hlink ⟨twins, numbered, rfl, rfl⟩ },
    { h.others with links := h.others.links.set_other helsewhere _ },
    h.apart, h.now, h.since, h.pins, h.ready, h.events, h.log, h.scripts⟩

/-! ## Who holds what -/

theorem not_elsewhere (hlink : places.Link index place) {other : LinkIndex} :
    ¬company.elsewhere.Link other place := fun hother =>
  h.apart.links place (List.mem_of_getElem? hlink) (List.mem_of_getElem? hother)

theorem mem_pins_iff (hlink : places.Link index place) :
    index ∈ own.pins ↔ place ∈ shared.pins := by
  have hpins := h.pins
  generalize own.pins = pins, shared.pins = held at hpins
  induction hpins with
  | nil => exact iff_of_false List.not_mem_nil List.not_mem_nil
  | cons hfirst hrest ih =>
    rw [List.mem_cons, List.mem_cons]
    refine or_congr ?_ ih
    rw [eq_comm, h.link_eq_iff hlink hfirst, eq_comm]

theorem holdsBridge_eq (hlink : places.Link index place) :
    own.holdsBridge index = shared.holdsBridge place := by
  have hnamed := h.side.bridges.any_eq h.others.bridges
    (f := fun handle => decide (handle.link = index))
    (g := fun handle => decide (handle.link = place))
    (fun handle other hhandle => decide_eq_decide.2 (h.link_eq_iff hlink hhandle.link))
    fun handle other hhandle => decide_eq_false fun heq =>
      h.not_elsewhere hlink (heq ▸ hhandle.link)
  have hpinned : own.pins.contains index = shared.pins.contains place := by
    rw [Bool.eq_iff_iff, List.contains_iff_mem, List.contains_iff_mem]
    exact h.mem_pins_iff hlink
  unfold World.holdsBridge
  rw [hpinned]
  exact congrArg (· || shared.pins.contains place) hnamed

theorem holdsTransport_eq (hlink : places.Link index place) :
    own.holdsTransport index = shared.holdsTransport place := by
  have hnamed := h.side.transports.any_eq h.others.transports
    (f := fun pointer => decide (pointer = index)) (g := fun pointer => decide (pointer = place))
    (fun pointer other hpointer => decide_eq_decide.2 (h.link_eq_iff hlink hpointer))
    fun pointer other hpointer => decide_eq_false fun heq =>
      h.not_elsewhere hlink (heq ▸ hpointer)
  obtain ⟨twins, -, hown, hshared⟩ := h.exists_twins hlink
  unfold World.holdsTransport
  rw [hown, hshared, Option.any_some, Option.any_some, Link.hasLiveBridge_map,
    Link.hasLiveBridge_map]
  exact congrArg (· || twins.hasLiveBridge) hnamed

theorem closeIfUnheld (hlink : places.Link index place) :
    Tandem company budget places (own.closeIfUnheld index) (shared.closeIfUnheld place) := by
  obtain ⟨twins, numbered, hown, hshared⟩ := h.exists_twins hlink
  unfold World.closeIfUnheld
  rw [hown, hshared, h.holdsBridge_eq hlink]
  dsimp only
  split
  · exact h
  · rw [Link.closeBridge_map, Link.closeBridge_map]
    exact h.setLink hlink numbered.closeBridge

theorem pin (hlink : places.Link index place) :
    Tandem company budget places (own.pin index) (shared.pin place) :=
  ⟨h.side, h.others, h.apart, h.now, h.since, .cons hlink h.pins, h.ready, h.events, h.log,
    h.scripts⟩

theorem erase_pins (hlink : places.Link index place) :
    List.Forall₂ places.Link (own.pins.erase index) (shared.pins.erase place) := by
  have hpins := h.pins
  generalize own.pins = pins, shared.pins = held at hpins
  induction hpins with
  | nil => exact .nil
  | @cons first there rest others hfirst hrest ih =>
    by_cases heq : first = index
    · have hthere := (h.link_eq_iff hlink hfirst).1 heq
      rw [heq, hthere, List.erase_cons_head, List.erase_cons_head]
      exact hrest
    · have hthere : there ≠ place := fun hthere => heq ((h.link_eq_iff hlink hfirst).2 hthere)
      rw [List.erase_cons_tail (by simpa using heq), List.erase_cons_tail (by simpa using hthere)]
      exact .cons hfirst ih

theorem unpin (hlink : places.Link index place) :
    Tandem company budget places (own.unpin index) (shared.unpin place) := by
  have herased : Tandem company budget places { own with pins := own.pins.erase index }
      { shared with pins := shared.pins.erase place } :=
    ⟨h.side, h.others, h.apart, h.now, h.since, h.erase_pins hlink, h.ready, h.events, h.log,
      h.scripts⟩
  exact herased.closeIfUnheld hlink

/-! ## Pumps -/

/-- A pump gets a turn. -/
theorem summon (hlink : places.Link index place) :
    Tandem company budget places { own with ready := own.ready ++ [index] }
      { shared with ready := shared.ready ++ [place] } :=
  ⟨h.side, h.others, h.apart, h.now, h.since, h.pins, List.rel_append h.ready (.cons hlink .nil),
    h.events, h.log, h.scripts⟩

theorem wakePump (hlink : places.Link index place) :
    Tandem company budget places (own.wakePump index) (shared.wakePump place) := by
  obtain ⟨twins, numbered, hown, hshared⟩ := h.exists_twins hlink
  unfold World.wakePump
  rw [hown, hshared]
  dsimp only
  rw [Link.channel?_map, Link.channel?_map]
  cases twins.channel? with
  | none => exact h
  | some channel =>
    dsimp only
    split
    · exact (h.setLink hlink (numbered.withTransport _)).summon hlink
    · exact h

theorem closeEndpoint (hlink : places.Link index place) :
    Tandem company budget places (own.closeEndpoint index) (shared.closeEndpoint place) := by
  obtain ⟨twins, numbered, hown, hshared⟩ := h.exists_twins hlink
  unfold World.closeEndpoint
  rw [hown, hshared]
  dsimp only
  rw [Link.channel?_map, Link.channel?_map]
  cases twins.channel? with
  | none => exact h
  | some channel =>
    exact (h.setLink hlink (numbered.withTransport _)).wakePump hlink

end Tandem
end HostLink
