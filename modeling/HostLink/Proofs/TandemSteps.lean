import HostLink.Proofs.Doings
import HostLink.Proofs.SubscriptionLedger
import HostLink.Proofs.Tandem

/-!
# Steps in tandem

A step of one side does in the session what it does when the side is alone, and answers the same
(`Tandem.agree_perform`).  It needs no more of the two worlds than that they go in tandem, and of
the step no more than that its names belong to the side, for everything that a step reaches it
reaches from a name.

As in `HostLink.Proofs.Sessions`, calls of callbacks come in as an argument.  They may be different
functions in the two worlds: what is asked of them is that they keep the worlds in tandem
(`Tandem.Keeps`).
-/

namespace HostLink

/-- A subscribe that fails may use up an id, and that is all. -/
theorem Bridge.subscribe_of_error {κ : Type} {bridge : Bridge κ}
    (numbered : bridge.registry.Numbered) {transport : Transport} {event : String} {callback : κ}
    {error : BridgeError} (h : (bridge.subscribe transport event callback).answer = .error error) :
    ∃ issued, bridge.registry.issued ≤ issued ∧
      (bridge.subscribe transport event callback).bridge =
        { bridge with registry := { bridge.registry with issued } } := by
  obtain ⟨hsubscriptions, hissued⟩ :=
    registry_subscribe_of_error bridge transport callback numbered h
  obtain ⟨⟨subscriptions, issued⟩, hbridge⟩ :=
    Station.subscribe_bridge bridge transport event callback
  rw [hbridge] at hsubscriptions hissued
  obtain rfl : subscriptions = bridge.registry.subscriptions := hsubscriptions
  exact ⟨issued, hissued, hbridge⟩

namespace Tandem

variable {company : Company} {budget : Nat} {places : Places} {own shared : World}
  {index place : LinkIndex} {name : String}

/-! ## Names -/

section tables

variable (h : Tandem company budget places own shared)
include h

theorem withTransports {table other : Fields LinkIndex}
    (hside : Shared (fun name => company.part (.transport name)) places.Link table other)
    (hothers : Shared (fun name => !company.part (.transport name)) company.elsewhere.Link
      company.others.transports other) :
    Tandem company budget places { own with transports := table }
      { shared with transports := other } :=
  ⟨{ h.side with transports := hside }, { h.others with transports := hothers }, h.apart, h.now,
    h.since, h.pins, h.ready, h.events, h.log, h.scripts⟩

theorem withNatives {table other : Fields LinkIndex}
    (hside : Shared (fun name => company.part (.native name)) places.Link table other)
    (hothers : Shared (fun name => !company.part (.native name)) company.elsewhere.Link
      company.others.natives other) :
    Tandem company budget places { own with natives := table }
      { shared with natives := other } :=
  ⟨{ h.side with natives := hside }, { h.others with natives := hothers }, h.apart, h.now,
    h.since, h.pins, h.ready, h.events, h.log, h.scripts⟩

theorem withBridges {table other : Fields BridgeHandle}
    (hside : Shared (fun name => company.part (.bridge name)) places.Handle table other)
    (hothers : Shared (fun name => !company.part (.bridge name)) company.elsewhere.Handle
      company.others.bridges other) :
    Tandem company budget places { own with bridges := table }
      { shared with bridges := other } :=
  ⟨{ h.side with bridges := hside }, { h.others with bridges := hothers }, h.apart, h.now,
    h.since, h.pins, h.ready, h.events, h.log, h.scripts⟩

theorem withReplies {table other : Fields ReplyRef}
    (hside : Shared (fun name => company.part (.reply name)) places.Reply table other)
    (hothers : Shared (fun name => !company.part (.reply name)) company.elsewhere.Reply
      company.others.replies other) :
    Tandem company budget places { own with replies := table }
      { shared with replies := other } :=
  ⟨{ h.side with replies := hside }, { h.others with replies := hothers }, h.apart, h.now,
    h.since, h.pins, h.ready, h.events, h.log, h.scripts⟩

theorem withSettlers {table other : Fields Settler}
    (hside : Shared (fun name => company.part (.settler name)) places.Settler table other)
    (hothers : Shared (fun name => !company.part (.settler name)) company.elsewhere.Settler
      company.others.settlers other) :
    Tandem company budget places { own with settlers := table }
      { shared with settlers := other } :=
  ⟨{ h.side with settlers := hside }, { h.others with settlers := hothers }, h.apart, h.now,
    h.since, h.pins, h.ready, h.events, h.log, h.scripts⟩

theorem withSubscriptions {table other : Fields SubscriptionId}
    (hside : Shared (fun name => company.part (.subscription name)) Eq table other)
    (hothers : Shared (fun name => !company.part (.subscription name)) Eq
      company.others.subscriptions other) :
    Tandem company budget places { own with subscriptions := table }
      { shared with subscriptions := other } :=
  ⟨{ h.side with subscriptions := hside }, { h.others with subscriptions := hothers }, h.apart,
    h.now, h.since, h.pins, h.ready, h.events, h.log, h.scripts⟩

theorem storeBridge (hname : company.part (.bridge name) = true) {handle other : BridgeHandle}
    (hhandle : places.Handle handle other) :
    Tandem company budget places (own.storeBridge name handle)
      (shared.storeBridge name other) := by
  have hstored := h.withBridges (h.side.bridges.insert hname hhandle)
    (h.others.bridges.insert_other (by simp [hname]) other)
  unfold World.storeBridge
  obtain ⟨hown, hshared⟩ | ⟨old, before, hown, hshared, hold⟩ :=
    h.side.bridges.lookup_cases hname
  · rw [hown, hshared]
    exact hstored
  · rw [hown, hshared]
    exact hstored.closeIfUnheld hold.link

theorem storeNative (hname : company.part (.native name) = true)
    (hlink : places.Link index place) :
    Tandem company budget places (own.storeNative name index)
      (shared.storeNative name place) := by
  have hstored := h.withNatives (h.side.natives.insert hname hlink)
    (h.others.natives.insert_other (by simp [hname]) place)
  unfold World.storeNative
  obtain ⟨hown, hshared⟩ | ⟨old, before, hown, hshared, hold⟩ :=
    h.side.natives.lookup_cases hname
  · rw [hown, hshared]
    exact hstored
  · rw [hown, hshared]
    exact hstored.closeEndpoint hold

/-! ## Bridges -/

theorem setBridge (hlink : places.Link index place) {twins : Link places.Twin}
    {bridge : Bridge places.Twin} (numbered : bridge.registry.Numbered) :
    Tandem company budget places
      (own.setLink index ((twins.map Places.Twin.own).withBridge (bridge.map Places.Twin.own)))
      (shared.setLink place
        ((twins.map Places.Twin.shared).withBridge (bridge.map Places.Twin.shared))) :=
  h.setLink hlink (Link.numbered_withBridge numbered twins)

/-- Put in place a bridge and the log that it wrote. -/
theorem update (hlink : places.Link index place) {twins : Link places.Twin}
    {bridge : Bridge places.Twin} (numbered : bridge.registry.Numbered) (log : List LogEvent) :
    Tandem company budget places
      (own.update index (twins.map Places.Twin.own) (bridge.map Places.Twin.own) log)
      (shared.update place (twins.map Places.Twin.shared) (bridge.map Places.Twin.shared) log) :=
  (h.setBridge hlink numbered).write log

/-- Put in place what an operation of a bridge left behind. -/
theorem commit {α : Type} (hlink : places.Link index place) {acted : Acted places.Twin α}
    (numbered : acted.bridge.registry.Numbered) :
    Tandem company budget places (own.commit index (acted.map Places.Twin.own))
      (shared.commit place (acted.map Places.Twin.shared)) := by
  have hnumbered : Link.Numbered
      { transport := acted.transport, listener := .bridge acted.bridge } :=
    Link.numbered_withBridge numbered { transport := acted.transport }
  exact (h.setLink hlink hnumbered).write acted.log

/-! ## Replies and settlers -/

/-- A detached reply is modified. -/
theorem modifyDetached {ticket there : Ticket} (hticket : places.Ticket ticket there)
    (f : Reply → Reply) :
    Tandem company budget places { own with detached := own.detached.modify ticket f }
      { shared with detached := shared.detached.modify there f } := by
  have helsewhere : there ∉ company.elsewhere.detached :=
    h.apart.detached there (List.mem_of_getElem? hticket)
  exact ⟨{ h.side with detached := h.side.detached.modify hticket fun _ _ heq => congrArg f heq },
    { h.others with detached := h.others.detached.modify_other helsewhere f },
    h.apart, h.now, h.since, h.pins, h.ready, h.events, h.log, h.scripts⟩

/-- A detached reply is the same in both worlds. -/
theorem exists_detached {ticket there : Ticket} (hticket : places.Ticket ticket there) :
    ∃ reply, own.detached[ticket]? = some reply ∧ shared.detached[there]? = some reply := by
  obtain ⟨reply, _, hown, hshared, rfl⟩ := h.side.detached.items ticket there hticket
  exact ⟨reply, hown, hshared⟩

theorem releaseReply {reply other : ReplyRef} (hreply : places.Reply reply other) :
    Tandem company budget places (own.releaseReply reply) (shared.releaseReply other) := by
  cases hreply with
  | detached hticket => exact h.modifyDetached hticket Reply.release
  | ofBridge hlink ticket =>
    obtain ⟨twins, numbered, hown, hshared⟩ := h.exists_twins hlink
    unfold World.releaseReply
    dsimp only
    rw [hown, hshared]
    dsimp only
    rw [Link.bridge?_map, Link.bridge?_map]
    cases hbridge : twins.bridge? with
    | none => exact h
    | some bridge => exact h.setBridge hlink (numbered.perform hbridge 0 (.release ticket))

theorem storeReply (hname : company.part (.reply name) = true) {reply other : ReplyRef}
    (hreply : places.Reply reply other) :
    Tandem company budget places (own.storeReply name reply) (shared.storeReply name other) := by
  have hstored := h.withReplies (h.side.replies.insert hname hreply)
    (h.others.replies.insert_other (by simp [hname]) other)
  unfold World.storeReply
  obtain ⟨hown, hshared⟩ | ⟨old, before, hown, hshared, hold⟩ :=
    h.side.replies.lookup_cases hname
  · rw [hown, hshared]
    exact hstored
  · rw [hown, hshared]
    exact hstored.releaseReply hold

theorem unbindReply (hname : company.part (.reply name) = true) :
    Tandem company budget places { own with replies := Fields.erase name own.replies }
      { shared with replies := Fields.erase name shared.replies } :=
  h.withReplies (h.side.replies.erase name) (h.others.replies.erase_other (by simp [hname]))

theorem dropReply (hname : company.part (.reply name) = true) {reply other : ReplyRef}
    (hreply : places.Reply reply other) :
    Tandem company budget places (own.dropReply name reply) (shared.dropReply name other) :=
  (h.unbindReply hname).releaseReply hreply

theorem releaseSettler {settler other : Settler} (hsettler : places.Settler settler other) :
    Tandem company budget places (own.releaseSettler settler)
      (shared.releaseSettler other) := by
  unfold World.releaseSettler Settler.drop
  rw [hsettler.settled]
  by_cases hsettled : other.settled = true
  · rw [if_pos hsettled, if_pos hsettled]
    exact h
  · rw [if_neg hsettled, if_neg hsettled]
    exact h.modifyDetached hsettler.ticket Reply.abandon

theorem storeSettler (hname : company.part (.settler name) = true) {settler other : Settler}
    (hsettler : places.Settler settler other) :
    Tandem company budget places (own.storeSettler name settler)
      (shared.storeSettler name other) := by
  have hstored := h.withSettlers (h.side.settlers.insert hname hsettler)
    (h.others.settlers.insert_other (by simp [hname]) other)
  unfold World.storeSettler
  obtain ⟨hown, hshared⟩ | ⟨old, before, hown, hshared, hold⟩ :=
    h.side.settlers.lookup_cases hname
  · rw [hown, hshared]
    exact hstored
  · rw [hown, hshared]
    exact hstored.releaseSettler hold

/-- A reply that a name stands for is the same in both worlds. -/
theorem reply?_eq {reply other : ReplyRef} (hreply : places.Reply reply other) :
    own.reply? reply = shared.reply? other := by
  cases hreply with
  | detached hticket =>
    obtain ⟨found, hown, hshared⟩ := h.exists_detached hticket
    exact hown.trans hshared.symm
  | ofBridge hlink ticket =>
    obtain ⟨twins, -, hown, hshared⟩ := h.exists_twins hlink
    simp only [World.reply?, hown, hshared, Option.bind_some, Link.bridge?_map]
    cases twins.bridge? <;> rfl

theorem armReply (timeout : Nanoseconds) {reply other : ReplyRef}
    (hreply : places.Reply reply other) :
    Tandem company budget places (own.armReply timeout reply) (shared.armReply timeout other) := by
  cases hreply with
  | detached hticket =>
    have htime : own.now + timeout = shared.now + timeout := congrArg (· + timeout) h.now
    unfold World.armReply
    dsimp only
    rw [htime]
    exact h.modifyDetached hticket _
  | ofBridge hlink ticket =>
    obtain ⟨twins, numbered, hown, hshared⟩ := h.exists_twins hlink
    unfold World.armReply
    dsimp only
    rw [hown, hshared]
    dsimp only
    rw [Link.bridge?_map, Link.bridge?_map]
    cases hbridge : twins.bridge? with
    | none => exact h
    | some bridge =>
      dsimp only [Option.map_some]
      rw [Bridge.arm_map, Bridge.arm_map, h.now]
      exact h.setBridge hlink (numbered.perform hbridge shared.now (.arm ticket timeout))

theorem pollReply {reply other : ReplyRef} (hreply : places.Reply reply other) :
    Agree company budget places (own.pollReply reply) (shared.pollReply other) := by
  cases hreply with
  | detached hticket =>
    obtain ⟨found, hown, hshared⟩ := h.exists_detached hticket
    have houtcome : found.outcome? own.now = found.outcome? shared.now := by rw [h.now]
    unfold World.pollReply Reply.poll
    dsimp only
    rw [hown, hshared]
    dsimp only
    rw [houtcome]
    split
    · exact ((h.modifyDetached hticket Reply.watch).write []).agree
    · exact ((h.modifyDetached hticket Reply.release).write _).agree
    · exact ((h.modifyDetached hticket Reply.release).write []).agree
  | ofBridge hlink ticket =>
    obtain ⟨twins, numbered, hown, hshared⟩ := h.exists_twins hlink
    unfold World.pollReply
    dsimp only
    rw [hown, hshared]
    dsimp only
    rw [Link.bridge?_map, Link.bridge?_map]
    cases hbridge : twins.bridge? with
    | none => exact h.agree
    | some bridge =>
      dsimp only [Option.map_some]
      rw [Bridge.poll_map, Bridge.poll_map, h.now]
      exact (h.update hlink (numbered.perform hbridge shared.now (.poll ticket)) _).agree

theorem settle (hname : company.part (.settler name) = true) {settler other : Settler}
    (hsettler : places.Settler settler other) (outcome : Outcome) :
    Agree company budget places (own.settle name settler outcome)
      (shared.settle name other outcome) := by
  obtain ⟨found, hown, hshared⟩ := h.exists_detached hsettler.ticket
  have hlog : settler.unheldLog own.detached = other.unheldLog shared.detached := by
    unfold Settler.unheldLog
    rw [hown, hshared, hsettler.id]
  unfold World.settle Settler.settle
  by_cases hsettled : other.settled = true
  · rw [if_pos (hsettler.settled.trans hsettled), if_pos hsettled, hsettler.id]
    exact ((h.withSettlers (h.side.settlers.insert hname hsettler)
      (h.others.settlers.insert_other (by simp [hname]) other)).write []).agree
  · rw [if_neg (fun hown => hsettled (hsettler.settled.symm.trans hown)), if_neg hsettled, hlog]
    have hdone : places.Settler { settler with settled := true } { other with settled := true } :=
      ⟨hsettler.id, hsettler.ticket, rfl⟩
    have hmodified := h.modifyDetached hsettler.ticket (Reply.settle outcome)
    exact ((hmodified.withSettlers (h.side.settlers.insert hname hdone)
      (h.others.settlers.insert_other (by simp [hname]) _)).write _).agree

/-! ## New objects -/

/-- Both worlds get one more link. -/
theorem addLink (transport : Transport) :
    ∃ after, places.Grows after ∧ after.Link own.links.length shared.links.length ∧
      Tandem company budget after (own.addLink transport) (shared.addLink transport) := by
  have hnew : shared.links.length ∉ company.elsewhere.links := fun hmem =>
    Nat.lt_irrefl _ (h.others.links.place_lt hmem)
  let after : Places := { places with links := places.links ++ [shared.links.length] }
  have hgrows : places.Grows after :=
    ⟨List.prefix_append _ _, List.prefix_refl _, List.prefix_refl _⟩
  have hlinks : after.Links { transport } { transport } := ⟨{ transport }, nofun, rfl, rfl⟩
  exact ⟨after, hgrows, h.side.links.getElem?_push _,
    h.side.grown hgrows ((h.side.links.mono fun _ _ => hgrows.sameLinks).push hlinks)
      h.side.callbacks h.side.detached,
    { h.others with links := h.others.links.push_other _ },
    ⟨List.forall_mem_append.2 ⟨h.apart.links, List.forall_mem_singleton.2 hnew⟩,
      h.apart.callbacks, h.apart.detached⟩,
    h.now, h.since, h.pins.imp fun _ _ => hgrows.link, h.ready.imp fun _ _ => hgrows.link,
    h.events, h.log, h.scripts⟩

/-- Both worlds get one more callback. -/
theorem enlist (callback : Callback) {after : Places}
    (hafter : after = { places with callbacks := places.callbacks ++ [shared.callbacks.length] })
    (hscripts : own.scriptCount + scriptCountOfScripts callback.scripts ≤ budget) :
    Tandem company budget after { own with callbacks := own.callbacks ++ [callback] }
      { shared with callbacks := shared.callbacks ++ [callback] } := by
  subst hafter
  have hnew : shared.callbacks.length ∉ company.elsewhere.callbacks := fun hmem =>
    Nat.lt_irrefl _ (h.others.callbacks.place_lt hmem)
  have hgrows : places.Grows { places with
      callbacks := places.callbacks ++ [shared.callbacks.length] } :=
    ⟨List.prefix_refl _, List.prefix_append _ _, List.prefix_refl _⟩
  refine ⟨h.side.grown hgrows (h.side.links.mono fun _ _ => hgrows.sameLinks)
      (h.side.callbacks.push rfl) h.side.detached,
    { h.others with callbacks := h.others.callbacks.push_other _ },
    ⟨h.apart.links, List.forall_mem_append.2 ⟨h.apart.callbacks, List.forall_mem_singleton.2 hnew⟩,
      h.apart.detached⟩,
    h.now, h.since, h.pins.imp fun _ _ => hgrows.link, h.ready.imp fun _ _ => hgrows.link,
    h.events, h.log, ?_⟩
  rw [World.scriptCount, List.foldl_append]
  exact hscripts

/-- Both worlds get one more detached reply. -/
theorem addDetached (reply : Reply) :
    ∃ after, places.Grows after ∧ after.Ticket own.detached.length shared.detached.length ∧
      Tandem company budget after { own with detached := own.detached ++ [reply] }
        { shared with detached := shared.detached ++ [reply] } := by
  have hnew : shared.detached.length ∉ company.elsewhere.detached := fun hmem =>
    Nat.lt_irrefl _ (h.others.detached.place_lt hmem)
  let after : Places := { places with detached := places.detached ++ [shared.detached.length] }
  have hgrows : places.Grows after :=
    ⟨List.prefix_refl _, List.prefix_refl _, List.prefix_append _ _⟩
  exact ⟨after, hgrows, h.side.detached.getElem?_push _,
    h.side.grown hgrows (h.side.links.mono fun _ _ => hgrows.sameLinks)
      h.side.callbacks (h.side.detached.push rfl),
    { h.others with detached := h.others.detached.push_other _ },
    ⟨h.apart.links, h.apart.callbacks,
      List.forall_mem_append.2 ⟨h.apart.detached, List.forall_mem_singleton.2 hnew⟩⟩,
    h.now, h.since, h.pins.imp fun _ _ => hgrows.link, h.ready.imp fun _ _ => hgrows.link,
    h.events, h.log, h.scripts⟩

/-! ## Objects by name -/

theorem onTransport (hname : company.part (.transport name) = true)
    {act act' : LinkIndex → Link CallbackRef → Answer × World}
    (hact : ∀ {index place} {twins : Link places.Twin}, places.Link index place →
      twins.Numbered → Agree company budget places (act index (twins.map Places.Twin.own))
        (act' place (twins.map Places.Twin.shared))) :
    Agree company budget places (own.onTransport name act) (shared.onTransport name act') := by
  unfold World.onTransport
  obtain ⟨hown, hshared⟩ | ⟨index, place, hown, hshared, hlink⟩ :=
    h.side.transports.lookup_cases hname
  · rw [hown, hshared]
    exact h.agree
  · rw [hown, hshared]
    obtain ⟨twins, numbered, hown, hshared⟩ := h.exists_twins hlink
    dsimp only
    rw [hown, hshared]
    exact hact hlink numbered

/-- Act on a native side, with what stands in the session. -/
theorem onFoundNative (hname : company.part (.native name) = true)
    {act act' : LinkIndex → Link CallbackRef → Answer × World}
    (hact : ∀ {index place} {twins : Link places.Twin}, places.Link index place →
      twins.Numbered → Fields.lookup name shared.natives = some place →
      shared.links[place]? = some (twins.map Places.Twin.shared) →
      Agree company budget places (act index (twins.map Places.Twin.own))
        (act' place (twins.map Places.Twin.shared))) :
    Agree company budget places (own.onNative name act) (shared.onNative name act') := by
  unfold World.onNative
  obtain ⟨hown, hnone⟩ | ⟨index, place, hown, hsome, hlink⟩ :=
    h.side.natives.lookup_cases hname
  · rw [hown, hnone]
    exact h.agree
  · obtain ⟨twins, numbered, hfound, hshared⟩ := h.exists_twins hlink
    rw [hown, hsome]
    dsimp only
    rw [hfound, hshared]
    exact hact hlink numbered hsome hshared

theorem onNative (hname : company.part (.native name) = true)
    {act act' : LinkIndex → Link CallbackRef → Answer × World}
    (hact : ∀ {index place} {twins : Link places.Twin}, places.Link index place →
      twins.Numbered → Agree company budget places (act index (twins.map Places.Twin.own))
        (act' place (twins.map Places.Twin.shared))) :
    Agree company budget places (own.onNative name act) (shared.onNative name act') :=
  h.onFoundNative hname fun hlink numbered _ _ => hact hlink numbered

theorem onHost (hname : company.part (.native name) = true)
    {act act' : LinkIndex → Link CallbackRef → MemoryHost → Answer × World}
    (hact : ∀ {index place} {twins : Link places.Twin} (host : MemoryHost),
      places.Link index place → twins.Numbered →
      Agree company budget places (act index (twins.map Places.Twin.own) host)
        (act' place (twins.map Places.Twin.shared) host)) :
    Agree company budget places (own.onHost name act) (shared.onHost name act') := by
  refine h.onNative hname fun {index place twins} hlink numbered => ?_
  rw [Link.host?_map, Link.host?_map]
  cases twins.host? with
  | none => exact h.agree
  | some host => exact hact host hlink numbered

theorem onEndpoint (hname : company.part (.native name) = true)
    {act act' : LinkIndex → Link CallbackRef → Channel → Answer × World}
    (hact : ∀ {index place} {twins : Link places.Twin} (channel : Channel),
      places.Link index place → twins.Numbered →
      Agree company budget places (act index (twins.map Places.Twin.own) channel)
        (act' place (twins.map Places.Twin.shared) channel)) :
    Agree company budget places (own.onEndpoint name act) (shared.onEndpoint name act') := by
  refine h.onNative hname fun {index place twins} hlink numbered => ?_
  rw [Link.channel?_map, Link.channel?_map]
  cases twins.channel? with
  | none => exact h.agree
  | some channel => exact hact channel hlink numbered

/-- Act on a bridge; in the session a delivery to that bridge would be opened there too. -/
theorem onOpenBridge (hname : company.part (.bridge name) = true)
    {act act' : BridgeHandle → Link CallbackRef → Bridge CallbackRef → Answer × World}
    (hact : ∀ {handle other} {twins : Link places.Twin} {bridge : Bridge places.Twin},
      places.Handle handle other → twins.Numbered → twins.bridge? = some bridge →
      (∀ opens, shared.bridgeOpening? name opens =
        some (opens other (twins.map Places.Twin.shared) (bridge.map Places.Twin.shared))) →
      Agree company budget places
        (act handle (twins.map Places.Twin.own) (bridge.map Places.Twin.own))
        (act' other (twins.map Places.Twin.shared) (bridge.map Places.Twin.shared))) :
    Agree company budget places (own.onBridge name act) (shared.onBridge name act') := by
  unfold World.onBridge
  obtain ⟨hown, hnone⟩ | ⟨handle, other, hown, hsome, hhandle⟩ :=
    h.side.bridges.lookup_cases hname
  · rw [hown, hnone]
    exact h.agree
  · obtain ⟨twins, numbered, hlink, hshared⟩ := h.exists_twins hhandle.link
    rw [hown, hsome]
    dsimp only
    rw [hlink, hshared]
    dsimp only
    rw [Link.bridge?_map, Link.bridge?_map]
    cases hbridge : twins.bridge? with
    | none => exact h.agree
    | some bridge =>
      refine hact hhandle numbered hbridge fun opens => ?_
      unfold World.bridgeOpening?
      rw [hsome, Option.bind_some, hshared, Option.bind_some, Link.bridge?_map, hbridge]
      rfl

theorem onBridge (hname : company.part (.bridge name) = true)
    {act act' : BridgeHandle → Link CallbackRef → Bridge CallbackRef → Answer × World}
    (hact : ∀ {handle other} {twins : Link places.Twin} {bridge : Bridge places.Twin},
      places.Handle handle other → twins.Numbered → twins.bridge? = some bridge →
      Agree company budget places
        (act handle (twins.map Places.Twin.own) (bridge.map Places.Twin.own))
        (act' other (twins.map Places.Twin.shared) (bridge.map Places.Twin.shared))) :
    Agree company budget places (own.onBridge name act) (shared.onBridge name act') :=
  h.onOpenBridge hname fun hhandle numbered hbridge _ => hact hhandle numbered hbridge

theorem onReply (hname : company.part (.reply name) = true)
    {act act' : ReplyRef → Answer × World}
    (hact : ∀ {reply other}, places.Reply reply other →
      Agree company budget places (act reply) (act' other)) :
    Agree company budget places (own.onReply name act) (shared.onReply name act') := by
  unfold World.onReply
  obtain ⟨hown, hshared⟩ | ⟨reply, other, hown, hshared, hreply⟩ :=
    h.side.replies.lookup_cases hname
  · rw [hown, hshared]
    exact h.agree
  · rw [hown, hshared]
    exact hact hreply

theorem onSettler (hname : company.part (.settler name) = true)
    {act act' : Settler → Answer × World}
    (hact : ∀ {settler other}, places.Settler settler other →
      Agree company budget places (act settler) (act' other)) :
    Agree company budget places (own.onSettler name act) (shared.onSettler name act') := by
  unfold World.onSettler
  obtain ⟨hown, hshared⟩ | ⟨settler, other, hown, hshared, hsettler⟩ :=
    h.side.settlers.lookup_cases hname
  · rw [hown, hshared]
    exact h.agree
  · rw [hown, hshared]
    exact hact hsettler

/-! ## Parts of steps -/

theorem createTransport (htransport : company.part (.transport name) = true)
    (hnative : company.part (.native name) = true) (transport : Transport) :
    Onward company budget places (own.createTransport name transport)
      (shared.createTransport name transport) := by
  obtain ⟨after, hgrows, hlink, hadded⟩ := h.addLink transport
  exact ⟨after, hgrows, (hadded.withTransports (hadded.side.transports.insert htransport hlink)
    (hadded.others.transports.insert_other (by simp [htransport]) _)).storeNative hnative hlink⟩

theorem installListener (hlink : places.Link index place) {twins : Link places.Twin}
    (numbered : twins.Numbered) (runtime : Bool) {listener : Listener places.Twin}
    (hlistener : Link.Numbered { twins with listener }) :
    Agree company budget places
      (own.installListener index (twins.map Places.Twin.own) runtime
        (listener.map Places.Twin.own))
      (shared.installListener place (twins.map Places.Twin.shared) runtime
        (listener.map Places.Twin.shared)) := by
  have hinstalled := numbered.install hlistener runtime
  unfold World.installListener
  rw [Link.install_map, Link.install_map]
  generalize twins.install runtime listener = acted at hinstalled
  obtain ⟨result, installed⟩ := acted
  cases result with
  | error error => exact h.agree
  | ok =>
    have hlistening := h.setLink hlink hinstalled
    dsimp only
    rw [Link.channel?_map, Link.channel?_map]
    cases installed.channel?.isSome with
    | true => exact (hlistening.summon hlink).agree
    | false => exact hlistening.agree

theorem openBridge (hname : company.part (.bridge name) = true)
    (hlink : places.Link index place) {twins : Link places.Twin} (numbered : twins.Numbered)
    (runtime : Bool) (config : Config) (facade : Option Facade) :
    Agree company budget places
      (own.openBridge index (twins.map Places.Twin.own) runtime config name facade)
      (shared.openBridge place (twins.map Places.Twin.shared) runtime config name facade) := by
  have hinstalled : Agree company budget places
      (own.installListener index (twins.map Places.Twin.own) runtime (.bridge { config }))
      (shared.installListener place (twins.map Places.Twin.shared) runtime (.bridge { config })) :=
    h.installListener hlink numbered runtime (Link.numbered_new twins config)
  obtain ⟨result, _, _, hown, hshared, after, hgrows, hopened⟩ := hinstalled.exists_worlds
  unfold World.openBridge
  rw [hown, hshared]
  cases result with
  | error error => exact h.agree
  | ok =>
    exact ⟨rfl, after, hgrows, (hopened.write _).storeBridge hname ⟨hgrows.link hlink, rfl⟩⟩

theorem send (hname : company.part (.reply name) = true) {handle other : BridgeHandle}
    (hhandle : places.Handle handle other) {twins : Link places.Twin} (numbered : twins.Numbered)
    {bridge : Bridge places.Twin} (hbridge : twins.bridge? = some bridge) (command : String)
    (payload : Datum) (timeout : Option Nanoseconds) :
    Agree company budget places
      (own.send handle (twins.map Places.Twin.own) (bridge.map Places.Twin.own) name command
        payload timeout)
      (shared.send other (twins.map Places.Twin.shared) (bridge.map Places.Twin.shared) name command
        payload timeout) := by
  unfold World.send
  rw [Bridge.send_map, Bridge.send_map, h.now]
  have hsent := h.commit hhandle.link
    (numbered.perform hbridge shared.now (.send command payload timeout))
  exact (hsent.storeReply hname (.ofBridge hhandle.link _)).agree

theorem describe {handle other : BridgeHandle} (hhandle : places.Handle handle other)
    {twins : Link places.Twin} (numbered : twins.Numbered) {bridge : Bridge places.Twin}
    (hbridge : twins.bridge? = some bridge) :
    Agree company budget places
      (own.describe handle (twins.map Places.Twin.own) (bridge.map Places.Twin.own))
      (shared.describe other (twins.map Places.Twin.shared) (bridge.map Places.Twin.shared)) := by
  unfold World.describe
  rw [Bridge.pendingCount_map, Bridge.pendingCount_map, h.now, hhandle.facade]
  dsimp only
  rw [Bridge.registry_map, Bridge.registry_map, Registry.size_map, Registry.size_map]
  exact (h.update hhandle.link (numbered.perform hbridge shared.now .pendingCount) _).agree

theorem endpointReceive (hlink : places.Link index place) {twins : Link places.Twin}
    (numbered : twins.Numbered) (channel : Channel) (answer : String → Answer) :
    Agree company budget places
      (own.endpointReceive index (twins.map Places.Twin.own) channel answer)
      (shared.endpointReceive place (twins.map Places.Twin.shared) channel answer) := by
  unfold World.endpointReceive
  split
  · exact (h.setLink hlink (numbered.withTransport _)).agree
  · rw [h.holdsTransport_eq hlink]
    exact h.agree

theorem endpointPost (hlink : places.Link index place) {twins : Link places.Twin}
    (numbered : twins.Numbered) (channel : Channel) (message : String) :
    Agree company budget places
      (own.endpointPost index (twins.map Places.Twin.own) channel message)
      (shared.endpointPost place (twins.map Places.Twin.shared) channel message) := by
  unfold World.endpointPost
  rw [h.holdsTransport_eq hlink]
  split
  · exact ((h.setLink hlink (numbered.withTransport _)).wakePump hlink).agree
  · exact h.agree

theorem endpointPostResult (hlink : places.Link index place) {twins : Link places.Twin}
    (numbered : twins.Numbered) (channel : Channel) (result : Except BridgeError Json) :
    Agree company budget places
      (own.endpointPostResult index (twins.map Places.Twin.own) channel result)
      (shared.endpointPostResult place (twins.map Places.Twin.shared) channel result) := by
  cases result with
  | ok message => exact h.endpointPost hlink numbered channel _
  | error error => exact h.agree

theorem subscribe (hname : company.part (.subscription name) = true) {handle other : BridgeHandle}
    (hhandle : places.Handle handle other) {twins : Link places.Twin} (numbered : twins.Numbered)
    {bridge : Bridge places.Twin} (hbridge : twins.bridge? = some bridge) (event : String)
    {scripts : List (List Step)}
    (hscripts : own.scriptCount + scriptCountOfScripts scripts ≤ budget) :
    Agree company budget places
      (own.subscribe handle (twins.map Places.Twin.own) (bridge.map Places.Twin.own) name event
        scripts)
      (shared.subscribe other (twins.map Places.Twin.shared) (bridge.map Places.Twin.shared) name
        event scripts) := by
  let after : Places := { places with callbacks := places.callbacks ++ [shared.callbacks.length] }
  have hgrows : places.Grows after :=
    ⟨List.prefix_refl _, List.prefix_append _ _, List.prefix_refl _⟩
  have hcallback : after.Callback ⟨own.callbacks.length⟩ ⟨shared.callbacks.length⟩ :=
    h.side.callbacks.getElem?_push _
  -- The bridge gets the callback in both places at once, and is then taken apart again.
  let lift : places.Twin → after.Twin := fun twin => ⟨twin.1, hgrows.callback twin.2⟩
  let acted := (bridge.map lift).subscribe twins.transport event ⟨(_, _), hcallback⟩
  have hown : (bridge.map Places.Twin.own).subscribe twins.transport event
      ⟨own.callbacks.length⟩ = acted.map Places.Twin.own := by
    rw [← Bridge.subscribe_map, Bridge.map_map]
    rfl
  have hshared : (bridge.map Places.Twin.shared).subscribe twins.transport event
      ⟨shared.callbacks.length⟩ = acted.map Places.Twin.shared := by
    rw [← Bridge.subscribe_map, Bridge.map_map]
    rfl
  have hlifted : (twins.map lift).bridge? = some (bridge.map lift) := by
    rw [Link.bridge?_map, hbridge]
    rfl
  have hacted : acted.bridge.registry.Numbered :=
    (numbered.map lift).perform hlifted shared.now (.subscribe event ⟨(_, _), hcallback⟩)
  unfold World.subscribe
  dsimp only
  rw [Link.transport_map, Link.transport_map, hown, hshared]
  cases hanswer : acted.answer with
  | error error =>
    obtain ⟨issued, hissued, hrefused⟩ :=
      Bridge.subscribe_of_error (numbered.map lift _ hlifted) hanswer
    let refused : Acted places.Twin (Except BridgeError SubscriptionId) :=
      { acted with bridge := { bridge with registry := { bridge.registry with issued } } }
    have hlift : acted = refused.map lift :=
      congrArg (fun bridge => { acted with bridge }) hrefused
    have hnumbered : refused.bridge.registry.Numbered := fun subscription hmem =>
      Nat.lt_of_lt_of_le (numbered bridge hbridge subscription hmem) hissued
    have hcommitted := h.commit hhandle.link hnumbered
    rw [Acted.answer_map, Acted.answer_map, hanswer, hlift, Acted.map_map, Acted.map_map]
    exact hcommitted.agree
  | ok id =>
    have henlisted := h.enlist ⟨name, scripts⟩ rfl hscripts
    have hcommitted := henlisted.commit (hgrows.link hhandle.link) hacted
    have hstored := hcommitted.withSubscriptions
      (hcommitted.side.subscriptions.insert hname rfl)
      (hcommitted.others.subscriptions.insert_other (by simp [hname]) id)
    rw [Acted.answer_map, Acted.answer_map, hanswer]
    exact ⟨rfl, after, hgrows, hstored⟩

end tables

/-! ## Deliveries -/

/-- Calls of callbacks that keep two worlds in tandem, if no callback in them leaves the part. -/
def Keeps (company : Company) (budget : Nat) (invoke invoke' : World.Invoke)
    (trace : World.Trace) : Prop :=
  ∀ {places own shared callback other} (payload : Snapshot),
    Tandem company budget places own shared → places.Callback callback other →
      (∀ doing ∈ trace other payload shared, doing.within company.part = true) →
        Onward company budget places (invoke callback payload own) (invoke' other payload shared)

variable {invoke invoke' : World.Invoke} {trace : World.Trace}

theorem fanOut (h : Tandem company budget places own shared)
    (keeps : Keeps company budget invoke invoke' trace) (calls : FanOut places.Twin)
    (hwithin : ∀ doing ∈ World.fanOutDoings invoke' trace calls.payload
      (calls.callbacks.map Places.Twin.shared) shared, doing.within company.part = true) :
    Onward company budget places
      (World.fanOut invoke (calls.map Places.Twin.own) own)
      (World.fanOut invoke' (calls.map Places.Twin.shared) shared) := by
  -- The callbacks are related in the places at the start, the worlds in those that there are then.
  have hall (callbacks : List places.Twin) {after : Places} {own shared : World}
      (hgrows : places.Grows after) (h : Tandem company budget after own shared)
      (hwithin : ∀ doing ∈ World.fanOutDoings invoke' trace calls.payload
        (callbacks.map Places.Twin.shared) shared, doing.within company.part = true) :
      Onward company budget after
        ((callbacks.map Places.Twin.own).foldl
          (fun world callback => invoke callback calls.payload world) own)
        ((callbacks.map Places.Twin.shared).foldl
          (fun world callback => invoke' callback calls.payload world) shared) := by
    induction callbacks generalizing after own shared with
    | nil => exact h.onward
    | cons twin rest ih =>
      obtain ⟨hfirst, hrest⟩ := List.forall_mem_append.1 hwithin
      obtain ⟨next, hnext, hcalled⟩ := keeps calls.payload h (hgrows.callback twin.2) hfirst
      obtain ⟨last, hlast, hworlds⟩ := ih (hgrows.trans hnext) hcalled hrest
      exact ⟨last, hnext.trans hlast, hworlds⟩
  exact hall calls.callbacks (.refl places) h hwithin

theorem fanOutHeld (h : Tandem company budget places own shared)
    (keeps : Keeps company budget invoke invoke' trace) (hlink : places.Link index place)
    (calls : FanOut places.Twin)
    (hwithin : ∀ doing ∈ World.openingDoings invoke' trace
        (some ⟨place, calls.map Places.Twin.shared, shared.pin place⟩),
      doing.within company.part = true) :
    Onward company budget places
      (World.fanOutHeld invoke index (calls.map Places.Twin.own) own)
      (World.fanOutHeld invoke' place (calls.map Places.Twin.shared) shared) := by
  obtain ⟨after, hgrows, hworlds⟩ := (h.pin hlink).fanOut keeps calls hwithin
  exact ⟨after, hgrows, hworlds.unpin (hgrows.link hlink)⟩

theorem receive (h : Tandem company budget places own shared)
    (keeps : Keeps company budget invoke invoke' trace) (hlink : places.Link index place)
    {twins : Link places.Twin} (numbered : twins.Numbered) {bridge : Bridge places.Twin}
    (hbridge : twins.bridge? = some bridge) (message : String)
    (hwithin : ∀ doing ∈ World.openingDoings invoke' trace (some (shared.opening place
        (twins.map Places.Twin.shared) (bridge.map Places.Twin.shared) message)),
      doing.within company.part = true) :
    Onward company budget places
      (World.receive invoke index (twins.map Places.Twin.own) (bridge.map Places.Twin.own)
        message own)
      (World.receive invoke' place (twins.map Places.Twin.shared) (bridge.map Places.Twin.shared)
        message shared) := by
  unfold World.opening at hwithin
  unfold World.receive
  rw [Bridge.receive_map] at hwithin
  rw [Bridge.receive_map, Bridge.receive_map, h.now]
  exact (h.update hlink (numbered.perform hbridge shared.now (.receive message)) _).fanOutHeld
    keeps hlink _ hwithin

theorem deliver (h : Tandem company budget places own shared)
    (keeps : Keeps company budget invoke invoke' trace) (hlink : places.Link index place)
    (message : String)
    (hwithin : ∀ doing ∈ World.openingDoings invoke' trace (shared.hearing? place message),
      doing.within company.part = true) :
    Onward company budget places (World.deliver invoke index message own)
      (World.deliver invoke' place message shared) := by
  obtain ⟨twins, numbered, hown, hshared⟩ := h.exists_twins hlink
  unfold World.deliver
  unfold World.hearing? at hwithin
  rw [hown, hshared]
  rw [hshared] at hwithin
  cases hlistener : twins.listener with
  | nobody => simpa [Link.map, hlistener, Listener.map] using h.onward
  | observer name => simpa [Link.map, hlistener, Listener.map] using (h.note _).onward
  | bridge bridge =>
    have hbridge : twins.bridge? = some bridge := by rw [Link.bridge?, hlistener]
    have hmap {ι : Type} (f : places.Twin → ι) :
        (twins.map f).listener = .bridge (bridge.map f) := by
      rw [Link.map, hlistener]
      rfl
    dsimp only at hwithin ⊢
    rw [hmap] at hwithin
    rw [hmap, hmap]
    dsimp only at hwithin ⊢
    rw [Bridge.live_map] at hwithin
    rw [Bridge.live_map, Bridge.live_map]
    cases hlive : bridge.live with
    | true =>
      rw [hlive] at hwithin
      exact h.receive keeps hlink numbered hbridge message hwithin
    | false => exact (h.write _).onward

/-- A host hands a message to the listener on its link. -/
theorem hostDeliver (h : Tandem company budget places own shared)
    (keeps : Keeps company budget invoke invoke' trace)
    (hname : company.part (.native name) = true) (message : String)
    (hwithin : ∀ doing ∈ World.openingDoings invoke' trace (shared.hostHearing? name message),
      doing.within company.part = true) :
    Agree company budget places
      (own.onHost name fun index link _ => World.hostDeliver invoke own index link message)
      (shared.onHost name fun index link _ =>
        World.hostDeliver invoke' shared index link message) := by
  refine h.onFoundNative hname fun {_ _ twins} hlink _ hfound hshared => ?_
  unfold World.hostHearing? at hwithin
  rw [hfound, Option.bind_some, hshared, Option.bind_some, Link.host?_map] at hwithin
  rw [Link.host?_map, Link.host?_map]
  cases hhost : twins.host? with
  | none => exact h.agree
  | some host =>
    rw [hhost] at hwithin
    dsimp only
    unfold World.hostDeliver
    rw [Link.hasListener_map, Link.hasListener_map]
    split
    · exact ⟨rfl, (h.write _).deliver keeps hlink message hwithin⟩
    · exact h.agree

end Tandem

/-! ## Steps -/

/-- A step of one side does in the session what it does when the side is alone. -/
theorem Tandem.agree_perform {company : Company} {budget : Nat} {places : Places}
    {own shared : World} {invoke invoke' : World.Invoke} {trace : World.Trace} {step : Step}
    (h : Tandem company budget places own shared)
    (keeps : Tandem.Keeps company budget invoke invoke' trace)
    (hstep : step.within company.part = true)
    (hwithin : ∀ doing ∈ World.openingDoings invoke' trace (step.opening? shared),
      doing.within company.part = true)
    (hscripts : own.scriptCount + step.scriptCount ≤ budget) :
    Agree company budget places (step.perform invoke own) (step.perform invoke' shared) := by
  have hnames := List.all_eq_true.1 hstep
  have hfirst {name : Name} {rest : List Name} (heq : step.names = name :: rest) :
      company.part name = true :=
    hnames name (heq ▸ List.mem_cons_self)
  have hsecond {first name : Name} {rest : List Name} (heq : step.names = first :: name :: rest) :
      company.part name = true :=
    hnames name (heq ▸ List.mem_cons_of_mem first List.mem_cons_self)
  cases step with
  | createMemory name id =>
    exact ⟨rfl, (h.write _).createTransport (hfirst rfl) (hsecond rfl) _⟩
  | createChannel name id => exact ⟨rfl, h.createTransport (hfirst rfl) (hsecond rfl) _⟩
  | transportInfo name =>
    refine h.onTransport (hfirst rfl) fun _ _ => ?_
    rw [Link.describeTransport_map, Link.describeTransport_map, Link.hasListener_map,
      Link.hasListener_map]
    exact h.agree
  | dropTransport name =>
    have hcontains : Fields.contains name own.transports =
        Fields.contains name shared.transports := h.side.transports.contains_eq (hfirst rfl)
    simp only [Step.perform]
    rw [hcontains]
    exact (h.withTransports (h.side.transports.erase name)
      (h.others.transports.erase_other (by simp [hfirst rfl]))).agree
  | postMessage name text =>
    exact h.onTransport (hfirst rfl) fun hlink numbered =>
      ((h.setLink hlink (numbered.withTransport _)).write _).agree
  | sendSyncMessage name text =>
    exact h.onTransport (hfirst rfl) fun hlink numbered =>
      (h.setLink hlink (numbered.withTransport _)).agree
  | observe name =>
    refine h.onTransport (hfirst rfl) fun {_ _ twins} hlink numbered => ?_
    have hobserved := h.installListener hlink numbered true (twins.numbered_observer name)
    exact ⟨congrArg World.answerUnit hobserved.answer, hobserved.worlds⟩
  | posted name => exact h.onHost (hfirst rfl) fun _ _ _ => h.agree
  | takePosted name =>
    exact h.onHost (hfirst rfl) fun _ hlink numbered =>
      (h.setLink hlink (numbered.withTransport _)).agree
  | postedJson name => exact h.onHost (hfirst rfl) fun _ _ _ => h.agree
  | hasListener name =>
    refine h.onHost (hfirst rfl) fun _ _ _ => ?_
    rw [Link.hasListener_map, Link.hasListener_map]
    exact h.agree
  | deliver name text =>
    exact h.hostDeliver keeps (hfirst rfl) text hwithin
  | deliverJson name value =>
    exact h.hostDeliver keeps (hfirst rfl) value.compact hwithin
  | setOffline name offline =>
    exact h.onHost (hfirst rfl) fun _ hlink numbered =>
      (h.setLink hlink (numbered.withTransport _)).agree
  | onSync name responder =>
    exact h.onHost (hfirst rfl) fun _ hlink numbered =>
      (h.setLink hlink (numbered.withTransport _)).agree
  | recv name =>
    exact h.onEndpoint (hfirst rfl) fun channel hlink numbered =>
      h.endpointReceive hlink numbered channel _
  | recvJson name =>
    exact h.onEndpoint (hfirst rfl) fun channel hlink numbered =>
      h.endpointReceive hlink numbered channel _
  | endpointPost name text =>
    exact h.onEndpoint (hfirst rfl) fun channel hlink numbered =>
      h.endpointPost hlink numbered channel text
  | endpointPostJson name value =>
    exact h.onEndpoint (hfirst rfl) fun channel hlink numbered =>
      h.endpointPost hlink numbered channel _
  | endpointReply name wire request data =>
    exact h.onEndpoint (hfirst rfl) fun channel hlink numbered =>
      h.endpointPostResult hlink numbered channel _
  | endpointReplyError name wire request error =>
    exact h.onEndpoint (hfirst rfl) fun channel hlink numbered =>
      h.endpointPostResult hlink numbered channel _
  | dropEndpoint name =>
    have herased := h.withNatives (h.side.natives.erase name)
      (h.others.natives.erase_other (by simp [hfirst rfl]))
    exact h.onEndpoint (hfirst rfl) fun _ hlink _ => (herased.closeEndpoint hlink).agree
  | openBridge transport name choice runtime =>
    simp only [Step.perform]
    split
    · exact h.agree
    · exact h.onTransport (hfirst rfl) fun hlink numbered =>
        h.openBridge (hsecond rfl) hlink numbered runtime _ none
  | buildBridge transport name edits =>
    exact h.onTransport (hfirst rfl) fun hlink numbered =>
      h.openBridge (hsecond rfl) hlink numbered true _ none
  | openFacade name facade source =>
    cases source with
    | transport transport =>
      exact h.onTransport (hfirst rfl) fun hlink numbered =>
        h.openBridge (hsecond rfl) hlink numbered true _ (some facade)
    | bridge bridge =>
      refine h.onBridge (hfirst rfl) fun {handle other _ _} hhandle _ _ => ?_
      have hfacade : places.Handle { handle with facade } { other with facade } :=
        ⟨hhandle.link, rfl⟩
      exact (h.storeBridge (hsecond rfl) hfacade).agree
  | call name reply action =>
    exact h.onBridge (hfirst rfl) fun hhandle numbered hbridge =>
      h.send (hsecond rfl) hhandle numbered hbridge action.command action.payload none
  | cloneBridge name copy =>
    refine h.onBridge (hfirst rfl) fun {handle other _ _} hhandle _ _ => ?_
    have hcopy : places.Handle { link := handle.link } { link := other.link } :=
      ⟨hhandle.link, rfl⟩
    exact (h.storeBridge (hsecond rfl) hcopy).agree
  | dropBridge name =>
    have herased := h.withBridges (h.side.bridges.erase name)
      (h.others.bridges.erase_other (by simp [hfirst rfl]))
    simp only [Step.perform]
    obtain ⟨hown, hshared⟩ | ⟨handle, other, hown, hshared, hhandle⟩ :=
      h.side.bridges.lookup_cases (hfirst rfl)
    · rw [hown, hshared]
      exact h.agree
    · rw [hown, hshared]
      exact (herased.closeIfUnheld hhandle.link).agree
  | showConfig name => exact h.onBridge (hfirst rfl) fun _ _ _ => h.agree
  | describe name =>
    exact h.onBridge (hfirst rfl) fun hhandle numbered hbridge =>
      h.describe hhandle numbered hbridge
  | send name reply command payload timeout =>
    exact h.onBridge (hfirst rfl) fun hhandle numbered hbridge =>
      h.send (hsecond rfl) hhandle numbered hbridge command payload timeout
  | sendSync name command payload =>
    exact h.onBridge (hfirst rfl) fun hhandle numbered _ =>
      (h.setLink hhandle.link (numbered.withTransport _)).agree
  | onReply name text =>
    refine h.onOpenBridge (hfirst rfl) fun hhandle numbered hbridge hopens => ⟨rfl, ?_⟩
    rw [Step.opening?, hopens] at hwithin
    exact h.receive keeps hhandle.link numbered hbridge text hwithin
  | dispatch name event value =>
    refine h.onOpenBridge (hfirst rfl) fun hhandle _ _ hopens => ?_
    rw [Step.opening?, hopens, Bridge.dispatch_map] at hwithin
    rw [Bridge.dispatch_map, Bridge.dispatch_map]
    exact ⟨rfl, (h.write _).fanOutHeld keeps hhandle.link _ hwithin⟩
  | subscribe name subscription event scripts =>
    exact h.onBridge (hfirst rfl) fun hhandle numbered hbridge =>
      h.subscribe (hsecond rfl) hhandle numbered hbridge event hscripts
  | unsubscribe name subscription =>
    refine h.onBridge (hfirst rfl) fun hhandle numbered hbridge => ?_
    obtain ⟨hown, hshared⟩ | ⟨id, _, hown, hshared, rfl⟩ :=
      h.side.subscriptions.lookup_cases (hsecond rfl)
    · rw [hown, hshared]
      exact h.agree
    · rw [hown, hshared]
      dsimp only
      rw [Bridge.unsubscribe_map, Bridge.unsubscribe_map]
      exact (h.update hhandle.link (numbered.perform hbridge 0 (.unsubscribe id)) _).agree
  | pendingCount name =>
    refine h.onBridge (hfirst rfl) fun hhandle numbered hbridge => ?_
    rw [Bridge.pendingCount_map, Bridge.pendingCount_map, h.now]
    exact (h.update hhandle.link (numbered.perform hbridge shared.now .pendingCount) _).agree
  | isPending name id =>
    refine h.onBridge (hfirst rfl) fun hhandle numbered hbridge => ?_
    rw [Bridge.isPending_map, Bridge.isPending_map, h.now]
    exact (h.update hhandle.link (numbered.perform hbridge shared.now (.isPending id)) _).agree
  | subscriptionCount name =>
    refine h.onBridge (hfirst rfl) fun _ _ _ => ?_
    rw [Bridge.registry_map, Bridge.registry_map, Registry.size_map, Registry.size_map]
    exact h.agree
  | advance time => exact (h.advance time).agree
  | createSettler name reply id =>
    obtain ⟨after, hgrows, hticket, hadded⟩ := h.addDetached { id }
    have hsettler : after.Settler { id, ticket := own.detached.length }
        { id, ticket := shared.detached.length } := ⟨rfl, hticket, rfl⟩
    have hstored := hadded.storeSettler (hfirst rfl) hsettler
    exact ⟨rfl, after, hgrows, hstored.storeReply (hsecond rfl) (.detached hticket)⟩
  | resolve name value =>
    exact h.onSettler (hfirst rfl) fun hsettler => h.settle (hfirst rfl) hsettler _
  | reject name value =>
    exact h.onSettler (hfirst rfl) fun hsettler => h.settle (hfirst rfl) hsettler _
  | fail name error =>
    exact h.onSettler (hfirst rfl) fun hsettler => h.settle (hfirst rfl) hsettler _
  | settlerInfo name =>
    refine h.onSettler (hfirst rfl) fun hsettler => ?_
    rw [hsettler.id, hsettler.settled]
    exact h.agree
  | dropSettler name =>
    have herased := h.withSettlers (h.side.settlers.erase name)
      (h.others.settlers.erase_other (by simp [hfirst rfl]))
    exact h.onSettler (hfirst rfl) fun hsettler => (herased.releaseSettler hsettler).agree
  | poll name =>
    refine h.onReply (hfirst rfl) fun hreply => ?_
    obtain ⟨outcome, _, _, hown, hshared, after, hgrows, hworlds⟩ :=
      (h.pollReply hreply).exists_worlds
    rw [hown, hshared]
    cases outcome with
    | none => exact ⟨rfl, after, hgrows, hworlds⟩
    | some outcome => exact ⟨rfl, after, hgrows, hworlds.unbindReply (hfirst rfl)⟩
  | decodeReply name target =>
    refine h.onReply (hfirst rfl) fun hreply => ?_
    obtain ⟨outcome, _, _, hown, hshared, after, hgrows, hworlds⟩ :=
      (h.pollReply hreply).exists_worlds
    rw [hown, hshared]
    cases outcome with
    | none => exact ⟨rfl, after, hgrows, hworlds.dropReply (hfirst rfl) (hgrows.reply hreply)⟩
    | some outcome => exact ⟨rfl, after, hgrows, hworlds.unbindReply (hfirst rfl)⟩
  | withTimeout name timeout =>
    refine h.onReply (hfirst rfl) fun hreply => ?_
    rw [h.reply?_eq hreply]
    split
    · exact (h.armReply timeout hreply).agree
    · exact h.agree
  | replyInfo name =>
    refine h.onReply (hfirst rfl) fun hreply => ?_
    rw [h.reply?_eq hreply]
    split <;> exact h.agree
  | dropReply name =>
    exact h.onReply (hfirst rfl) fun hreply => (h.dropReply (hfirst rfl) hreply).agree

end HostLink
