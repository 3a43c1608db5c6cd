import HostLink.Proofs.Incidents

/-!
# The bookkeeping of a session

What a step of a session needs of the steps before it, apart from the bridges: exactly the pumps
that run have a turn coming, a native side that has a name is there, and a bridge that is held is
live (`World.Sound`).

`World.Unfolds` relates two worlds of a session: each link of the first is found in the second,
behind a list of incidents, the bookkeeping of the second is right, and the work left for the pumps
has grown by no more than a given amount.  A message that the endpoint posts is priced at two, one
for draining it and one for the turn that the pump may get for it; everything else that gives a pump
a turn is priced at one.

The relation also carries what is noticed of the links on the way.  A message that goes out, is
taken, gets lost, comes in or is heard leaves a notice (`Incident.notable`), and the incidents on a
link are exactly those of its notices and others that leave none.

All of this is proved here of one incident (`World.Unfolds.act`).  `HostLink.Proofs.Unfolding` takes
the steps of a session apart into incidents.
-/

namespace HostLink

/-! ## Sums over links -/

theorem foldl_add_from {α : Type} (f : α → Nat) (items : List α) (start more : Nat) :
    items.foldl (fun n item => n + f item) (start + more) =
      items.foldl (fun n item => n + f item) start + more := by
  induction items generalizing start with
  | nil => rfl
  | cons head rest ih =>
    rw [List.foldl_cons, List.foldl_cons, Nat.add_right_comm, ih]

/-- A sum over a list in which one item is replaced. -/
theorem foldl_add_set {α : Type} (f : α → Nat) {items : List α} {index : Nat} {item : α}
    (h : items[index]? = some item) (after : α) (start : Nat) :
    (items.set index after).foldl (fun n item => n + f item) start + f item =
      items.foldl (fun n item => n + f item) start + f after := by
  induction items generalizing index start with
  | nil => cases h
  | cons head rest ih =>
    cases index with
    | zero =>
      obtain rfl := Option.some.inj h
      rw [List.set_cons_zero, List.foldl_cons, List.foldl_cons, foldl_add_from, foldl_add_from,
        Nat.add_right_comm]
    | succ index => exact ih (List.getElem?_cons_succ.symm.trans h) (start + f head)

/-! ## What is noticed of a link -/

/-- The operation may post a message. -/
def Operation.posts {κ : Type} : Operation κ → Bool
  | .send _ _ _ | .subscribe _ _ => true
  | _ => false

/-- Something goes out in the incident, is taken or gets lost, comes in or is heard, or somebody
asks to listen. -/
def Incident.notable {κ : Type} : Incident κ → Bool
  | .claim _ _ | .post _ | .takePosted | .deliver _ | .receive | .endpointPost _ _ | .dropEndpoint
  | .pump => true
  | .operate operation _ => operation.posts
  | .advance _ | .sendSync _ | .setOffline _ | .setResponder _ | .startPump => false

namespace Site

variable {κ : Type}

/-- A notable incident, with the site where it happens. -/
structure Notice (κ : Type) where
  site : Site κ
  incident : Incident κ

/-- The notice that an incident leaves, if it is notable. -/
def notices (site : Site κ) (incident : Incident κ) : List (Notice κ) :=
  if incident.notable then [⟨site, incident⟩] else []

/-- What only notable incidents bring can be read off the notices. -/
theorem along_eq_flatMap {α : Type} {note : Site κ → Incident κ → List α}
    (hplain : ∀ site incident, incident.notable = false → note site incident = [])
    (site : Site κ) (incidents : List (Incident κ)) :
    site.along note incidents =
      (site.along notices incidents).flatMap fun notice => note notice.site notice.incident := by
  induction incidents generalizing site with
  | nil => rfl
  | cons incident rest ih =>
    rw [along_cons, along_cons, List.flatMap_append, ← ih, notices]
    cases hnotable : incident.notable with
    | true => simp
    | false => simp [hplain site incident hnotable]

/-! ## Histories of links -/

/-- The site is where some run leads a transport that was just made, with these notices. -/
def Noticed (notices : List (Notice κ)) (site : Site κ) : Prop :=
  ∃ id onChannel now incidents, site = (made id onChannel now).run incidents ∧
    (made id onChannel now).along Site.notices incidents = notices

/-- What may become of the link in a place, and what is noticed of it: one that is there goes
through incidents, and one that is new comes from a transport that was just made. -/
def Evolves (notices : List (Notice κ)) (before after : Option (Site κ)) : Prop :=
  match before with
  | some site => ∃ incidents, after = some (site.run incidents) ∧
      site.along Site.notices incidents = notices
  | none => after = none ∧ notices = [] ∨ ∃ site, after = some site ∧ site.Noticed notices

namespace Evolves

variable {before after : Option (Site κ)} {notices more : List (Notice κ)}

theorem refl (before : Option (Site κ)) : Evolves [] before before := by
  cases before with
  | none => exact .inl ⟨rfl, rfl⟩
  | some site => exact ⟨[], rfl, rfl⟩

theorem trans {first second third : Option (Site κ)} (h : Evolves notices first second)
    (h' : Evolves more second third) : Evolves (notices ++ more) first third := by
  cases first with
  | some site =>
    obtain ⟨incidents, rfl, rfl⟩ := h
    obtain ⟨later, rfl, rfl⟩ := h'
    exact ⟨incidents ++ later, by rw [run_append], along_append _ _ _ _⟩
  | none =>
    obtain ⟨rfl, rfl⟩ | ⟨site, rfl, id, onChannel, now, incidents, rfl, rfl⟩ := h
    · exact h'
    · obtain ⟨later, rfl, rfl⟩ := h'
      exact .inr ⟨_, rfl, id, onChannel, now, incidents ++ later, (run_append _ _ _).symm,
        along_append _ _ _ _⟩

theorem perform (site : Site κ) (incident : Incident κ) :
    Evolves (site.notices incident) (some site) (some (site.perform incident)) :=
  ⟨[incident], rfl, List.append_nil _⟩

/-- A link that is there goes through incidents. -/
theorem exists_run {site : Site κ} (h : Evolves notices (some site) after) :
    ∃ incidents, after = some (site.run incidents) :=
  let ⟨incidents, hafter, _⟩ := h
  ⟨incidents, hafter⟩

/-- What comes from nowhere was made on the way. -/
theorem noticed {site : Site κ} (h : Evolves notices none (some site)) : site.Noticed notices := by
  obtain ⟨hnone, -⟩ | ⟨found, hfound, noticed⟩ := h
  · cases hnone
  · exact Option.some.inj hfound ▸ noticed

end Evolves
end Site

namespace World

/-- The inbound side of a link over a channel. -/
def inlet? (world : World) (index : LinkIndex) : Option Inlet :=
  (world.links[index]?).bind Link.inlet?

/-- A link with the clock. -/
def site? (world : World) (index : LinkIndex) : Option (Site CallbackRef) :=
  (world.links[index]?).map fun link => ⟨world.now, link⟩

/-- The links whose pump has a turn: it is ready, or it has it now. -/
def turns (world : World) (busy : Option LinkIndex) : List LinkIndex :=
  busy.toList ++ world.ready

/-- The work that is left for the pumps: messages to drain, turns to take, and what the scripts may
still add to either. -/
def burden (world : World) : Nat :=
  world.backlog + world.ready.length + 2 * world.stepCount

/-- The bridge on a link is live. -/
def LiveAt (world : World) (index : LinkIndex) : Prop :=
  ∃ link, world.links[index]? = some link ∧ link.hasLiveBridge = true

/-- The bookkeeping is right: exactly the pumps that run have a turn, each one turn, an endpoint
that has a name is there and has no other, and a bridge that is held is live. -/
structure Sound (busy : Option LinkIndex) (world : World) : Prop where
  nodup : (world.turns busy).Nodup
  running : ∀ index, index ∈ world.turns busy ↔
    ∃ inlet, world.inlet? index = some inlet ∧ inlet.pump.running = true
  inlets : ∀ index inlet, world.inlet? index = some inlet → inlet.Sound
  natives : ∀ name index, Fields.lookup name world.natives = some index →
    index < world.links.length ∧
      ∀ inlet, world.inlet? index = some inlet → inlet.endpointOpen = true
  alone : ∀ name other index, Fields.lookup name world.natives = some index →
    Fields.lookup other world.natives = some index → name = other
  held : ∀ index, world.holdsBridge index = true → world.LiveAt index

/-- A notice of a link of the world. -/
abbrev LinkNotice := LinkIndex × Site.Notice CallbackRef

/-- The notices of one link among those of all. -/
def noticesOn (index : LinkIndex) (notices : List LinkNotice) : List (Site.Notice CallbackRef) :=
  (notices.filter (·.1 = index)).map Prod.snd

/-- The notice that an incident on a link leaves, if it is notable. -/
def notice (world : World) (index : LinkIndex) (incident : Incident CallbackRef) :
    List LinkNotice :=
  match world.links[index]? with
  | some link => (Site.notices ⟨world.now, link⟩ incident).map (index, ·)
  | none => []

@[simp] theorem noticesOn_nil (index : LinkIndex) : noticesOn index [] = [] := rfl

@[simp] theorem noticesOn_append (index : LinkIndex) (notices more : List LinkNotice) :
    noticesOn index (notices ++ more) = noticesOn index notices ++ noticesOn index more := by
  rw [noticesOn, List.filter_append, List.map_append]
  rfl

theorem noticesOn_flatMap {α : Type} (index : LinkIndex) (items : List α)
    (f : α → List LinkNotice) :
    noticesOn index (items.flatMap f) = items.flatMap fun item => noticesOn index (f item) := by
  rw [noticesOn, List.filter_flatMap, List.map_flatMap]
  rfl

theorem noticesOn_notice {world : World} {index : LinkIndex} {link : Link CallbackRef}
    (hlink : world.links[index]? = some link) (incident : Incident CallbackRef) :
    noticesOn index (world.notice index incident) = Site.notices ⟨world.now, link⟩ incident := by
  rw [notice, hlink]
  unfold noticesOn Site.notices
  dsimp only
  split <;> simp

theorem noticesOn_notice_of_ne (world : World) {index other : LinkIndex} (h : other ≠ index)
    (incident : Incident CallbackRef) : noticesOn other (world.notice index incident) = [] := by
  unfold notice noticesOn Site.notices
  split
  · split <;> simp [h.symm]
  · rfl

/-- An incident that is not notable leaves no notice. -/
theorem notice_of_plain (world : World) (index : LinkIndex) {incident : Incident CallbackRef}
    (hplain : incident.notable = false) : world.notice index incident = [] := by
  unfold notice Site.notices
  rw [hplain]
  split <;> rfl

theorem notice_congr {world after : World} {index : LinkIndex} (hnow : after.now = world.now)
    (hlink : after.links[index]? = world.links[index]?) (incident : Incident CallbackRef) :
    after.notice index incident = world.notice index incident := by
  rw [notice, notice, hnow, hlink]

theorem notice_of_no_link {world : World} {index : LinkIndex} (h : world.links[index]? = none)
    (incident : Incident CallbackRef) : world.notice index incident = [] := by
  rw [notice, h]

/-- From one world to a later one: each link goes through incidents that leave these notices, the
bookkeeping is right, and the work left for the pumps has grown by `spent` at most. -/
structure Unfolds (busy : Option LinkIndex) (spent : Nat) (notices : List LinkNotice)
    (start world : World) : Prop where
  sites : ∀ index,
    Site.Evolves (noticesOn index notices) (start.site? index) (world.site? index)
  sound : world.Sound busy
  burden : world.burden ≤ start.burden + spent

variable {start world : World} {busy : Option LinkIndex} {spent : Nat} {notices : List LinkNotice}
  {index : LinkIndex} {link : Link CallbackRef}

theorem sound_empty : ({} : World).Sound none := by
  refine ⟨List.nodup_nil, fun index => ?_, nofun, nofun, nofun, fun index h => ?_⟩
  · exact iff_of_false List.not_mem_nil nofun
  · exact absurd h (by simp [holdsBridge])

theorem Unfolds.refl (sound : world.Sound busy) : world.Unfolds busy 0 [] world :=
  ⟨fun _ => .refl _, sound, Nat.le_refl _⟩

theorem Unfolds.trans {first second third : World} {before : Option LinkIndex} {more : Nat}
    {later : List LinkNotice} (h : first.Unfolds before spent notices second)
    (h' : second.Unfolds busy more later third) :
    first.Unfolds busy (spent + more) (notices ++ later) third := by
  refine ⟨fun index => ?_, h'.sound, ?_⟩
  · rw [noticesOn_append]
    exact (h.sites index).trans (h'.sites index)
  · have hfirst := h.burden
    have hsecond := h'.burden
    omega

/-- Going on without notices. -/
theorem Unfolds.onward {first second third : World} {before : Option LinkIndex} {more : Nat}
    (h : first.Unfolds before spent notices second) (h' : second.Unfolds busy more [] third) :
    first.Unfolds busy (spent + more) notices third :=
  List.append_nil notices ▸ h.trans h'

theorem Unfolds.mono {more : Nat} (h : start.Unfolds busy spent notices world)
    (hle : spent ≤ more) : start.Unfolds busy more notices world :=
  ⟨h.sites, h.sound, Nat.le_trans h.burden (Nat.add_le_add_left hle _)⟩

/-! ## What the bookkeeping sees -/

/-- The worlds differ in nothing that the bookkeeping sees, but that fewer native sides have a name,
and that other live bridges may be held. -/
structure Alike (world after : World) : Prop where
  now : after.now = world.now
  links : after.links = world.links
  ready : after.ready = world.ready
  callbacks : after.callbacks = world.callbacks
  natives : ∀ name index, Fields.lookup name after.natives = some index →
    Fields.lookup name world.natives = some index
  held : ∀ index, after.holdsBridge index = true →
    world.holdsBridge index = true ∨ world.LiveAt index

namespace Alike

variable {after : World}

/-- Names of other things do not count. -/
theorem of_same (now : after.now = world.now) (links : after.links = world.links)
    (ready : after.ready = world.ready) (callbacks : after.callbacks = world.callbacks)
    (natives : after.natives = world.natives) (bridges : after.bridges = world.bridges)
    (pins : after.pins = world.pins) : world.Alike after := by
  refine ⟨now, links, ready, callbacks, fun name index h => natives ▸ h, fun index h => .inl ?_⟩
  unfold holdsBridge at h ⊢
  rwa [← bridges, ← pins]

variable (alike : world.Alike after)
include alike

theorem site? (index : LinkIndex) : after.site? index = world.site? index := by
  unfold World.site?
  rw [alike.now, alike.links]

theorem inlet? (index : LinkIndex) : after.inlet? index = world.inlet? index := by
  unfold World.inlet?
  rw [alike.links]

theorem burden : after.burden = world.burden := by
  unfold World.burden backlog stepCount
  rw [alike.links, alike.ready, alike.callbacks]

theorem sound (h : world.Sound busy) : after.Sound busy := by
  have hturns : after.turns busy = world.turns busy := by rw [turns, turns, alike.ready]
  refine ⟨hturns ▸ h.nodup, fun index => ?_, fun index inlet hinlet => ?_,
    fun name index hname => ?_, fun name other index hname hother => ?_, fun index hheld => ?_⟩
  · rw [hturns, alike.inlet?]
    exact h.running index
  · exact h.inlets index inlet (alike.inlet? index ▸ hinlet)
  · rw [alike.inlet?, alike.links]
    exact h.natives name index (alike.natives name index hname)
  · exact h.alone name other index (alike.natives _ _ hname) (alike.natives _ _ hother)
  · have hlive : world.LiveAt index := (alike.held index hheld).elim (h.held index) id
    unfold LiveAt
    rwa [alike.links]

end Alike

theorem Unfolds.alike {after : World} (h : start.Unfolds busy spent notices world)
    (alike : world.Alike after) : start.Unfolds busy spent notices after := by
  refine ⟨fun index => ?_, alike.sound h.sound, alike.burden ▸ h.burden⟩
  rw [alike.site?]
  exact h.sites index

/-! ## One incident -/

end World

/-- What an incident is worth: the message that it brings for the pump, and the turn. -/
def Incident.worth {κ : Type} : Incident κ → Nat
  | .endpointPost _ _ => 2
  | .claim _ _ | .dropEndpoint => 1
  | _ => 0

/-- The incident gives the pump a turn. -/
def Inlet.summoned {κ : Type} (inlet : Inlet) (incident : Incident κ) : Bool :=
  !inlet.pump.running && (inlet.undergo incident).pump.running

/-- The incident gives the pump of the link a turn. -/
def Link.summoned {κ : Type} (link : Link κ) (incident : Incident κ) : Bool :=
  link.inlet?.any (·.summoned incident)

/-- The number of messages that wait for the pump of the link. -/
def Link.load {κ : Type} (link : Link κ) : Nat :=
  (link.channel?.map fun channel => channel.inbox.length).getD 0

namespace Inlet

variable {κ : Type} (inlet : Inlet)

theorem inbox_wake : inlet.wake.inbox = inlet.inbox := by
  unfold wake
  split <;> rfl

theorem endpointOpen_wake : inlet.wake.endpointOpen = inlet.endpointOpen := by
  unfold wake
  split <;> rfl

theorem running_wake (h : inlet.pump.running = true) : inlet.wake.pump.running = true := by
  unfold wake
  split
  · rfl
  · exact h

theorem worth_ge (incident : Incident κ) :
    (inlet.undergo incident).inbox.length + (inlet.summoned incident).toNat ≤
      inlet.inbox.length + incident.worth := by
  have hturn (summoned : Bool) : summoned.toNat ≤ 1 := by cases summoned <;> decide
  have hquiet : (!inlet.pump.running && inlet.pump.running).toNat = 0 := by
    cases inlet.pump.running <;> rfl
  have hsummoned := hturn (inlet.summoned incident)
  cases incident with
  | claim claimant runtime =>
    simp only [undergo, Incident.worth]
    split
    · exact Nat.add_le_add_left hsummoned _
    · exact Nat.add_le_add_left hsummoned _
  | endpointPost text held =>
    simp only [undergo, Incident.worth]
    split
    · rw [inbox_wake, List.length_append, List.length_singleton]
      omega
    · omega
  | dropEndpoint =>
    simp only [undergo, Incident.worth]
    rw [inbox_wake]
    exact Nat.add_le_add_left hsummoned _
  | startPump =>
    simp only [undergo, summoned, Incident.worth]
    split
    · next hfresh =>
      rw [hfresh]
      exact Nat.le_refl _
    · exact Nat.add_le_add_left (Nat.le_of_eq hquiet) _
  | pump =>
    simp only [undergo, summoned, Incident.worth]
    split
    · next hrunning =>
      rw [hrunning]
      unfold pumped
      split
      · next hinbox => simp [hinbox]
      · next hinbox => simp [hinbox]
    · exact Nat.add_le_add_left (Nat.le_of_eq hquiet) _
  | _ => exact Nat.add_le_add_left (Nat.le_of_eq hquiet) _

/-- Only a pump that has nothing to take stops running. -/
theorem running_undergo {incident : Incident κ} (running : inlet.pump.running = true)
    (hpump : incident = .pump → inlet.inbox ≠ []) :
    (inlet.undergo incident).pump.running = true := by
  cases incident with
  | claim claimant runtime =>
    simp only [undergo]
    split
    · rfl
    · exact running
  | endpointPost text held =>
    simp only [undergo]
    split
    · exact running_wake _ running
    · exact running
  | dropEndpoint => exact running_wake _ running
  | startPump =>
    simp only [undergo]
    split
    · rfl
    · exact running
  | pump =>
    simp only [undergo, if_pos running]
    unfold pumped
    split
    · exact running
    · next hinbox => exact absurd hinbox (hpump rfl)
  | _ => exact running

/-- Only the endpoint itself goes away. -/
theorem endpointOpen_undergo {incident : Incident κ} (hdrop : incident ≠ .dropEndpoint) :
    (inlet.undergo incident).endpointOpen = inlet.endpointOpen := by
  cases incident with
  | claim claimant runtime =>
    simp only [undergo]
    split <;> rfl
  | endpointPost text held =>
    simp only [undergo]
    split
    · exact endpointOpen_wake _
    · rfl
  | dropEndpoint => exact absurd rfl hdrop
  | startPump =>
    simp only [undergo]
    split <;> rfl
  | pump =>
    simp only [undergo]
    split
    · unfold pumped
      split <;> rfl
    · rfl
  | _ => rfl

end Inlet

namespace World

/-- The world behind an incident on a link. -/
def act (world : World) (index : LinkIndex) (link : Link CallbackRef)
    (incident : Incident CallbackRef) : World :=
  { world with
    links := world.links.set index (link.undergo world.now incident)
    ready := if link.summoned incident then world.ready ++ [index] else world.ready }

/-- The incident can happen on the link at this moment: the clock belongs to all links, the pump
takes a message when there is one, an endpoint goes away when it has no name, and a bridge when
nobody holds it. -/
def Allows (world : World) (index : LinkIndex) : Incident CallbackRef → Prop
  | .advance _ => False
  | .pump => ∀ inlet, world.inlet? index = some inlet → inlet.inbox ≠ []
  | .dropEndpoint => ∀ name, Fields.lookup name world.natives ≠ some index
  | .operate .close _ => ¬world.holdsBridge index = true
  | _ => True

variable {start world : World} {busy : Option LinkIndex} {spent : Nat} {notices : List LinkNotice}
  {index : LinkIndex} {link : Link CallbackRef}

section act

variable (hlink : world.links[index]? = some link) (incident : Incident CallbackRef)
include hlink

theorem getElem?_act : (world.act index link incident).links[index]? =
    some (link.undergo world.now incident) := by
  obtain ⟨hlt, -⟩ := List.getElem?_eq_some_iff.1 hlink
  exact List.getElem?_set_self hlt

omit hlink in
theorem getElem?_act_of_ne {other : LinkIndex} (h : other ≠ index) :
    (world.act index link incident).links[other]? = world.links[other]? :=
  List.getElem?_set_ne h.symm

theorem inlet?_of_link : world.inlet? index = link.inlet? := by
  rw [inlet?, hlink]
  rfl

theorem inlet?_act : (world.act index link incident).inlet? index =
    (world.inlet? index).map (·.undergo incident) := by
  rw [inlet?, getElem?_act hlink, inlet?_of_link hlink]
  exact link.inlet?_undergo world.now incident

omit hlink in
theorem inlet?_act_of_ne {other : LinkIndex} (h : other ≠ index) :
    (world.act index link incident).inlet? other = world.inlet? other := by
  rw [inlet?, getElem?_act_of_ne incident h]
  rfl

theorem sites_act (hclock : ∀ time, incident ≠ .advance time) (other : LinkIndex) :
    Site.Evolves (noticesOn other (world.notice index incident)) (world.site? other)
      ((world.act index link incident).site? other) := by
  by_cases heq : other = index
  · subst heq
    have hnow : Site.later world.now incident = world.now := by
      cases incident with
      | advance time => exact absurd rfl (hclock time)
      | _ => rfl
    have hbefore : world.site? other = some ⟨world.now, link⟩ := by
      rw [site?, hlink]
      rfl
    have hafter : (world.act other link incident).site? other =
        some (Site.perform ⟨world.now, link⟩ incident) := by
      rw [site?, getElem?_act hlink, Site.perform, hnow]
      rfl
    rw [hbefore, hafter, noticesOn_notice hlink]
    exact .perform _ incident
  · have hsame : (world.act index link incident).site? other = world.site? other := by
      rw [site?, getElem?_act_of_ne incident heq]
      rfl
    rw [hsame, noticesOn_notice_of_ne world heq]
    exact .refl _

theorem backlog_act : (world.act index link incident).backlog + link.load =
    world.backlog + (link.undergo world.now incident).load :=
  foldl_add_set Link.load hlink _ 0

theorem burden_act : (world.act index link incident).burden ≤ world.burden + incident.worth := by
  have hbacklog := backlog_act hlink incident
  have hload (link : Link CallbackRef) :
      link.load = (link.inlet?.map fun inlet => inlet.inbox.length).getD 0 := by
    rcases link with ⟨⟨id, host | channel⟩, listener⟩ <;> rfl
  have hready : (world.act index link incident).ready.length =
      world.ready.length + (link.summoned incident).toNat := by
    unfold act
    cases link.summoned incident <;> simp
  have hworth : (link.undergo world.now incident).load + (link.summoned incident).toNat ≤
      link.load + incident.worth := by
    rw [hload, hload, link.inlet?_undergo, Link.summoned]
    cases link.inlet? with
    | none => exact Nat.zero_le _
    | some inlet => exact inlet.worth_ge incident
  have hsteps : (world.act index link incident).stepCount = world.stepCount := rfl
  unfold burden
  omega

omit hlink in
theorem turns_act (busy : Option LinkIndex) : (world.act index link incident).turns busy =
    world.turns busy ++ if link.summoned incident then [index] else [] := by
  unfold turns act
  cases link.summoned incident <;> simp

/-- After an incident a pump has a turn exactly if it runs. -/
theorem mem_turns_act (h : world.Sound busy) (allowed : world.Allows index incident)
    (other : LinkIndex) :
    other ∈ (world.act index link incident).turns busy ↔
      ∃ inlet, (world.act index link incident).inlet? other = some inlet ∧
        inlet.pump.running = true := by
  rw [turns_act, List.mem_append]
  by_cases heq : other = index
  · subst heq
    have hbefore := h.running other
    rw [inlet?_act hlink, inlet?_of_link hlink] at *
    unfold Link.summoned
    cases hinlet : link.inlet? with
    | none =>
      rw [hinlet] at hbefore
      simpa using hbefore
    | some inlet =>
      rw [hinlet] at hbefore
      have hturn : other ∈ world.turns busy ↔ inlet.pump.running = true := by simpa using hbefore
      cases hrunning : inlet.pump.running with
      | true =>
        have hafter : (inlet.undergo incident).pump.running = true := by
          refine inlet.running_undergo hrunning ?_
          rintro rfl
          exact allowed inlet ((inlet?_of_link hlink).trans hinlet)
        simp [hturn, hrunning, hafter]
      | false => simp [hturn, hrunning, Inlet.summoned]
  · rw [inlet?_act_of_ne incident heq, ← h.running other]
    have hnot : other ∉ if link.summoned incident then [index] else [] := by
      split
      · exact fun hmem => heq (List.mem_singleton.1 hmem)
      · exact List.not_mem_nil
    exact or_iff_left hnot

theorem nodup_turns_act (h : world.Sound busy) :
    ((world.act index link incident).turns busy).Nodup := by
  rw [turns_act]
  split
  · next hsummoned =>
    -- The pump did not run, so it had no turn.
    have hidle : index ∉ world.turns busy := by
      rw [h.running, inlet?_of_link hlink]
      rintro ⟨inlet, hinlet, hrunning⟩
      rw [Link.summoned, hinlet] at hsummoned
      simp [Inlet.summoned, hrunning] at hsummoned
    exact List.nodup_append.2 ⟨h.nodup, List.nodup_singleton index, fun turn hturn last hlast heq =>
      hidle (List.mem_singleton.1 hlast ▸ heq ▸ hturn)⟩
  · rw [List.append_nil]
    exact h.nodup

end act

/-- An incident keeps the bookkeeping right if the turns of the pumps are. -/
theorem Sound.act_of_turns {next : Option LinkIndex} (h : world.Sound busy)
    (hlink : world.links[index]? = some link) {incident : Incident CallbackRef}
    (nodup : ((world.act index link incident).turns next).Nodup)
    (running : ∀ other, other ∈ (world.act index link incident).turns next ↔
      ∃ inlet, (world.act index link incident).inlet? other = some inlet ∧
        inlet.pump.running = true)
    (hdrop : incident = .dropEndpoint → ∀ name, Fields.lookup name world.natives ≠ some index)
    (hclose : ∀ own, incident = .operate .close own → ¬world.holdsBridge index = true) :
    (world.act index link incident).Sound next := by
  have hlength : (world.act index link incident).links.length = world.links.length :=
    List.length_set
  refine ⟨nodup, running, fun other inlet hinlet => ?_, fun name other hname => ?_, h.alone,
    fun other hheld => ?_⟩
  · by_cases heq : other = index
    · subst heq
      rw [inlet?_act hlink] at hinlet
      obtain ⟨before, hbefore, rfl⟩ := Option.map_eq_some_iff.1 hinlet
      exact (h.inlets other before hbefore).undergo incident
    · rw [inlet?_act_of_ne incident heq] at hinlet
      exact h.inlets other inlet hinlet
  · obtain ⟨hlt, hopen⟩ := h.natives name other hname
    refine ⟨hlength ▸ hlt, fun inlet hinlet => ?_⟩
    by_cases heq : other = index
    · subst heq
      rw [inlet?_act hlink] at hinlet
      obtain ⟨before, hbefore, rfl⟩ := Option.map_eq_some_iff.1 hinlet
      rw [before.endpointOpen_undergo fun heq => hdrop heq name hname]
      exact hopen before hbefore
    · rw [inlet?_act_of_ne incident heq] at hinlet
      exact hopen inlet hinlet
  · obtain ⟨before, hbefore, hlive⟩ := h.held other hheld
    by_cases heq : other = index
    · subst heq
      obtain rfl := Option.some.inj (hbefore.symm.trans hlink)
      exact ⟨_, getElem?_act hlink incident,
        Link.hasLiveBridge_undergo world.now hlive fun own heq => hclose own heq hheld⟩
    · exact ⟨before, (getElem?_act_of_ne incident heq).trans hbefore, hlive⟩

/-- What is allowed keeps the bookkeeping right. -/
theorem Sound.act (h : world.Sound busy) (hlink : world.links[index]? = some link)
    {incident : Incident CallbackRef} (allowed : world.Allows index incident) :
    (world.act index link incident).Sound busy := by
  refine h.act_of_turns hlink (nodup_turns_act hlink incident h)
    (mem_turns_act hlink incident h allowed) ?_ ?_
  · rintro rfl
    exact allowed
  · rintro own rfl
    exact allowed

/-- One incident that is allowed. -/
theorem Unfolds.act (h : start.Unfolds busy spent notices world)
    (hlink : world.links[index]? = some link) (incident : Incident CallbackRef)
    (allowed : world.Allows index incident) :
    start.Unfolds busy (spent + incident.worth) (notices ++ world.notice index incident)
      (world.act index link incident) := by
  have hclock (time : Nanoseconds) : incident ≠ .advance time := by
    rintro rfl
    exact allowed
  exact h.trans ⟨sites_act hlink incident hclock, h.sound.act hlink allowed,
    burden_act hlink incident⟩

end World
end HostLink
