import HostLink.Proofs.Listeners

/-!
# What comes in and what is heard

On the native side of a link an endpoint posts texts, or a host hands them to the listener; what has
come in is what was answered to be done (`Moment.arrived`).  The listener of a link is called where
a pump takes a text off its queue, and where a host hands one over (`Moment.heard`), and each of
these moments is one call of whoever listens on the link (`Moment.calls`).

What comes in over a channel waits in a queue.  What was heard and what still waits is at any time
exactly what has come in, in that order: for one incident (`Inlet.heard_append_inbox`), for a run
(`Site.heard_append_backlog`), and so for every history of a session
(`World.History.heard_append_backlog`).
-/

namespace HostLink

/-! ## The queue of a channel -/

namespace Inlet

variable {κ : Type} (inlet : Inlet)

/-- What the endpoint has posted in an incident. -/
def arrived : Incident κ → List String
  | .endpointPost text held => if inlet.accepts held then [text] else []
  | _ => []

/-- What the pump has brought to the listener in an incident. -/
def heard : Incident κ → List String
  | .pump => if inlet.pump.running then inlet.inbox.head?.toList else []
  | _ => []

/-- The queue is first in, first out. -/
theorem heard_append_inbox (incident : Incident κ) :
    inlet.heard incident ++ (inlet.undergo incident).inbox =
      inlet.inbox ++ inlet.arrived incident := by
  have hkept (after : Inlet) (hinbox : after.inbox = inlet.inbox) :
      [] ++ after.inbox = inlet.inbox ++ [] := by
    rw [List.nil_append, List.append_nil, hinbox]
  cases incident with
  | endpointPost text held =>
    simp only [heard, arrived, undergo]
    split
    · rw [inbox_wake]
      rfl
    · exact hkept _ rfl
  | pump =>
    simp only [heard, arrived, undergo]
    split
    · unfold pumped
      cases inlet.inbox <;> simp
    · exact hkept _ rfl
  | claim claimant runtime | startPump =>
    simp only [heard, arrived, undergo]
    split <;> exact hkept _ rfl
  | dropEndpoint => exact hkept _ (inbox_wake _)
  | _ => exact hkept _ rfl

end Inlet

/-! ## Links -/

/-- The incident may bring a text from the native side. -/
def Incident.inbound {κ : Type} : Incident κ → Bool
  | .endpointPost _ _ | .deliver _ => true
  | _ => false

namespace Link

variable {κ : Type} (link : Link κ) {inlet : Inlet}

/-- What comes in on the link in an incident: the endpoint posts it, or the host hands it to the
listener. -/
def arrived : Incident κ → List String
  | .deliver text => link.heard (.deliver text)
  | incident => (link.inlet?.map (·.arrived incident)).getD []

/-- What waits for the pump of the link. -/
def backlog : List String := (link.inlet?.map Inlet.inbox).getD []

theorem arrived_of_outbound {incident : Incident κ} (h : incident.inbound = false) :
    link.arrived incident = [] := by
  cases incident with
  | endpointPost | deliver => cases h
  | _ => unfold arrived; cases link.inlet? <;> rfl

variable {link}

theorem backlog_of_inlet? (h : link.inlet? = some inlet) : link.backlog = inlet.inbox := by
  rw [backlog, h]
  rfl

theorem backlog_of_channel? {channel : Channel} (h : link.channel? = some channel) :
    link.backlog = channel.inbox :=
  backlog_of_inlet? (link.inlet?_of_channel? h)

theorem listening_of_inlet? (h : link.inlet? = some inlet) :
    inlet.listening = link.hasListener := by
  rcases link with ⟨⟨id, host | channel⟩, listener⟩
  · cases h
  · rw [← Option.some.inj h]
    rfl

/-- Over a channel the listener hears what the pump brings. -/
theorem heard_of_inlet? (h : link.inlet? = some inlet) (incident : Incident κ) :
    link.heard incident = inlet.heard incident := by
  rcases link with ⟨⟨id, host | channel⟩, listener⟩
  · cases h
  · obtain rfl := Option.some.inj h
    cases incident <;> rfl

/-- Over a channel all that comes in is posted by the endpoint. -/
theorem arrived_of_inlet? (h : link.inlet? = some inlet) (incident : Incident κ) :
    link.arrived incident = inlet.arrived incident := by
  have hposted (incident : Incident κ) :
      (link.inlet?.map (·.arrived incident)).getD [] = inlet.arrived incident := by
    rw [h]
    rfl
  cases incident with
  | deliver text => exact heard_of_inlet? h (.deliver text)
  | _ => exact hposted _

/-- Over a memory transport what comes in is heard at once. -/
theorem arrived_of_none (h : link.inlet? = none) (incident : Incident κ) :
    link.arrived incident = link.heard incident := by
  rcases link with ⟨⟨id, host | channel⟩, listener⟩
  · cases incident <;> rfl
  · cases h

/-- What comes in is heard at once, or waits for the pump behind all that came before it. -/
theorem heard_append_backlog (now : Instant) (incident : Incident κ) :
    link.heard incident ++ (link.undergo now incident).backlog =
      link.backlog ++ link.arrived incident := by
  unfold backlog
  rw [link.inlet?_undergo]
  cases hinlet : link.inlet? with
  | some inlet =>
    rw [heard_of_inlet? hinlet, arrived_of_inlet? hinlet]
    exact inlet.heard_append_inbox incident
  | none =>
    rw [arrived_of_none hinlet]
    exact (List.append_nil _).trans (List.nil_append _).symm

end Link

namespace Site

variable {κ : Type}

/-- The texts that come in on the link in an incident. -/
def arrived (site : Site κ) (incident : Incident κ) : List String := site.link.arrived incident

/-- The texts that the listener hears in an incident. -/
def heard (site : Site κ) (incident : Incident κ) : List String := site.link.heard incident

theorem arrived_of_plain (site : Site κ) (incident : Incident κ)
    (hplain : incident.notable = false) : site.arrived incident = [] := by
  refine site.link.arrived_of_outbound ?_
  cases incident with
  | endpointPost | deliver => cases hplain
  | _ => rfl

theorem heard_of_plain (site : Site κ) (incident : Incident κ) (hplain : incident.notable = false) :
    site.heard incident = [] := by
  cases incident with
  | deliver | pump => cases hplain
  | _ => rfl

/-- What was heard and what waits is what came in, behind what has waited at the beginning. -/
theorem heard_append_backlog (site : Site κ) (incidents : List (Incident κ)) :
    site.along heard incidents ++ (site.run incidents).link.backlog =
      site.link.backlog ++ site.along arrived incidents := by
  induction incidents generalizing site with
  | nil => simp
  | cons incident rest ih =>
    have hfirst : site.heard incident ++ (site.perform incident).link.backlog =
        site.link.backlog ++ site.arrived incident :=
      Link.heard_append_backlog site.now incident
    calc site.along heard (incident :: rest) ++
          ((site.perform incident).run rest).link.backlog
        = site.heard incident ++ ((site.perform incident).along heard rest ++
            ((site.perform incident).run rest).link.backlog) := by
          rw [along_cons, List.append_assoc]
      _ = site.heard incident ++ (site.perform incident).link.backlog ++
            (site.perform incident).along arrived rest := by
          rw [ih, List.append_assoc]
      _ = site.link.backlog ++ site.along arrived (incident :: rest) := by
          rw [hfirst, List.append_assoc, along_cons]

end Site

/-! ## Moments -/

/-- The text, where there is one and it is on the link. -/
def textOn (index : LinkIndex) : Option (LinkIndex × String) → List String
  | some (place, text) => if place = index then [text] else []
  | none => []

theorem textOn_some (index : LinkIndex) (text : String) :
    textOn index (some (index, text)) = [text] :=
  if_pos rfl

theorem textOn_of_ne {index place : LinkIndex} (h : place ≠ index) (text : String) :
    textOn index (some (place, text)) = [] :=
  if_neg h

theorem eq_of_mem_textOn {index : LinkIndex} {brought : Option (LinkIndex × String)}
    {text : String} (h : text ∈ textOn index brought) : brought = some (index, text) := by
  unfold textOn at h
  split at h
  · next place message =>
    split at h
    · next heq => rw [heq, List.mem_singleton.1 h]
    · cases h
  · cases h

/-- The text that an answer to a step is about, where the answer is that the step is done. -/
def Answer.brought (place : Option LinkIndex) (text : String) : Answer → Option (LinkIndex × String)
  | .done => place.map (·, text)
  | _ => none

namespace Step

/-- The text that a step brings from the native side, and the name of that side. -/
def brings? : Step → Option (String × String)
  | .endpointPost name text | .deliver name text => some (name, text)
  | .endpointPostJson name value | .deliverJson name value => some (name, value.compact)
  | .endpointReply name wire request data =>
    (wire.replyTo request data).toOption.map fun message => (name, message.compact)
  | .endpointReplyError name wire request error =>
    (wire.replyErrorTo request error).toOption.map fun message => (name, message.compact)
  | _ => none

/-- The step hands a text to the listener, and leaves it in no queue. -/
def delivers : Step → Bool
  | .deliver _ _ | .deliverJson _ _ => true
  | _ => false

/-- The text that comes in with a step, and the link on which it does: the answer is that it is
done. -/
def arrival? (world : World) (step : Step) : Option (LinkIndex × String) :=
  step.brings?.bind fun brought =>
    (step.answer world).brought (world.linkOf? (.native brought.1)) brought.2

end Step

namespace Moment

/-- The text that comes in in a moment, and the link on which it does. -/
def arrival? (moment : Moment) : Option (LinkIndex × String) :=
  moment.step?.bind (Step.arrival? moment.start)

/-- The text with which a listener is called in a moment, and the link on which it listens. -/
def heard? (moment : Moment) : Option (LinkIndex × String) :=
  match moment.deed with
  | .pumped index text => some (index, text)
  | .performed step | .began step => if step.delivers then step.arrival? moment.start else none
  | _ => none

/-- What comes in on a link in a moment. -/
def arrived (index : LinkIndex) (moment : Moment) : List String := textOn index moment.arrival?

/-- What the listener of a link is called with in a moment. -/
def heard (index : LinkIndex) (moment : Moment) : List String := textOn index moment.heard?

end Moment

/-! ## What steps bring in -/

namespace World

variable {world : World} {busy : Option LinkIndex} {index : LinkIndex}

/-- A text that an endpoint posts comes in if the answer says so. -/
theorem arrived_of_post (sound : world.Sound busy) (name text : String) :
    (if world.linkOf? (.native name) = some index then
        (world.links[index]?).elim [] fun link =>
          Site.arrived ⟨world.now, link⟩ (.endpointPost text (world.holdsTransport index))
      else []) =
      textOn index ((world.onEndpoint name fun index link channel =>
        world.endpointPost index link channel text).1.brought (world.linkOf? (.native name))
          text) := by
  obtain ⟨place, link, channel, hname, hlink, hchannel, heq⟩ | ⟨habsent, hgone⟩ :=
    world.onEndpoint_cases name fun index link channel => world.endpointPost index link channel text
  · have hlinkOf : world.linkOf? (.native name) = some place := hname
    have hinlet := link.inlet?_of_channel? hchannel
    have hopen : channel.endpointOpen = true :=
      (sound.natives name place hname).2 _ ((inlet?_of_link hlink).trans hinlet)
    have harrived (held : Bool) : link.arrived (.endpointPost text held) =
        if channel.takesInbound held then [text] else [] := by
      have haccepts : (channel.inlet link.hasListener).accepts held =
          (channel.endpointOpen && channel.takesInbound held) := rfl
      rw [Link.arrived_of_inlet? hinlet, Inlet.arrived, haccepts, hopen, Bool.true_and]
    rw [heq, hlinkOf, endpointPost]
    by_cases hplace : place = index
    · subst hplace
      rw [if_pos rfl, hlink, Option.elim_some, Site.arrived, harrived]
      split
      · exact (textOn_some place text).symm
      · rfl
    · rw [if_neg fun h => hplace (Option.some.inj h)]
      split
      · exact (textOn_of_ne hplace text).symm
      · rfl
  · rw [hgone]
    split
    · next hname =>
      cases hlink : world.links[index]? with
      | none => rfl
      | some link =>
        have hnone := link.inlet?_eq_none (habsent index link hname hlink)
        exact Link.arrived_of_none hnone (.endpointPost text (world.holdsTransport index))
    · rfl

/-- A text that a host hands over is heard if the answer says so. -/
theorem heard_of_delivery (world : World) (index : LinkIndex) (name text : String) :
    (if world.linkOf? (.native name) = some index then
        (world.links[index]?).elim [] fun link => Site.heard ⟨world.now, link⟩ (.deliver text)
      else []) =
      textOn index ((world.onHost name fun index link _ =>
        world.hostDeliver World.silent index link text).1.brought (world.linkOf? (.native name))
          text) := by
  obtain ⟨place, link, host, hname, hlink, hhost, heq⟩ | ⟨habsent, hgone⟩ :=
    world.onHost_cases name fun index link _ => world.hostDeliver World.silent index link text
  · have hlinkOf : world.linkOf? (.native name) = some place := hname
    have hheard : link.heard (.deliver text) = if link.hasListener then [text] else [] := by
      rw [Link.heard, hhost, Option.isSome_some, Bool.true_and]
    rw [heq, hlinkOf, hostDeliver]
    by_cases hplace : place = index
    · subst hplace
      rw [if_pos rfl, hlink, Option.elim_some, Site.heard, hheard]
      split
      · exact (textOn_some place text).symm
      · rfl
    · rw [if_neg fun h => hplace (Option.some.inj h)]
      split
      · exact (textOn_of_ne hplace text).symm
      · rfl
  · rw [hgone]
    split
    · next hname =>
      cases hlink : world.links[index]? with
      | none => rfl
      | some link =>
        have hhost := habsent index link hname hlink
        have hsilent : link.heard (.deliver text) = [] := by
          rw [Link.heard, hhost, Option.isSome_none, Bool.false_and, if_neg Bool.false_ne_true]
        exact hsilent
    · rfl

end World

namespace Step

variable {step : Step} {world : World} {index : LinkIndex}

/-- The incident that a step is brings a text exactly if the step does. -/
theorem inbound_of_incident? {name : Name} {incident : LinkIndex → Incident CallbackRef}
    (h : step.incident? world = some (name, incident)) (index : LinkIndex) :
    (incident index).inbound = step.brings?.isSome := by
  cases step with
  | endpointReply native wire request data =>
    obtain ⟨message, hmessage, heq⟩ := Option.map_eq_some_iff.1 h
    cases heq
    rw [brings?, hmessage]
    rfl
  | endpointReplyError native wire request error =>
    obtain ⟨message, hmessage, heq⟩ := Option.map_eq_some_iff.1 h
    cases heq
    rw [brings?, hmessage]
    rfl
  | openBridge transport bridge choice runtime =>
    obtain ⟨config, -, heq⟩ := Option.map_eq_some_iff.1 h
    cases heq
    rfl
  | openFacade bridge facade source => cases source <;> cases h; rfl
  | _ => cases h <;> rfl

/-- What comes in with a step is what its incident brings. -/
theorem collect_arrived {busy : Option LinkIndex} (sound : world.Sound busy) (step : Step)
    (index : LinkIndex) :
    step.collect Site.arrived index world = textOn index (step.arrival? world) := by
  have hposted (name text : String) {incident : LinkIndex → Incident CallbackRef}
      (hincident : step.incident? world = some (.native name, incident))
      (hpost : incident = fun index => .endpointPost text (world.holdsTransport index)) :
      step.collect Site.arrived index world =
        textOn index ((world.onEndpoint name fun index link channel =>
          world.endpointPost index link channel text).1.brought (world.linkOf? (.native name))
            text) := by
    rw [collect_of_incident? Site.arrived_of_plain hincident, hpost,
      ← World.arrived_of_post sound name text]
  have hunposted (hbrings : step.brings? = none) :
      step.collect Site.arrived index world = textOn index (step.arrival? world) := by
    rw [arrival?, hbrings]
    refine collect_eq_nil Site.arrived_of_plain fun name incident hincident site => ?_
    refine site.link.arrived_of_outbound ?_
    rw [inbound_of_incident? hincident, hbrings]
    rfl
  have hreplied (name : String) (result : Except BridgeError Json)
      (hincident : step.incident? world = result.toOption.map fun message =>
        (.native name, fun index => .endpointPost message.compact (world.holdsTransport index)))
      (hbrings : step.brings? = result.toOption.map fun message => (name, message.compact))
      (hanswer : step.answer world = (world.onEndpoint name fun index link channel =>
        world.endpointPostResult index link channel result).1) :
      step.collect Site.arrived index world = textOn index (step.arrival? world) := by
    cases result with
    | error error => exact hunposted hbrings
    | ok message =>
      rw [hposted name message.compact hincident rfl, arrival?, hbrings, hanswer]
      rfl
  cases step with
  | endpointPost name text => exact hposted name text rfl rfl
  | endpointPostJson name value => exact hposted name value.compact rfl rfl
  | endpointReply name wire request data =>
    exact hreplied name (wire.replyTo request data) rfl rfl rfl
  | endpointReplyError name wire request error =>
    exact hreplied name (wire.replyErrorTo request error) rfl rfl rfl
  | deliver name text =>
    rw [collect_of_incident? Site.arrived_of_plain rfl]
    exact world.heard_of_delivery index name text
  | deliverJson name value =>
    rw [collect_of_incident? Site.arrived_of_plain rfl]
    exact world.heard_of_delivery index name value.compact
  | _ => exact hunposted rfl

/-- What the listener is called with in a step is what its incident brings to it. -/
theorem collect_heard (world : World) (step : Step) (index : LinkIndex) :
    step.collect Site.heard index world =
      textOn index (if step.delivers then step.arrival? world else none) := by
  cases step with
  | deliver name text =>
    rw [collect_of_incident? Site.heard_of_plain rfl]
    exact world.heard_of_delivery index name text
  | deliverJson name value =>
    rw [collect_of_incident? Site.heard_of_plain rfl]
    exact world.heard_of_delivery index name value.compact
  | _ =>
    refine collect_eq_nil_of_kind Site.heard_of_plain fun site incident hkind => ?_
    cases incident with
    | deliver | pump => cases hkind
    | _ => rfl

end Step

/-! ## What moments bring in -/

namespace Moment

variable {moment : Moment} {busy : Option LinkIndex} {index : LinkIndex}

/-- What comes in in a moment is what its incidents bring. -/
theorem collect_arrived (sound : moment.before.Sound busy) :
    moment.collect Site.arrived index = moment.arrived index := by
  cases hstep : moment.step? with
  | some step =>
    rw [collect_of_step? hstep, step.collect_arrived (sound_start sound), arrived, arrival?, hstep,
      Option.bind_some]
  | none =>
    rw [collect_of_no_step Site.arrived_of_plain (fun site => site.link.arrived_of_outbound rfl)
      hstep, arrived, arrival?, hstep]
    rfl

/-- What the listener is called with in a moment is what its incidents bring to it. -/
theorem collect_heard (sound : moment.before.Sound busy)
    (due : moment.deed.Due busy moment.before) :
    moment.collect Site.heard index = moment.heard index := by
  obtain ⟨deed, before⟩ := moment
  have hpump {place : LinkIndex} {channel : Channel} (hbusy : busy = some place)
      (hchannel : before.channel? place = some channel) :
      collect Site.heard index ⟨.rested place, before⟩ =
        if place = index then channel.inbox.head?.toList else [] := by
    subst hbusy
    refine (World.collect_notice Site.heard_of_plain place .pump).trans ?_
    split
    · next heq =>
      subst heq
      obtain ⟨link, hlink, hlinkChannel⟩ := World.exists_link_of_channel? hchannel
      have running := sound.pump_running hlink hlinkChannel
      rw [hlink, Option.elim_some, Site.heard, Link.heard, hlinkChannel]
      exact if_pos running
    · rfl
  cases deed with
  | performed step => exact step.collect_heard _ index
  | began step => exact step.collect_heard before index
  | pumped place text =>
    obtain ⟨hbusy, channel, hchannel, hhead⟩ := due
    refine (hpump hbusy hchannel).trans ?_
    rw [hhead]
    rfl
  | rested place =>
    obtain ⟨hbusy, channel, hchannel, hinbox⟩ := due
    refine (hpump hbusy hchannel).trans ?_
    rw [hinbox]
    split <;> rfl
  | _ => rfl

end Moment

namespace World.History

variable {moments : List Moment} {world : World} {index : LinkIndex} {link : Link CallbackRef}

/-- What the listener was called with and what waits is what has come in. -/
theorem heard_append_backlog (h : History moments world)
    (hlink : world.links[index]? = some link) :
    moments.flatMap (Moment.heard index) ++ link.backlog =
      moments.flatMap (Moment.arrived index) := by
  obtain ⟨id, onChannel, now, incidents, hsite, halong⟩ := h.exists_run hlink
  have hheard : (Site.made id onChannel now).along Site.heard incidents =
      moments.flatMap (Moment.heard index) :=
    (halong String Site.heard Site.heard_of_plain).trans
      (h.flatMap_collect fun moment busy sound due => Moment.collect_heard sound due)
  have harrived : (Site.made id onChannel now).along Site.arrived incidents =
      moments.flatMap (Moment.arrived index) :=
    (halong String Site.arrived Site.arrived_of_plain).trans
      (h.flatMap_collect fun moment busy sound _ => Moment.collect_arrived sound)
  have hempty : (Site.made (κ := CallbackRef) id onChannel now).link.backlog = [] := by
    cases onChannel <;> rfl
  have hlaw := (Site.made id onChannel now).heard_append_backlog incidents
  rwa [← hsite, hheard, harrived, hempty, List.nil_append] at hlaw

end World.History

/-! ## Calls of the listener -/

namespace World

/-- Who listens on a link, with all that it has come to. -/
def listener? (world : World) (index : LinkIndex) : Option (Listener CallbackRef) :=
  (world.links[index]?).map Link.listener

theorem owner?_of_listener? {world other : World} {index : LinkIndex}
    (h : world.listener? index = other.listener? index) :
    world.owner? index = other.owner? index := by
  unfold listener? at h
  unfold owner?
  cases hlink : world.links[index]? with
  | none =>
    rw [hlink] at h
    rw [Option.map_eq_none_iff.1 h.symm]
  | some link =>
    rw [hlink] at h
    obtain ⟨found, hfound, hsame⟩ := Option.map_eq_some_iff.1 h.symm
    rw [hfound, Option.bind_some, Option.bind_some, Link.owner?, Link.owner?, hsame]

variable {world : World} {name : String} {index : LinkIndex}

theorem onHost_of_host? {link : Link CallbackRef} {host : MemoryHost}
    (hname : Fields.lookup name world.natives = some index)
    (hlink : world.links[index]? = some link) (hhost : link.host? = some host)
    (act : LinkIndex → Link CallbackRef → MemoryHost → Answer × World) :
    world.onHost name act = act index link host := by
  rw [onHost_named hname, hlink, Option.elim_some, hhost, Option.elim_some]

/-- A host that hands over a text calls the listener with it, once. -/
theorem hostHear_of_delivery {message text : String}
    (h : text ∈ textOn index ((world.onHost name fun index link _ =>
      world.hostDeliver World.silent index link message).1.brought
        (world.linkOf? (.native name)) message)) :
    (world.owner? index).isSome = true ∧ ∃ log, world.hostHear name message =
      (world.write log).hear index text := by
  have hbrought := eq_of_mem_textOn h
  obtain ⟨place, link, host, hname, hlink, hhost, heq⟩ | ⟨-, hgone⟩ :=
    world.onHost_cases name fun index link _ => world.hostDeliver World.silent index link message
  · have hlinkOf : world.linkOf? (.native name) = some place := hname
    rw [heq, hlinkOf, hostDeliver] at hbrought
    split at hbrought
    · next hlistens =>
      obtain ⟨rfl, rfl⟩ := Prod.mk.inj (Option.some.inj hbrought)
      have howned : (world.owner? place).isSome = true := by
        rw [owner?_of_link hlink, Link.isSome_owner?, hlistens]
      refine ⟨howned, [.delivered link.transport.id message], ?_⟩
      rw [hostHear, onHost_of_host? hname hlink hhost]
      exact if_pos hlistens
    · cases hbrought
  · rw [hgone] at hbrought
    cases hbrought

end World

namespace Moment

/-- A moment is one call of the listener of a link with a text: nothing has happened to the listener
before the call, nobody has noted anything, and the moment is over with it. -/
def Calls (moment : Moment) (index : LinkIndex) (text : String) : Prop :=
  ∃ called : World, called.listener? index = moment.start.listener? index ∧
    called.events = moment.start.events ∧ moment.after = called.hear index text

variable {moment : Moment} {busy : Option LinkIndex} {index : LinkIndex} {text : String}

theorem calls_of_step {step : Step} {world : World}
    (h : text ∈ textOn index (if step.delivers then step.arrival? world else none)) :
    (world.owner? index).isSome = true ∧ ∃ log, step.begin world =
      (world.write log).hear index text := by
  cases step with
  | deliver name message => exact World.hostHear_of_delivery h
  | deliverJson name value => exact World.hostHear_of_delivery h
  | _ => exact absurd h List.not_mem_nil

/-- Where the listener hears a text somebody listens, and is called with it once. -/
theorem calls (sound : moment.before.Sound busy) (due : moment.deed.Due busy moment.before)
    (h : text ∈ moment.heard index) :
    (moment.start.owner? index).isSome = true ∧ moment.Calls index text := by
  obtain ⟨deed, before⟩ := moment
  cases deed with
  | performed step =>
    obtain ⟨howned, log, hbegun⟩ := calls_of_step h
    exact ⟨howned, World.write { before with events := [], log := [] } log, rfl, rfl, hbegun⟩
  | began step =>
    obtain ⟨howned, log, hbegun⟩ := calls_of_step h
    exact ⟨howned, before.write log, rfl, rfl, hbegun⟩
  | pumped place message =>
    obtain ⟨rfl, channel, hchannel, hhead⟩ := due
    obtain ⟨rfl, rfl⟩ := Prod.mk.inj (Option.some.inj (eq_of_mem_textOn h))
    obtain ⟨link, hlink, hlinkChannel⟩ := World.exists_link_of_channel? hchannel
    obtain ⟨rest, hinbox⟩ := List.head?_eq_some_iff.1 hhead
    have hlistens : link.hasListener = true := by
      have running := sound.pump_running hlink hlinkChannel
      have hinlet := link.inlet?_of_channel? hlinkChannel
      have hpump := (sound.inlets place _ ((World.inlet?_of_link hlink).trans hinlet)).absent_iff
      rw [← Bool.not_eq_false]
      intro hsilent
      rw [show channel.pump = .absent from hpump.2 hsilent] at running
      cases running
    have howned : (before.owner? place).isSome = true := by
      rw [World.owner?_of_link hlink, Link.isSome_owner?, hlistens]
    refine ⟨howned, before.takeText place, ?_, ?_, rfl⟩
    · obtain ⟨hlt, -⟩ := List.getElem?_eq_some_iff.1 hlink
      have htaken := World.takeText_eq hlink hlinkChannel hinbox
      have hafter : (before.takeText place).links[place]? =
          some (link.withChannel { channel with inbox := rest }) :=
        htaken ▸ List.getElem?_set_self hlt
      have hstart : (before.links[place]?).map Link.listener = some link.listener :=
        congrArg (Option.map Link.listener) hlink
      rw [World.listener?, hafter]
      exact hstart.symm
    · rw [World.takeText_eq hlink hlinkChannel hinbox]
      rfl
  | _ => cases h

end Moment

/-- Each text that was heard in a history is one call of somebody, who listens to the end. -/
theorem World.History.calls {moments : List Moment} {world : World} (h : History moments world)
    {moment : Moment} (hmem : moment ∈ moments) {index : LinkIndex} {text : String}
    (htext : text ∈ moment.heard index) :
    moment.Calls index text ∧ (moment.start.owner? index).isSome = true ∧
      world.owner? index = moment.start.owner? index := by
  obtain ⟨busy, sound, due⟩ := h.due hmem
  obtain ⟨howned, hcalls⟩ := Moment.calls sound due htext
  obtain ⟨claimant, hclaimant⟩ := Option.isSome_iff_exists.1 howned
  exact ⟨hcalls, howned, (h.owner?_of_start hmem hclaimant).trans hclaimant.symm⟩

end HostLink
