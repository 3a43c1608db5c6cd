import HostLink.Proofs.Pumps

/-!
# Who listens

A link takes one listener.  Whoever listens on it goes on listening, whatever happens to the link
(`Link.owner?_undergo`), and so does every chain of moments keep who listens
(`World.Chain.owner?_eq`).

Four steps of a session ask to listen (`Step.attempt?`): an observer is installed, and a bridge is
opened, built, or made by a facade for itself.  Each attempt finds no transport under its name, or
fails and changes nothing at all, or succeeds and its claimant listens (`Step.perform_attempt`).
-/

namespace HostLink

/-! ## Links -/

namespace Link

variable {κ : Type} {link : Link κ}

/-- Who listens on the link. -/
def owner? (link : Link κ) : Option Claimant :=
  match link.listener with
  | .nobody => none
  | .observer name => some (.observer name)
  | .bridge bridge => some (.bridge bridge.config)

theorem isSome_owner? (link : Link κ) : link.owner?.isSome = link.hasListener := by
  unfold owner? hasListener
  cases link.listener <;> rfl

theorem owner?_of_bridge? {bridge : Bridge κ} (h : link.bridge? = some bridge) :
    link.owner? = some (.bridge bridge.config) := by
  rw [owner?, listener_of_bridge? h]

/-- A claimant that is installed listens. -/
theorem owner?_of_claimant (transport : Transport) (claimant : Claimant) :
    owner? { transport, listener := (claimant.listener : Listener κ) } = some claimant := by
  cases claimant <;> rfl

/-- Where there is no bridge the listener stays what it is, unless there is none and somebody asks
to be it. -/
theorem listener_undergo (now : Instant) (hbridge : link.bridge? = none) {incident : Incident κ}
    (hclaim : ∀ claimant runtime, incident = .claim claimant runtime → link.hasListener = true) :
    (link.undergo now incident).listener = link.listener := by
  have hhear (other : Link κ) (hsame : other.listener = link.listener) (text : String) :
      (other.hear now text).listener = link.listener := by
    unfold hear
    split
    · next bridge hlistener =>
      rw [bridge?, ← hsame, hlistener] at hbridge
      cases hbridge
    · exact hsame
  cases incident with
  | claim claimant runtime => rw [undergo_claim_of_hasListener now (hclaim _ _ rfl)]
  | operate operation own => simp only [undergo, operate, hbridge]
  | deliver text => exact onHost_keeps Link.listener fun _ _ => hhear link rfl text
  | takePosted | setOffline offline | setResponder responder =>
    exact onHost_keeps Link.listener fun _ _ => rfl
  | receive | dropEndpoint => exact onChannel_keeps Link.listener fun _ _ => rfl
  | endpointPost text held | startPump =>
    apply onChannel_keeps Link.listener
    intro channel hchannel
    split <;> rfl
  | pump =>
    apply onChannel_keeps Link.listener
    intro channel hchannel
    split
    · split
      · exact hhear (link.withChannel _) rfl _
      · rfl
    · rfl
  | _ => rfl

/-- Who listens goes on listening. -/
theorem owner?_undergo (now : Instant) (hlistens : link.hasListener = true)
    (incident : Incident κ) : (link.undergo now incident).owner? = link.owner? := by
  cases hbridge : link.bridge? with
  | none => rw [owner?, owner?, listener_undergo now hbridge fun _ _ _ => hlistens]
  | some bridge =>
    rw [owner?_of_bridge? hbridge, owner?_of_bridge? (bridge?_undergo now hbridge incident),
      Station.config_run]

theorem listener_of_silent (h : link.hasListener = false) : link.listener = .nobody := by
  unfold hasListener at h
  split at h
  · assumption
  · cases h

/-- The first attempt succeeds, if there is a runtime. -/
theorem install_of_silent (h : link.hasListener = false) (listener : Listener κ) :
    ∃ transport, link.install true listener = (.ok (), { transport, listener }) := by
  rcases link with ⟨⟨id, host | channel⟩, old⟩
  · exact ⟨_, if_neg (by rw [h]; decide)⟩
  · exact ⟨_, if_neg (by rw [h]; decide)⟩

/-- Nobody becomes the listener without asking. -/
theorem hasListener_undergo_of_silent (h : link.hasListener = false) (now : Instant)
    {incident : Incident κ} (hclaim : ∀ claimant runtime, incident ≠ .claim claimant runtime) :
    (link.undergo now incident).hasListener = false := by
  have hnobody := listener_of_silent h
  have hbridge : link.bridge? = none := by rw [bridge?, hnobody]
  rw [hasListener, listener_undergo now hbridge fun _ _ heq => absurd heq (hclaim _ _), hnobody]

end Link

namespace Site

variable {κ : Type}

theorem owner?_run {site : Site κ} (hlistens : site.link.hasListener = true)
    (incidents : List (Incident κ)) : (site.run incidents).link.owner? = site.link.owner? := by
  induction incidents generalizing site with
  | nil => rfl
  | cons incident rest ih =>
    have hsame : (site.perform incident).link.owner? = site.link.owner? :=
      Link.owner?_undergo site.now hlistens incident
    have hstill : (site.perform incident).link.hasListener = true := by
      rw [← Link.isSome_owner?, hsame, Link.isSome_owner?, hlistens]
    exact (ih hstill).trans hsame

end Site

/-! ## Worlds -/

namespace World

variable {world : World} {index : LinkIndex} {link : Link CallbackRef}

/-- Who listens on a link. -/
def owner? (world : World) (index : LinkIndex) : Option Claimant :=
  (world.links[index]?).bind Link.owner?

theorem owner?_of_link (hlink : world.links[index]? = some link) :
    world.owner? index = link.owner? := by
  rw [owner?, hlink, Option.bind_some]

/-- Who listens goes on listening. -/
theorem Chain.owner?_eq {busy next : Option LinkIndex} {start : World} {moments : List Moment}
    (chain : Chain busy start moments next world) (sound : start.Sound busy) {claimant : Claimant}
    (howner : start.owner? index = some claimant) : world.owner? index = some claimant := by
  obtain ⟨link, hlink, hclaimant⟩ := Option.bind_eq_some_iff.1 howner
  have hstart : start.site? index = some ⟨start.now, link⟩ := by
    rw [site?, hlink]
    rfl
  have hevolves := chain.evolves sound index
  rw [hstart] at hevolves
  obtain ⟨incidents, hafter⟩ := hevolves.exists_run
  obtain ⟨later, hlater, hsite⟩ := Option.map_eq_some_iff.1 hafter
  have hlistens : link.hasListener = true := by
    rw [← Link.isSome_owner?, hclaimant]
    rfl
  have hrun : (Site.run ⟨start.now, link⟩ incidents).link.owner? = link.owner? :=
    Site.owner?_run hlistens incidents
  rw [← hsite] at hrun
  rw [owner?_of_link hlater, ← hclaimant]
  exact hrun

/-! ## Installing a listener -/

theorem owner?_closeIfUnheld (world : World) (index other : LinkIndex) :
    (world.closeIfUnheld index).owner? other = world.owner? other := by
  unfold closeIfUnheld
  split
  · next link hlink =>
    split
    · rfl
    · by_cases heq : other = index
      · subst heq
        obtain ⟨hlt, -⟩ := List.getElem?_eq_some_iff.1 hlink
        have hclosed : link.closeBridge.owner? = link.owner? := by
          unfold Link.closeBridge Link.owner?
          cases hlistener : link.listener with
          | bridge bridge =>
            cases hlive : bridge.live <;>
              simp [hlive, hlistener, Link.withBridge, Bridge.close]
          | _ => simp [hlistener]
        rw [owner?, owner?, setLink, List.getElem?_set_self hlt, hlink]
        exact hclosed
      · rw [owner?, owner?, setLink, List.getElem?_set_ne (Ne.symm heq)]
  · rfl

theorem owner?_storeBridge (world : World) (name : String) (handle : BridgeHandle)
    (index : LinkIndex) : (world.storeBridge name handle).owner? index = world.owner? index := by
  simp only [storeBridge]
  split
  · exact owner?_closeIfUnheld _ _ _
  · rfl

/-- Installing a listener fails and changes nothing, or its claimant listens. -/
theorem installListener_cases (hlink : world.links[index]? = some link) (runtime : Bool)
    (claimant : Claimant) :
    (∃ error, (link.install runtime claimant.listener).1 = .error error ∧
        world.installListener index link runtime claimant.listener = (.error error, world)) ∨
      ∃ listening, (link.install runtime claimant.listener).1 = .ok () ∧
        world.installListener index link runtime claimant.listener = (.ok (), listening) ∧
        listening.owner? index = some claimant := by
  obtain ⟨hlt, -⟩ := List.getElem?_eq_some_iff.1 hlink
  have howner (transport : Transport) (ready : List LinkIndex) : owner? { world with
      links := world.links.set index { transport, listener := claimant.listener }
      ready } index = some claimant := by
    rw [owner?_of_link (List.getElem?_set_self hlt)]
    exact Link.owner?_of_claimant transport claimant
  have hinstalled (transport : Transport)
      (hresult : link.install runtime claimant.listener =
        (.ok (), { transport, listener := claimant.listener })) :
      ∃ listening, world.installListener index link runtime claimant.listener =
        (.ok (), listening) ∧ listening.owner? index = some claimant := by
    unfold installListener
    rw [hresult]
    dsimp only
    split
    · exact ⟨_, rfl, howner _ _⟩
    · exact ⟨_, rfl, howner _ _⟩
  obtain ⟨error, hresult⟩ | ⟨-, ⟨-, hresult⟩ | ⟨channel, -, hresult⟩⟩ :=
    link.install_cases runtime claimant.listener
  · refine .inl ⟨error, by rw [hresult], ?_⟩
    unfold installListener
    rw [hresult]
  · obtain ⟨listening, hlistening, howned⟩ := hinstalled _ hresult
    exact .inr ⟨listening, by rw [hresult], hlistening, howned⟩
  · obtain ⟨listening, hlistening, howned⟩ := hinstalled _ hresult
    exact .inr ⟨listening, by rw [hresult], hlistening, howned⟩

end World

/-! ## The steps that ask to listen -/

/-- An attempt to listen: on the transport of which name, who asks, and whether there is a
runtime. -/
structure Attempt where
  transport : String
  claimant : Claimant
  runtime : Bool

/-- How the attempt ends at a link. -/
def Attempt.result {κ : Type} (attempt : Attempt) (link : Link κ) : Except BridgeError Unit :=
  (link.install attempt.runtime attempt.claimant.listener).1

/-- The attempt to listen that a step is.  Opening a bridge is none if there is no configuration. -/
def Step.attempt? : Step → Option Attempt
  | .observe transport => some ⟨transport, .observer transport, true⟩
  | .openBridge transport _ choice runtime =>
    choice.resolve.toOption.map fun config => ⟨transport, .bridge config, runtime⟩
  | .buildBridge transport _ edits => some ⟨transport, .bridge (ConfigEdit.build edits), true⟩
  | .openFacade _ facade (.transport transport) => some ⟨transport, .bridge facade.config, true⟩
  | _ => none

/-- The result that an answer tells, where there is nothing to tell but success. -/
def Answer.result? : Answer → Option (Except BridgeError Unit)
  | .done => some (.ok ())
  | .failed error => some (.error error)
  | _ => none

namespace World

/-- What comes of an attempt on a link: it fails and nothing changes, or its claimant listens. -/
inductive Settles (world : World) (index : LinkIndex) (link : Link CallbackRef)
    (attempt : Attempt) : Answer × World → Prop where
  | refused {error : BridgeError} (h : attempt.result link = .error error) :
      Settles world index link attempt (.failed error, world)
  | granted {after : World} (h : attempt.result link = .ok ())
      (howner : after.owner? index = some attempt.claimant) :
      Settles world index link attempt (.done, after)

variable {world : World} {index : LinkIndex} {link : Link CallbackRef}

theorem settles_observe (hlink : world.links[index]? = some link) (transport : String)
    (claimant : Claimant) :
    world.Settles index link ⟨transport, claimant, true⟩
      (answerUnit (world.installListener index link true claimant.listener).1,
        (world.installListener index link true claimant.listener).2) := by
  obtain ⟨error, hresult, hinstalled⟩ | ⟨listening, hresult, hinstalled, howner⟩ :=
    installListener_cases hlink true claimant
  · rw [hinstalled]
    exact .refused hresult
  · rw [hinstalled]
    exact .granted hresult howner

theorem settles_openBridge (hlink : world.links[index]? = some link) (transport : String)
    (runtime : Bool) (config : Config) (name : String) (facade : Option Facade) :
    world.Settles index link ⟨transport, .bridge config, runtime⟩
      (world.openBridge index link runtime config name facade) := by
  have hcases := installListener_cases hlink runtime (.bridge config)
  rw [show Claimant.listener (.bridge config) = .bridge { config } from rfl] at hcases
  unfold openBridge
  obtain ⟨error, hresult, hinstalled⟩ | ⟨listening, hresult, hinstalled, howner⟩ := hcases
  · rw [hinstalled]
    exact .refused hresult
  · rw [hinstalled]
    refine .granted hresult ?_
    rw [owner?_storeBridge]
    exact howner

end World

namespace Step

variable {step : Step} {attempt : Attempt}

/-- An attempt to listen finds no transport under its name, and nothing happens, or it finds one
and either fails and changes nothing or makes its claimant the listener. -/
theorem perform_attempt (invoke : World.Invoke) (world : World)
    (hattempt : step.attempt? = some attempt) :
    (∃ index link, Fields.lookup attempt.transport world.transports = some index ∧
        world.links[index]? = some link ∧
        world.Settles index link attempt (step.perform invoke world)) ∨
      (∀ index, Fields.lookup attempt.transport world.transports = some index →
        world.links[index]? = none) ∧ step.perform invoke world = (.gone, world) := by
  have hcases (act : LinkIndex → Link CallbackRef → Answer × World)
      (hact : ∀ index link, world.links[index]? = some link →
        world.Settles index link attempt (act index link)) :
      (∃ index link, Fields.lookup attempt.transport world.transports = some index ∧
          world.links[index]? = some link ∧
          world.Settles index link attempt (world.onTransport attempt.transport act)) ∨
        (∀ index, Fields.lookup attempt.transport world.transports = some index →
          world.links[index]? = none) ∧
          world.onTransport attempt.transport act = (.gone, world) := by
    obtain ⟨index, link, hname, hlink, heq⟩ | habsent :=
      world.onTransport_cases attempt.transport act
    · exact .inl ⟨index, link, hname, hlink, heq ▸ hact index link hlink⟩
    · exact .inr habsent
  cases step with
  | observe transport =>
    obtain rfl := Option.some.inj hattempt
    exact hcases _ fun index link hlink =>
      World.settles_observe hlink transport (.observer transport)
  | openBridge transport name choice runtime =>
    obtain ⟨config, hconfig, rfl⟩ := Option.map_eq_some_iff.1 hattempt
    cases hchoice : choice.resolve with
    | error error =>
      rw [hchoice] at hconfig
      cases hconfig
    | ok found =>
      rw [hchoice] at hconfig
      obtain rfl := Option.some.inj hconfig
      simp only [perform, hchoice]
      exact hcases _ fun index link hlink =>
        World.settles_openBridge hlink transport runtime found name none
  | buildBridge transport name edits =>
    obtain rfl := Option.some.inj hattempt
    exact hcases _ fun index link hlink =>
      World.settles_openBridge hlink transport true _ name none
  | openFacade name facade source =>
    cases source with
    | transport transport =>
      obtain rfl := Option.some.inj hattempt
      exact hcases _ fun index link hlink =>
        World.settles_openBridge hlink transport true facade.config name (some facade)
    | bridge bridge => cases hattempt
  | _ => cases hattempt

/-- An attempt calls no callbacks. -/
theorem begin_of_attempt (world : World) (hattempt : step.attempt? = some attempt) :
    step.begin world = (step.perform World.silent world).2 := by
  cases step with
  | deliver | deliverJson | onReply | dispatch => cases hattempt
  | _ => rfl

/-- An attempt that fails changes nothing. -/
theorem perform_of_refused {invoke : World.Invoke} {world : World}
    (hattempt : step.attempt? = some attempt) {error : BridgeError}
    (hfailed : (step.perform invoke world).1 = .failed error) :
    (step.perform invoke world).2 = world := by
  obtain ⟨index, link, -, -, hsettles⟩ | ⟨-, hgone⟩ := step.perform_attempt invoke world hattempt
  · generalize step.perform invoke world = performed at hsettles hfailed ⊢
    cases hsettles with
    | refused => rfl
    | granted => cases hfailed
  · rw [hgone]

/-- The results of the attempts on a link that a step makes: one, if it is one. -/
def attempted (index : LinkIndex) (world : World) (step : Step) : List (Except BridgeError Unit) :=
  match step.attempt? with
  | some attempt =>
    if Fields.lookup attempt.transport world.transports = some index then
      (step.answer world).result?.toList
    else []
  | none => []

end Step

namespace Answer

variable {answer : Answer}

theorem eq_done_of_result? (h : answer.result? = some (.ok ())) : answer = .done := by
  cases answer <;> cases h
  rfl

theorem eq_failed_of_result? {error : BridgeError} (h : answer.result? = some (.error error)) :
    answer = .failed error := by
  cases answer <;> cases h
  rfl

end Answer

/-! ## Moments -/

namespace Moment

/-- The attempt to listen that a moment is. -/
def attempt? (moment : Moment) : Option Attempt := moment.step?.bind Step.attempt?

/-- The results of the attempts on a link in a moment. -/
def attempted (index : LinkIndex) (moment : Moment) : List (Except BridgeError Unit) :=
  moment.step?.elim [] (Step.attempted index moment.start)

variable {moment : Moment} {index : LinkIndex}

/-- A result comes of an attempt on the link. -/
theorem exists_of_mem_attempted {result : Except BridgeError Unit}
    (h : result ∈ moment.attempted index) : ∃ step attempt, moment.step? = some step ∧
      step.attempt? = some attempt ∧ moment.attempt? = some attempt ∧
      Fields.lookup attempt.transport moment.start.transports = some index ∧
      (step.answer moment.start).result? = some result := by
  unfold attempted at h
  cases hstep : moment.step? with
  | none =>
    rw [hstep] at h
    cases h
  | some step =>
    rw [hstep, Option.elim_some, Step.attempted] at h
    split at h
    · next attempt hattempt =>
      split at h
      · next hname =>
        refine ⟨step, attempt, rfl, hattempt, ?_, hname, Option.mem_toList.1 h⟩
        rw [attempt?, hstep, Option.bind_some, hattempt]
      · cases h
    · cases h

/-- An attempt that fails changes nothing. -/
theorem after_of_refused {error : BridgeError} (h : .error error ∈ moment.attempted index) :
    moment.after = moment.start := by
  obtain ⟨step, attempt, hstep, hattempt, -, -, hresult⟩ := exists_of_mem_attempted h
  have hfailed : (step.perform World.silent moment.start).1 = .failed error :=
    Answer.eq_failed_of_result? hresult
  rw [after_of_step? hstep, Step.begin_of_attempt moment.start hattempt]
  exact Step.perform_of_refused hattempt hfailed

/-- Whose attempt succeeds listens. -/
theorem owner?_of_granted (h : .ok () ∈ moment.attempted index) {attempt : Attempt}
    (hattempt : moment.attempt? = some attempt) :
    moment.after.owner? index = some attempt.claimant := by
  obtain ⟨step, found, hstep, hfound, hsame, hname, hresult⟩ := exists_of_mem_attempted h
  obtain rfl := Option.some.inj (hsame.symm.trans hattempt)
  have hdone : (step.perform World.silent moment.start).1 = .done :=
    Answer.eq_done_of_result? hresult
  rw [after_of_step? hstep, Step.begin_of_attempt moment.start hfound]
  obtain ⟨place, link, hplace, -, hsettles⟩ | ⟨-, hgone⟩ :=
    step.perform_attempt World.silent moment.start hfound
  · obtain rfl := Option.some.inj (hplace.symm.trans hname)
    generalize step.perform World.silent moment.start = performed at hsettles hdone ⊢
    cases hsettles with
    | refused => cases hdone
    | granted _ howner => exact howner
  · rw [hgone] at hdone
    cases hdone

end Moment

namespace World.History

variable {moments : List Moment} {world : World} {moment : Moment} {index : LinkIndex}
  {claimant : Claimant} (h : History moments world) (hmem : moment ∈ moments)
include h hmem

/-- Who listens when a moment begins listens to the end. -/
theorem owner?_of_start (howner : moment.start.owner? index = some claimant) :
    world.owner? index = some claimant := by
  obtain ⟨earlier, later, rfl⟩ := List.append_of_mem hmem
  obtain ⟨busy, next, sound, due, rest⟩ := h.amid
  have hbefore : moment.before.owner? index = some claimant := by
    obtain ⟨deed, before⟩ := moment
    cases deed with
    | _ => exact howner
  exact Chain.owner?_eq (.cons due rest) sound hbefore

/-- Who listens behind a moment listens to the end. -/
theorem owner?_of_after (howner : moment.after.owner? index = some claimant) :
    world.owner? index = some claimant := by
  obtain ⟨earlier, later, rfl⟩ := List.append_of_mem hmem
  obtain ⟨busy, next, sound, due, rest⟩ := h.amid
  exact rest.owner?_eq (Deed.unfolds sound due).sound howner

end World.History
end HostLink
