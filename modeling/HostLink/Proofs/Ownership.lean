import HostLink.Proofs.InboundOrder

/-!
# A transport takes one listener ever

Whoever asks first to listen on a transport gets it for good: the bridge that a session opens, the
one that it builds, the one that a facade makes for itself, or an observer.  Every later attempt
fails and changes nothing at all, and whatever comes in is handled by the first listener, in one
call for each text.

That is said of every history of a session and each of its links (`World.OwnershipLaw`), with the
results of the attempts read off the answers of the steps that make them.
-/

namespace HostLink

/-! ## Attempts in a run -/

namespace Site

variable {κ : Type}

/-- The attempts to listen in an incident: whether there is a runtime, and the result. -/
def claims (site : Site κ) : Incident κ → List (Bool × Except BridgeError Unit)
  | .claim claimant runtime => [(runtime, (site.link.install runtime claimant.listener).1)]
  | _ => []

theorem claims_of_plain (site : Site κ) (incident : Incident κ)
    (hplain : incident.notable = false) : site.claims incident = [] := by
  cases incident with
  | claim => cases hplain
  | _ => rfl

theorem hasListener_perform {site : Site κ} (h : site.link.hasListener = true)
    (incident : Incident κ) : (site.perform incident).link.hasListener = true := by
  have hsame : (site.perform incident).link.owner? = site.link.owner? :=
    Link.owner?_undergo site.now h incident
  rw [← Link.isSome_owner?, hsame, Link.isSome_owner?, h]

/-- After an attempt with a runtime somebody listens. -/
theorem hasListener_perform_claim (site : Site κ) (claimant : Claimant) :
    (site.perform (.claim claimant true)).link.hasListener = true := by
  by_cases h : site.link.hasListener = true
  · exact hasListener_perform h _
  · obtain ⟨transport, hinstalled⟩ :=
      Link.install_of_silent (Bool.eq_false_iff.2 h) claimant.listener
    have hlink : (site.perform (.claim claimant true)).link =
        { transport, listener := claimant.listener } :=
      congrArg Prod.snd hinstalled
    rw [hlink, ← Link.isSome_owner?, Link.owner?_of_claimant]
    rfl

/-- Where somebody listens every attempt with a runtime fails. -/
theorem claims_of_hasListener {site : Site κ} (h : site.link.hasListener = true)
    (incidents : List (Incident κ)) : ∀ claim ∈ site.along claims incidents,
      claim.1 = true → claim.2 = .error .listenerAlreadySet := by
  induction incidents generalizing site with
  | nil => exact fun claim hmem => nomatch hmem
  | cons incident rest ih =>
    intro claim hmem hruntime
    rcases List.mem_append.1 hmem with hmem | hmem
    · cases incident with
      | claim claimant runtime =>
        obtain rfl := List.mem_singleton.1 hmem
        have hsupported : runtime = true := hruntime
        rw [hsupported, Link.install_of_hasListener h]
      | _ => cases hmem
    · exact ih (hasListener_perform h incident) claim hmem hruntime

/-- If all attempts have a runtime the first one succeeds and all others fail. -/
theorem claims_of_silent {site : Site κ} (h : site.link.hasListener = false)
    (incidents : List (Incident κ)) (supported : ∀ claim ∈ site.along claims incidents,
      claim.1 = true) :
    (site.along claims incidents).map Prod.snd = [] ∨
      ∃ count, (site.along claims incidents).map Prod.snd =
        .ok () :: List.replicate count (.error .listenerAlreadySet) := by
  induction incidents generalizing site with
  | nil => exact .inl rfl
  | cons incident rest ih =>
    have hrest : ∀ claim ∈ (site.perform incident).along claims rest, claim.1 = true :=
      fun claim hmem => supported claim (List.mem_append_right _ hmem)
    have hsilent (hclaim : ∀ claimant runtime, incident ≠ .claim claimant runtime) :
        (site.perform incident).link.hasListener = false :=
      Link.hasListener_undergo_of_silent h site.now hclaim
    cases incident with
    | claim claimant runtime =>
      obtain rfl : runtime = true := supported _ (List.mem_append_left _ List.mem_cons_self)
      obtain ⟨transport, hinstalled⟩ := Link.install_of_silent h claimant.listener
      have hlater := claims_of_hasListener (hasListener_perform_claim site claimant) rest
      have hfailed : ∀ result ∈ ((site.perform (.claim claimant true)).along claims rest).map
          Prod.snd, result = .error .listenerAlreadySet := by
        intro result hresult
        obtain ⟨claim, hmem, rfl⟩ := List.mem_map.1 hresult
        exact hlater claim hmem (hrest claim hmem)
      have hreplicated := List.eq_replicate_of_mem hfailed
      refine .inr ⟨(((site.perform (.claim claimant true)).along claims rest).map
        Prod.snd).length, ?_⟩
      rw [along_cons, claims, hinstalled, List.singleton_append, List.map_cons]
      exact congrArg (.ok () :: ·) hreplicated
    | _ => exact ih (hsilent nofun) hrest

end Site

/-! ## Attempts in a history -/

namespace Step

variable {step : Step} {attempt : Attempt}

/-- The attempts on a link that a step makes, with their results: one, if it is one. -/
def claims (index : LinkIndex) (world : World) (step : Step) :
    List (Bool × Except BridgeError Unit) :=
  step.attempt?.elim [] fun attempt =>
    (step.attempted index world).map (attempt.runtime, ·)

/-- The incident that an attempt is. -/
theorem incident?_of_attempt (world : World) (h : step.attempt? = some attempt) :
    step.incident? world =
      some (.transport attempt.transport, fun _ => .claim attempt.claimant attempt.runtime) := by
  cases step with
  | openBridge transport bridge choice runtime =>
    obtain ⟨config, hconfig, rfl⟩ := Option.map_eq_some_iff.1 h
    rw [incident?, hconfig]
    rfl
  | openFacade bridge facade source => cases source <;> cases h; rfl
  | _ => cases h <;> rfl

/-- What is no attempt claims nothing. -/
theorem claims_of_incident? {world : World} (h : step.attempt? = none) {name : Name}
    {incident : LinkIndex → Incident CallbackRef}
    (hincident : step.incident? world = some (name, incident)) (index : LinkIndex)
    (site : Site CallbackRef) : site.claims (incident index) = [] := by
  cases step with
  | openBridge transport bridge choice runtime =>
    rw [incident?, Option.map_eq_none_iff.1 h] at hincident
    cases hincident
  | openFacade bridge facade source =>
    cases source with
    | transport transport => cases h
    | bridge bridge => cases hincident
  | observe | buildBridge => cases h
  | _ =>
    have hkind := kind_of_incident? hincident index
    generalize incident index = happened at hkind ⊢
    cases happened with
    | claim => cases hkind
    | _ => rfl

/-- The results of attempts are what their answers tell. -/
theorem collect_claims (world : World) (step : Step) (index : LinkIndex) :
    step.collect Site.claims index world = step.claims index world := by
  cases hattempt : step.attempt? with
  | none =>
    rw [claims, hattempt]
    exact collect_eq_nil Site.claims_of_plain fun name incident hincident site =>
      claims_of_incident? hattempt hincident index site
  | some attempt =>
    rw [collect_of_incident? Site.claims_of_plain (incident?_of_attempt world hattempt), claims,
      hattempt, Option.elim_some, attempted, hattempt]
    have hname (place : LinkIndex) : world.linkOf? (.transport attempt.transport) = some place ↔
        Fields.lookup attempt.transport world.transports = some place := Iff.rfl
    simp only [hname]
    split
    · next hindex =>
      obtain ⟨place, link, hplace, hlink, hsettles⟩ | ⟨habsent, hgone⟩ :=
        step.perform_attempt World.silent world hattempt
      · obtain rfl := Option.some.inj (hplace.symm.trans hindex)
        rw [hlink, Option.elim_some, answer]
        generalize step.perform World.silent world = performed at hsettles
        cases hsettles with
        | refused hresult => exact congrArg (fun result => [(attempt.runtime, result)]) hresult
        | granted hresult => exact congrArg (fun result => [(attempt.runtime, result)]) hresult
      · rw [habsent index hindex, answer, hgone]
        rfl
    · rfl

end Step

namespace Moment

/-- The attempts on a link in a moment, with their results. -/
def claims (index : LinkIndex) (moment : Moment) : List (Bool × Except BridgeError Unit) :=
  moment.step?.elim [] (Step.claims index moment.start)

theorem snd_claims (index : LinkIndex) (moment : Moment) :
    (moment.claims index).map Prod.snd = moment.attempted index := by
  unfold claims attempted
  cases moment.step? with
  | none => rfl
  | some step =>
    rw [Option.elim_some, Option.elim_some, Step.claims]
    cases hattempt : step.attempt? with
    | none =>
      rw [Step.attempted, hattempt]
      rfl
    | some attempt =>
      rw [Option.elim_some, List.map_map]
      exact List.map_id' _

theorem collect_claims (index : LinkIndex) (moment : Moment) :
    moment.collect Site.claims index = moment.claims index := by
  cases hstep : moment.step? with
  | some step =>
    rw [collect_of_step? hstep, step.collect_claims, claims, hstep, Option.elim_some]
  | none =>
    rw [collect_of_no_step Site.claims_of_plain (fun _ => rfl) hstep, claims, hstep,
      Option.elim_none]

/-- Whoever asks to listen in a moment has a runtime. -/
def Supported (moment : Moment) : Prop :=
  ∀ attempt, moment.attempt? = some attempt → attempt.runtime = true

theorem Supported.of_mem_claims {moment : Moment} (h : moment.Supported) {index : LinkIndex}
    {claim : Bool × Except BridgeError Unit} (hmem : claim ∈ moment.claims index) :
    claim.1 = true := by
  unfold claims at hmem
  cases hstep : moment.step? with
  | none =>
    rw [hstep] at hmem
    cases hmem
  | some step =>
    rw [hstep, Option.elim_some, Step.claims] at hmem
    cases hattempt : step.attempt? with
    | none =>
      rw [hattempt] at hmem
      cases hmem
    | some attempt =>
      rw [hattempt] at hmem
      obtain ⟨result, -, rfl⟩ := List.mem_map.1 hmem
      refine h attempt ?_
      rw [attempt?, hstep, Option.bind_some, hattempt]

end Moment

/-! ## The law of ownership -/

namespace World

/-- What a history has done to those who asked to listen on a link. -/
structure OwnershipLaw (moments : List Moment) (world : World) (index : LinkIndex)
    (link : Link CallbackRef) : Prop where
  /-- The first attempt succeeds and all others fail, if each has a runtime. -/
  attempts : (∀ moment ∈ moments, moment.Supported) →
    moments.flatMap (Moment.attempted index) = [] ∨
      ∃ count, moments.flatMap (Moment.attempted index) =
        .ok () :: List.replicate count (.error .listenerAlreadySet)
  /-- An attempt that fails leaves the whole world as it was: the transport with its queues, and the
  bridge with its table, registry, counter and replies. -/
  refused : ∀ moment ∈ moments, ∀ error, .error error ∈ moment.attempted index →
    moment.after = moment.start
  /-- Whose attempt has succeeded listens to the end. -/
  first : ∀ moment ∈ moments, ∀ attempt, moment.attempt? = some attempt →
    .ok () ∈ moment.attempted index → world.owner? index = some attempt.claimant
  /-- What comes in is heard once and in order, as far as it does not wait for the pump. -/
  heard : moments.flatMap (Moment.heard index) ++ link.backlog =
    moments.flatMap (Moment.arrived index)
  /-- Each text that is heard is one call of somebody, who listens to the end. -/
  calls : ∀ moment ∈ moments, ∀ text ∈ moment.heard index, moment.Calls index text ∧
    (moment.start.owner? index).isSome = true ∧
    world.owner? index = moment.start.owner? index

theorem History.ownershipLaw {moments : List Moment} {world : World} (h : History moments world)
    {index : LinkIndex} {link : Link CallbackRef} (hlink : world.links[index]? = some link) :
    OwnershipLaw moments world index link := by
  refine ⟨fun supported => ?_, fun moment _ error hrefused => Moment.after_of_refused hrefused,
    fun moment hmem attempt hattempt hgranted =>
      h.owner?_of_after hmem (Moment.owner?_of_granted hgranted hattempt),
    h.heard_append_backlog hlink, fun moment hmem text htext => h.calls hmem htext⟩
  obtain ⟨id, onChannel, now, incidents, -, halong⟩ := h.exists_run hlink
  have hclaims : (Site.made id onChannel now).along Site.claims incidents =
      moments.flatMap (Moment.claims index) :=
    (halong _ Site.claims Site.claims_of_plain).trans
      (h.flatMap_collect fun moment _ _ _ => moment.collect_claims index)
  have hattempted : ((Site.made (κ := CallbackRef) id onChannel now).along Site.claims
      incidents).map Prod.snd = moments.flatMap (Moment.attempted index) := by
    rw [hclaims, List.map_flatMap]
    simp only [Moment.snd_claims]
  rw [← hattempted]
  refine Site.claims_of_silent rfl incidents fun claim hmem => ?_
  rw [hclaims] at hmem
  obtain ⟨moment, hmoment, hclaim⟩ := List.mem_flatMap.1 hmem
  exact (supported moment hmoment).of_mem_claims hclaim

end World

/-! ## Sessions -/

namespace Step

variable {step : Step} {attempt : Attempt} {invoke : World.Invoke} {world : World}
  {index : LinkIndex} {link : Link CallbackRef} (hattempt : step.attempt? = some attempt)
  (hname : Fields.lookup attempt.transport world.transports = some index)
  (hlink : world.links[index]? = some link)
include hattempt hname hlink

theorem settles_attempt : world.Settles index link attempt (step.perform invoke world) := by
  obtain ⟨place, found, hplace, hfound, hsettles⟩ | ⟨habsent, -⟩ :=
    step.perform_attempt invoke world hattempt
  · obtain rfl := Option.some.inj (hplace.symm.trans hname)
    obtain rfl := Option.some.inj (hfound.symm.trans hlink)
    exact hsettles
  · cases (habsent index hname).symm.trans hlink

/-- Where somebody listens an attempt with a runtime fails, and nothing changes. -/
theorem perform_attempt_of_hasListener (supported : attempt.runtime = true)
    (hlistens : link.hasListener = true) :
    step.perform invoke world = (.failed .listenerAlreadySet, world) := by
  have hsettles : world.Settles index link attempt (step.perform invoke world) :=
    settles_attempt hattempt hname hlink
  have hresult : attempt.result link = .error .listenerAlreadySet := by
    rw [Attempt.result, supported, Link.install_of_hasListener hlistens]
  generalize step.perform invoke world = performed at hsettles ⊢
  cases hsettles with
  | refused hrefused => rw [Except.error.inj (hrefused.symm.trans hresult)]
  | granted hgranted => cases hgranted.symm.trans hresult

/-- Where nobody listens it succeeds, and its claimant listens. -/
theorem perform_attempt_of_silent (supported : attempt.runtime = true)
    (hsilent : link.hasListener = false) :
    (step.perform invoke world).1 = .done ∧
      (step.perform invoke world).2.owner? index = some attempt.claimant := by
  have hsettles : world.Settles index link attempt (step.perform invoke world) :=
    settles_attempt hattempt hname hlink
  have hresult : attempt.result link = .ok () := by
    obtain ⟨transport, hinstalled⟩ := Link.install_of_silent hsilent attempt.claimant.listener
    rw [Attempt.result, supported, hinstalled]
  generalize step.perform invoke world = performed at hsettles ⊢
  cases hsettles with
  | refused hrefused => cases hrefused.symm.trans hresult
  | granted _ howner => exact ⟨rfl, howner⟩

end Step

namespace Session

section attempt

variable {world : World} {index : LinkIndex} {step : Step} {attempt : Attempt}
  {link : Link CallbackRef} (hattempt : step.attempt? = some attempt)
  (supported : attempt.runtime = true)
  (hname : Fields.lookup attempt.transport world.transports = some index)
  (hlink : world.links[index]? = some link)
include hattempt supported hname hlink

/-- Where somebody listens a step that asks to fails, and nothing changes. -/
theorem step_attempt_of_hasListener (hidle : world.ready = [])
    (hlistens : link.hasListener = true) :
    Session.step world step =
      (⟨.failed .listenerAlreadySet, [], []⟩, { world with events := [], log := [] }) := by
  have hperform : World.perform { world with events := [], log := [] } step =
      (.failed .listenerAlreadySet, { world with events := [], log := [] }) :=
    Step.perform_attempt_of_hasListener hattempt hname hlink supported hlistens
  rw [step_of_idle hperform hidle, sortExpiries_nil]

/-- Where nobody listens it succeeds, and its claimant listens. -/
theorem step_attempt_of_silent (sound : world.Sound none) (hsilent : link.hasListener = false) :
    (Session.step world step).1.answer = .done ∧
      (Session.step world step).2.owner? index = some attempt.claimant := by
  obtain ⟨hanswer, howner⟩ : (World.perform { world with events := [], log := [] } step).1 = .done ∧
      (World.perform { world with events := [], log := [] } step).2.owner? index =
        some attempt.claimant :=
    Step.perform_attempt_of_silent hattempt hname hlink supported hsilent
  have hperformed := (passage_perform sound step).chain.sound sound
  exact ⟨hanswer, (World.passage_runPumps hperformed).1.chain.owner?_eq hperformed howner⟩

end attempt

theorem owner?_behind {world : World} (sound : world.Sound none) {index : LinkIndex}
    {claimant : Claimant} (howner : world.owner? index = some claimant) (steps : List Step) :
    (behind world steps).owner? index = some claimant :=
  (chain_behind sound steps).owner?_eq sound howner

/-- Whoever asks first to listen on a transport listens for good, and all others fail and change
nothing.

For each link and every history that is `World.OwnershipLaw`, and `Session.history` is a history
that the reports of the session bear out.  A delivery is one call of the listener, and then the
callbacks are called; between two steps everything that has come in was heard.  The four steps of a
session that ask to listen, wherever they are performed, fail and change nothing where somebody
listens already; otherwise they succeed, and whatever the session does next, their claimant listens.
-/
theorem one_listener :
    (∀ steps, Recounts steps (history steps)) ∧
    (∀ invoke index text world, World.deliver invoke index text world =
      World.goOn invoke (world.hear index text) (world.hearing? index text)) ∧
    (∀ moments world index link, World.History moments world → world.links[index]? = some link →
      World.OwnershipLaw moments world index link) ∧
    (∀ steps index, ((behind {} steps).owner? index).isSome = true →
      (history steps).flatMap (Moment.heard index) =
        (history steps).flatMap (Moment.arrived index)) ∧
    (∀ invoke (world : World) (step : Step) attempt index link, step.attempt? = some attempt →
      attempt.runtime = true → Fields.lookup attempt.transport world.transports = some index →
      world.links[index]? = some link → link.hasListener = true →
        step.perform invoke world = (.failed .listenerAlreadySet, world)) ∧
    (∀ steps (step : Step) attempt index link, step.attempt? = some attempt →
      attempt.runtime = true →
      Fields.lookup attempt.transport (behind {} steps).transports = some index →
      (behind {} steps).links[index]? = some link →
        (link.hasListener = false →
          (Session.step (behind {} steps) step).1.answer = .done ∧
            ∀ more, (behind {} (steps ++ step :: more)).owner? index = some attempt.claimant) ∧
        (link.hasListener = true →
          Session.step (behind {} steps) step =
              (⟨.failed .listenerAlreadySet, [], []⟩,
                { behind {} steps with events := [], log := [] }) ∧
            ∀ more, (behind {} (steps ++ step :: more)).owner? index = link.owner?)) := by
  refine ⟨recounts_history, World.deliver_eq,
    fun _ _ _ _ history hlink => history.ownershipLaw hlink,
    fun steps _ listening => heard_eq_arrived steps listening,
    fun _ _ _ _ _ _ hattempt supported hname hlink hlistens =>
      Step.perform_attempt_of_hasListener hattempt hname hlink supported hlistens,
    fun steps step attempt index link hattempt supported hname hlink =>
      ⟨fun hsilent => ?_, fun hlistens => ?_⟩⟩
  · have sound := sound_behind World.sound_empty steps
    obtain ⟨hanswer, howner⟩ := step_attempt_of_silent hattempt supported hname hlink sound hsilent
    refine ⟨hanswer, fun more => ?_⟩
    rw [behind_append]
    exact owner?_behind ((passage_step sound step).1.chain.sound sound) howner more
  · have sound := sound_behind World.sound_empty steps
    have hidle := ready_behind World.sound_empty rfl steps
    refine ⟨step_attempt_of_hasListener hattempt supported hname hlink hidle hlistens,
      fun more => ?_⟩
    obtain ⟨claimant, howner⟩ : ∃ claimant, link.owner? = some claimant :=
      Option.isSome_iff_exists.1 ((Link.isSome_owner? link).trans hlistens)
    have hworld := (World.owner?_of_link hlink).trans howner
    rw [behind_append, howner]
    exact owner?_behind sound hworld (step :: more)

/-- A bridge is dropped while its request waits, and then a second one asks for its transport: it
gets nothing, and the text that the host hands over next is still for the first one. -/
theorem one_listener_of_dropped_owner :
    let dropped : List Step :=
      [.createMemory "host" "id", .buildBridge "host" "first" [],
        .send "first" "reply" "ask" .absent none, .dropBridge "first"]
    let second : Step := .openBridge "host" "second" (.shipped (.named "second")) true
    let steps := dropped ++ [second, .deliver "host" "text"]
    (Session.step (behind {} dropped) second).1.answer = .failed .listenerAlreadySet ∧
      (behind {} steps).owner? 0 = some (.bridge (ConfigEdit.build [])) ∧
      (history steps).flatMap (Moment.attempted 0) = [.ok (), .error .listenerAlreadySet] ∧
      (history steps).flatMap (Moment.heard 0) = ["text"] := by
  intro dropped second steps
  obtain ⟨-, -, -, hheard, -, hsession⟩ := one_listener
  have howner : (behind {} dropped).owner? 0 = some (.bridge (ConfigEdit.build [])) := by
    cbv
  have hname : Fields.lookup "host" (behind {} dropped).transports = some 0 := by
    cbv
  have hattempted : (history steps).flatMap (Moment.attempted 0) =
      [.ok (), .error .listenerAlreadySet] := by
    cbv
  have harrived : (history steps).flatMap (Moment.arrived 0) = ["text"] := by
    cbv
  obtain ⟨link, hlink, hclaimant⟩ := Option.bind_eq_some_iff.1 howner
  have hlistens : link.hasListener = true := by
    rw [← Link.isSome_owner?, hclaimant]
    rfl
  obtain ⟨hstep, hlater⟩ := (hsession dropped second
    ⟨"host", .bridge (Config.named "second"), true⟩ 0 link rfl rfl hname hlink).2 hlistens
  have hstill : (behind {} steps).owner? 0 = some (.bridge (ConfigEdit.build [])) :=
    (hlater [.deliver "host" "text"]).trans hclaimant
  refine ⟨by rw [hstep], hstill, hattempted, ?_⟩
  rw [hheard steps 0 (by rw [hstill]; rfl), harrived]

end Session
end HostLink
