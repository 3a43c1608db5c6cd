import Mathlib
import HostLink.Proofs.Observing

/-!
# What comes in over a channel arrives in order

The endpoint of a channel posts whenever it likes: before anybody listens, while the pump is busy,
and until it goes away.  What the listener was called with and what still waits is at any moment of
any history exactly what was posted, in that order (`World.InboundLaw`).  So nothing is lost,
repeated or overtaken, and a pump that has come to rest has delivered everything.

What was posted is read off the answers of the steps that post, and what was heard off the calls of
the listener.
-/

namespace HostLink

namespace World

/-- What the endpoint of a channel has posted in a history, and what the listener was called
with. -/
structure InboundLaw (moments : List Moment) (world : World) (index : LinkIndex)
    (channel : Channel) : Prop where
  /-- What was heard is the first part of what was posted, and the rest waits. -/
  split : moments.flatMap (Moment.heard index) ++ channel.inbox =
    moments.flatMap (Moment.arrived index)
  /-- Each text that was heard is one call of somebody, who listens to the end. -/
  calls : ∀ moment ∈ moments, ∀ text ∈ moment.heard index, moment.Calls index text ∧
    (moment.start.owner? index).isSome = true ∧
    world.owner? index = moment.start.owner? index
  /-- That is whose attempt has succeeded, and nobody else. -/
  first : ∀ moment ∈ moments, ∀ attempt, moment.attempt? = some attempt →
    .ok () ∈ moment.attempted index → world.owner? index = some attempt.claimant
  /-- When the pump rests everything was heard. -/
  rest : (world.owner? index).isSome = true → channel.pump.running = false →
    moments.flatMap (Moment.heard index) = moments.flatMap (Moment.arrived index)
  /-- An attempt that fails takes no text from the queue, does not change the listener, and leaves
  everything else as it was too. -/
  refused : ∀ moment ∈ moments, ∀ error, .error error ∈ moment.attempted index →
    moment.after = moment.start

theorem History.inboundLaw {moments : List Moment} {world : World} (h : History moments world)
    {index : LinkIndex} {channel : Channel} (hchannel : world.channel? index = some channel) :
    InboundLaw moments world index channel := by
  obtain ⟨link, hlink, hlinkChannel⟩ := exists_link_of_channel? hchannel
  have hsplit := h.heard_append_backlog hlink
  rw [Link.backlog_of_channel? hlinkChannel] at hsplit
  refine ⟨hsplit, fun moment hmem text htext => h.calls hmem htext,
    fun moment hmem attempt hattempt hgranted => ?_, fun listening idle => ?_,
    fun moment _ error hrefused => Moment.after_of_refused hrefused⟩
  · exact h.owner?_of_after hmem (Moment.owner?_of_granted hgranted hattempt)
  · obtain ⟨busy, chain⟩ := h
    have hinlet := link.inlet?_of_channel? hlinkChannel
    have sound := (chain.sound sound_empty).inlets index _ ((inlet?_of_link hlink).trans hinlet)
    have hlistens : link.hasListener = true := by
      rwa [owner?_of_link hlink, Link.isSome_owner?] at listening
    have hempty : channel.inbox = [] := sound.inbox_of_idle hlistens idle
    rwa [hempty, List.append_nil] at hsplit

end World

/-! ## Sessions -/

namespace Session

/-- Between two steps everything that has come in was heard, where somebody listens. -/
theorem heard_eq_arrived (steps : List Step) {index : LinkIndex}
    (listening : ((behind {} steps).owner? index).isSome = true) :
    (history steps).flatMap (Moment.heard index) =
      (history steps).flatMap (Moment.arrived index) := by
  obtain ⟨claimant, howner⟩ := Option.isSome_iff_exists.1 listening
  obtain ⟨link, hlink, hclaimant⟩ := Option.bind_eq_some_iff.1 howner
  have hlistens : link.hasListener = true := by
    rw [← Link.isSome_owner?, hclaimant]
    rfl
  have hempty : link.backlog = [] := by
    cases hinlet : link.inlet? with
    | none => rw [Link.backlog, hinlet]; rfl
    | some inlet =>
      rw [Link.backlog_of_inlet? hinlet]
      exact inbox_behind steps ((World.inlet?_of_link hlink).trans hinlet)
        ((Link.listening_of_inlet? hinlet).trans hlistens)
  have hsplit := (history_behind steps).heard_append_backlog hlink
  rwa [hempty, List.append_nil] at hsplit

/-- Whatever happens on a channel, in whatever order: what the listener was called with, followed by
what waits, is what the endpoint has posted; all of it was heard by the first listener, in one call
each; a pump that rests has delivered everything; and attempts to listen that fail change nothing.

This holds at every moment of every history, and `Session.history` is one that the reports of the
session bear out.  A delivery is one call of the listener, and then the callbacks are called.
Between two steps of a session the pumps rest, so that everything posted was heard. -/
theorem inbound_in_order :
    (∀ steps, Recounts steps (history steps)) ∧
    (∀ invoke index text world, World.deliver invoke index text world =
      World.goOn invoke (world.hear index text) (world.hearing? index text)) ∧
    (∀ moments world index channel, World.History moments world →
      world.channel? index = some channel → World.InboundLaw moments world index channel) ∧
    (∀ steps index, ((behind {} steps).owner? index).isSome = true →
      (history steps).flatMap (Moment.heard index) =
        (history steps).flatMap (Moment.arrived index)) ∧
    (∀ invoke (world : World) (step : Step) attempt error, step.attempt? = some attempt →
      (step.perform invoke world).1 = .failed error → (step.perform invoke world).2 = world) :=
  ⟨recounts_history, World.deliver_eq,
    fun _ _ _ _ history hchannel => history.inboundLaw hchannel,
    fun steps _ listening => heard_eq_arrived steps listening,
    fun _ _ _ _ _ hattempt hfailed => Step.perform_of_refused hattempt hfailed⟩

/-- A text is posted before anybody listens, and another one by a callback that drops the endpoint
at once, with a second attempt to listen in between.  The first observer hears both. -/
theorem inbound_in_order_of_early_text :
    let steps : List Step :=
      [.createChannel "channel" "id", .endpointPost "channel" "early", .observe "channel",
        .observe "channel", .createMemory "host" "id", .buildBridge "host" "bridge" [],
        .subscribe "bridge" "subscription" "go"
          [[.endpointPost "channel" "late", .dropEndpoint "channel"]],
        .dispatch "bridge" "go" .null]
    (history steps).flatMap (Moment.attempted 0) = [.ok (), .error .listenerAlreadySet] ∧
      (history steps).flatMap (Moment.heard 0) = ["early", "late"] ∧
      observedIn "channel" ((run steps).flatMap StepReport.events) = ["early", "late"] := by
  intro steps
  obtain ⟨hrecounts, -, hlaw, -⟩ := inbound_in_order
  have hattempted : (history steps).flatMap (Moment.attempted 0) =
      [.ok (), .error .listenerAlreadySet] := by
    cbv
  have harrived : (history steps).flatMap (Moment.arrived 0) = ["early", "late"] := by
    cbv
  have howner : ((behind {} steps).owner? 0).isSome = true := by
    cbv
  have hchannel : (behind {} steps).channel? 0 =
      some { endpointOpen := false, pump := .finished } := by
    cbv
  have hobserved : (history steps).flatMap (Moment.observed "channel") = ["early", "late"] := by
    cbv
  have law := hlaw _ _ 0 _ (hrecounts steps).leads hchannel
  refine ⟨hattempted, (law.rest howner rfl).trans harrived, ?_⟩
  rw [(hrecounts steps).observed, hobserved]

end Session
end HostLink
