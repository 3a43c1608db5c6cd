import HostLink.Proofs.Sparing

/-!
# How a step begins

A step that brings a message to a bridge calls callbacks, which run steps of their own.  What the
step does before the first of these calls is `Step.begin`, and what it answers, `Step.answer`, does
not depend on the calls.  `Step.perform_eq` puts the step together again: its beginning, then the
calls of the delivery that it has opened, if it has, and then the bridge is let go of.

`World.hear` is one call of the listener of a link, as far as it goes before callbacks are called.
Wherever a message is delivered, by a host or by a pump, the listener is called so, once
(`World.deliver_eq`).
-/

namespace HostLink
namespace World

/-- Calls of callbacks that do nothing. -/
def silent : Invoke := fun _ _ world => world

/-- The listener of a link is called with a message, up to where it calls callbacks: an observer
notes the message, a bridge that someone holds receives it, and one that is gone says so. -/
def hear (world : World) (index : LinkIndex) (message : String) : World :=
  match world.links[index]? with
  | none => world
  | some link =>
    match link.listener with
    | .nobody => world
    | .observer name => world.note (.heard name message)
    | .bridge bridge =>
      if bridge.live then (world.opening index link bridge message).world
      else world.write [.bridgeGone]

/-- The host of a name hands a message to the listener, if there is one. -/
def hostHear (world : World) (name message : String) : World :=
  (world.onHost name fun index link _ =>
    (.done,
      if link.hasListener then
        (world.write [.delivered link.transport.id message]).hear index message
      else world)).2

/-- The callbacks of a delivery are called, and then its bridge is let go of. -/
def goOn (invoke : Invoke) (begun : World) : Option Opening → World
  | some opening => (fanOut invoke opening.calls begun).unpin opening.link
  | none => begun

/-- A message that is delivered is one call of the listener. -/
theorem deliver_eq (invoke : Invoke) (index : LinkIndex) (message : String) (world : World) :
    deliver invoke index message world =
      goOn invoke (world.hear index message) (world.hearing? index message) := by
  unfold deliver hear hearing?
  cases world.links[index]? with
  | none => rfl
  | some link =>
    dsimp only
    cases link.listener with
    | nobody => rfl
    | observer name => rfl
    | bridge bridge =>
      dsimp only
      cases bridge.live with
      | true => rfl
      | false => rfl

end World

namespace Step

variable (invoke : World.Invoke) (world : World)

/-- What a step answers. -/
def answer (step : Step) (world : World) : Answer := (step.perform World.silent world).1

/-- The world behind a step, up to where callbacks are called. -/
def begin (world : World) : Step → World
  | .deliver name text => world.hostHear name text
  | .deliverJson name value => world.hostHear name value.compact
  | .onReply name text => (((Step.onReply name text).opening? world).map Opening.world).getD world
  | .dispatch name event value =>
    (((Step.dispatch name event value).opening? world).map Opening.world).getD world
  | step => (step.perform World.silent world).2

/-- A message that a host brings is one call of the listener, if there is one. -/
theorem hostDeliver_eq (name message : String) :
    (world.onHost name fun index link _ => World.hostDeliver invoke world index link message) =
      ((world.onHost name fun index link _ =>
          World.hostDeliver World.silent world index link message).1,
        World.goOn invoke (world.hostHear name message) (world.hostHearing? name message)) := by
  unfold World.hostHear World.hostHearing? World.onHost World.onNative
  cases Fields.lookup name world.natives with
  | none => rfl
  | some index =>
    dsimp only [Option.bind_some]
    cases hlink : world.links[index]? with
    | none => rfl
    | some link =>
      dsimp only [Option.bind_some]
      cases link.host? with
      | none => rfl
      | some host =>
        dsimp only [Option.bind_some]
        unfold World.hostDeliver
        cases hlistens : link.hasListener with
        | true =>
          simp only [if_true]
          rw [World.deliver_eq]
        | false =>
          have hwritten : (world.write [.delivered link.transport.id message]).links[index]? =
              some link := hlink
          have hnone : (world.write [.delivered link.transport.id message]).hearing?
              index message = none := by
            unfold World.hearing?
            rw [hwritten]
            dsimp only
            cases hlistener : link.listener with
            | nobody => rfl
            | observer name => rfl
            | bridge bridge => simp [Link.hasListener, hlistener] at hlistens
          rw [hnone]
          rfl

/-- What follows where a step has opened a delivery at a bridge that has a name. -/
theorem onBridge_eq (name : String)
    (opens : BridgeHandle → Link CallbackRef → Bridge CallbackRef → Opening) :
    (world.onBridge name fun handle link bridge =>
        (.done, (opens handle link bridge).close invoke)) =
      ((world.onBridge name fun handle link bridge =>
          (.done, (opens handle link bridge).close World.silent)).1,
        World.goOn invoke (((world.bridgeOpening? name opens).map Opening.world).getD world)
          (world.bridgeOpening? name opens)) := by
  unfold World.bridgeOpening? World.onBridge
  cases Fields.lookup name world.bridges with
  | none => rfl
  | some handle =>
    dsimp only [Option.bind_some]
    cases world.links[handle.link]? with
    | none => rfl
    | some link =>
      dsimp only [Option.bind_some]
      cases link.bridge? with
      | none => rfl
      | some bridge => rfl

/-- A step begins, and then come the calls of the delivery that it has opened. -/
theorem perform_eq (step : Step) : step.perform invoke world =
    (step.answer world, World.goOn invoke (step.begin world) (step.opening? world)) := by
  cases step with
  | deliver name text => exact hostDeliver_eq invoke world name text
  | deliverJson name value => exact hostDeliver_eq invoke world name value.compact
  | onReply name text =>
    exact onBridge_eq invoke world name (world.opening ·.link · · text)
  | dispatch name event value =>
    exact onBridge_eq invoke world name fun handle _ bridge =>
      ⟨handle.link, (bridge.dispatch event value).2,
        (world.write (bridge.dispatch event value).1).pin handle.link⟩
  | openFacade name facade source =>
    cases source with
    | transport transport => simp only [perform, answer, begin, opening?, World.goOn]
    | bridge bridge => simp only [perform, answer, begin, opening?, World.goOn]
  | _ => simp only [perform, answer, begin, opening?, World.goOn]

end Step
end HostLink
