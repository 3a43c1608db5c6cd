import HostLink.Session.Perform

/-!
# Sessions: running

A call of a callback notes the payload and runs the callback's next script, whose steps may call
callbacks again.  Scripts are used up as they run and no step makes a script that it does not carry,
so the number of scripts around bounds how deep calls nest; that is the fuel.

After every step of the session itself the pumps of channel transports run until nothing is left for
them to do.
-/

namespace HostLink
namespace World

/-! ## Calls -/

/-- Perform the steps of a callback's script, noting the answer of each. -/
def runScript (invoke : Invoke) (subscription : String) (world : World) (script : List Step) :
    World :=
  script.foldl
    (fun world step =>
      let (answer, after) := step.perform invoke world
      after.note (.ran subscription answer))
    world

/-- Call a callback; calls nest at most `fuel` deep. -/
def call : (fuel : Nat) → Invoke
  | fuel, ref, payload, world =>
    match world.callbacks[ref.index]? with
    | none => world
    | some callback =>
      let noted := world.note (.called callback.subscription payload.toJson)
      match callback.scripts, fuel with
      | script :: later, fuel + 1 =>
        let taken := { noted with
          callbacks := noted.callbacks.set ref.index { callback with scripts := later } }
        runScript (call fuel) callback.subscription taken script
      | _, _ => noted

/-- Perform a step, with fuel for all scripts there are. -/
def perform (world : World) (step : Step) : Answer × World :=
  step.perform (call (world.scriptCount + step.scriptCount)) world

/-! ## Pumps -/

/-- Put the pump of a link in the given state. -/
def setPump (world : World) (index : LinkIndex) (link : Link CallbackRef) (channel : Channel)
    (pump : Pump) : World :=
  world.setLink index (link.withChannel { channel with pump })

/-- Drain the queue of a link into its listener; the pump then waits, or stops if the endpoint is
gone. -/
def drain : (fuel : Nat) → LinkIndex → World → World
  | 0, _, world => world
  | fuel + 1, index, world =>
    match world.links[index]? with
    | none => world
    | some link =>
      match link.channel? with
      | none => world
      | some channel =>
        match channel.inbox with
        | message :: rest =>
          let taken := world.setLink index (link.withChannel { channel with inbox := rest })
          drain fuel index (deliver (call taken.scriptCount) index message taken)
        | [] =>
          if channel.endpointOpen then world.setPump index link channel .waiting
          else (world.setPump index link channel .finished).write [.pumpStopped link.transport.id]

/-- Run the pump of a link, which reports if it starts. -/
def runPump (fuel : Nat) (index : LinkIndex) (world : World) : World :=
  match world.links[index]? with
  | none => world
  | some link =>
    match link.channel? with
    | none => world
    | some channel =>
      if channel.pump = .fresh then
        drain fuel index
          ((world.setPump index link channel .awake).write [.pumpStarted link.transport.id])
      else drain fuel index world

/-- Run the pumps that are ready, first come first served. -/
def runPumpsFor : (fuel : Nat) → (drainFuel : Nat) → World → World
  | 0, _, world => world
  | fuel + 1, drainFuel, world =>
    match world.ready with
    | [] => world
    | index :: rest =>
      runPumpsFor fuel drainFuel (runPump drainFuel index { world with ready := rest })

/-- Run the pumps until nothing is left for them to do.  Each message that is drained was waiting
already or is posted by a step of a script, and each time that a pump becomes ready is due to one of
those. -/
def runPumps (world : World) : World :=
  let work := world.backlog + world.ready.length + 2 * world.stepCount + 1
  runPumpsFor work work world

end World

/-! ## Sessions -/

/-- What one step of a session brought. -/
structure StepReport where
  answer : Answer
  events : List Event
  log : List LogEvent

namespace Session

/-- Run one step and the pumps after it. -/
def step (world : World) (step : Step) : StepReport × World :=
  let (answer, performed) := World.perform { world with events := [], log := [] } step
  let settled := performed.runPumps
  ({ answer, events := settled.events, log := sortExpiries settled.log }, settled)

/-- Run steps from a given world. -/
def runFrom (world : World) : List Step → List StepReport
  | [] => []
  | first :: rest =>
    let (report, after) := step world first
    report :: runFrom after rest

/-- Run a session. -/
def run (steps : List Step) : List StepReport := runFrom {} steps

end Session
end HostLink
