import HostLink.Proofs.History
import HostLink.Proofs.Interchange

/-!
# The pumps come to rest

After each step of a session the pumps run, and their fuel lasts: each message that a pump drains
and each turn that a pump takes was counted in the burden of the world, and neither a delivery nor
the scripts that it sets off add to it.  So every step ends with no pump about to run
(`Session.passage_step`), and a channel on which somebody listens then has nothing left to deliver
(`Session.inbox_behind`).

With that the history of a session is a chain of moments that leads to where the session does
(`Session.history_behind`).
-/

namespace HostLink
namespace World

variable {world : World} {index : LinkIndex} {channel : Channel}

/-! ## Draining a queue -/

theorem takeText_eq {link : Link CallbackRef} (hlink : world.links[index]? = some link)
    (hchannel : link.channel? = some channel) {text : String} {rest : List String}
    (hinbox : channel.inbox = text :: rest) : world.takeText index =
      world.setLink index (link.withChannel { channel with inbox := rest }) := by
  rw [takeText, onChannel_of_link hlink hchannel, hinbox, List.tail_cons]

theorem drain_of_cons (hchannel : world.channel? index = some channel) {text : String}
    {rest : List String} (hinbox : channel.inbox = text :: rest) (fuel : Nat) :
    drain (fuel + 1) index world = drain fuel index
      (deliver (call (world.takeText index).scriptCount) index text (world.takeText index)) := by
  obtain ⟨link, hlink, hlinkChannel⟩ := exists_link_of_channel? hchannel
  rw [takeText_eq hlink hlinkChannel hinbox, drain, hlink]
  dsimp only
  rw [hlinkChannel]
  dsimp only
  rw [hinbox]

theorem drain_of_nil (hchannel : world.channel? index = some channel)
    (hinbox : channel.inbox = []) (fuel : Nat) :
    drain (fuel + 1) index world = world.restPump index := by
  obtain ⟨link, hlink, hlinkChannel⟩ := exists_link_of_channel? hchannel
  rw [restPump, onChannel_of_link hlink hlinkChannel, drain, hlink]
  dsimp only
  rw [hlinkChannel]
  dsimp only
  rw [hinbox]

theorem runPump_of_channel (hchannel : world.channel? index = some channel) (fuel : Nat) :
    runPump fuel index world =
      if channel.pump = .fresh then drain fuel index (world.startPump index)
      else drain fuel index world := by
  obtain ⟨link, hlink, hlinkChannel⟩ := exists_link_of_channel? hchannel
  rw [startPump, onChannel_of_link hlink hlinkChannel, runPump, hlink]
  dsimp only
  rw [hlinkChannel]

theorem Sound.exists_channel (h : world.Sound (some index)) :
    ∃ channel, world.channel? index = some channel := by
  obtain ⟨link, channel, hlink, hchannel, -⟩ := h.exists_running
  exact ⟨channel, (channel?_of_link hlink).trans hchannel⟩

/-- The pump takes a message, the listener is called with it, and the delivery goes to its end; that
leaves the pumps less to do. -/
theorem Sound.takeMessage (h : world.Sound (some index))
    (hchannel : world.channel? index = some channel) {text : String}
    (hhead : channel.inbox.head? = some text) :
    let taken := world.takeText index
    Passage (some index) world
        (⟨.pumped index text, world⟩ ::
          goOnMoments (call taken.scriptCount) (callMoments taken.scriptCount)
            (taken.hear index text) (taken.hearing? index text)) 0 (some index)
        (deliver (call taken.scriptCount) index text taken) ∧
      (deliver (call taken.scriptCount) index text taken).burden < world.burden := by
  intro taken
  have hdue : Deed.Due (some index) world (.pumped index text) := ⟨rfl, channel, hchannel, hhead⟩
  have hpumped := Passage.single h hdue
  have hwentOn := passage_goOn (recorded_call taken.scriptCount) (hpumped.chain.sound h)
    (taken.hearing? index text)
  rw [deliver_eq]
  have hless := (h.pumped hchannel hhead).2
  have hspent := hwentOn.burden
  exact ⟨hpumped.trans hwentOn, Nat.lt_of_le_of_lt hspent hless⟩

/-- A pump that has its turn drains its queue, whatever the deliveries bring, and then gives its
turn away. -/
theorem passage_drain {fuel : Nat} (sound : world.Sound (some index))
    (hfuel : world.burden < fuel) :
    Passage (some index) world (drainMoments fuel index world) 0 none (drain fuel index world) := by
  induction fuel generalizing world with
  | zero => exact absurd hfuel (Nat.not_lt_zero _)
  | succ fuel ih =>
    obtain ⟨channel, hchannel⟩ := sound.exists_channel
    unfold drainMoments
    rw [hchannel]
    dsimp only
    cases hinbox : channel.inbox with
    | nil =>
      have hdue : Deed.Due (some index) world (.rested index) := ⟨rfl, channel, hchannel, hinbox⟩
      rw [drain_of_nil hchannel hinbox]
      exact .single sound hdue
    | cons text rest =>
      obtain ⟨hdelivered, hless⟩ := sound.takeMessage hchannel (congrArg List.head? hinbox)
      have hrest := ih (hdelivered.chain.sound sound)
        (Nat.lt_of_lt_of_le hless (Nat.le_of_lt_succ hfuel))
      rw [drain_of_cons hchannel hinbox]
      exact hdelivered.trans hrest

/-- A pump that starts does so before it drains its queue. -/
theorem passage_runPump {fuel : Nat} (sound : world.Sound (some index))
    (hfuel : world.burden < fuel) :
    Passage (some index) world (pumpMoments fuel index world) 0 none
      (runPump fuel index world) := by
  obtain ⟨channel, hchannel⟩ := sound.exists_channel
  unfold pumpMoments
  rw [runPump_of_channel hchannel, hchannel]
  dsimp only
  split
  · next hfresh =>
    have hdue : Deed.Due (some index) world (.started index) := ⟨rfl, channel, hchannel, hfresh⟩
    have hstarted := Passage.single sound hdue
    have hdrained := passage_drain (hstarted.chain.sound sound)
      (Nat.lt_of_le_of_lt hstarted.burden hfuel)
    exact hstarted.trans hdrained
  · exact passage_drain sound hfuel

/-! ## All pumps -/

/-- The pumps that are ready take their turns, and then none is. -/
theorem passage_runPumpsFor {fuel drainFuel : Nat} (sound : world.Sound none)
    (hfuel : world.burden < fuel) (hdrain : world.burden < drainFuel) :
    Passage none world (pumpsMoments fuel drainFuel world) 0 none
        (runPumpsFor fuel drainFuel world) ∧
      (runPumpsFor fuel drainFuel world).ready = [] := by
  induction fuel generalizing world with
  | zero => exact absurd hfuel (Nat.not_lt_zero _)
  | succ fuel ih =>
    unfold runPumpsFor pumpsMoments
    cases hready : world.ready with
    | nil => exact ⟨.refl _ _, hready⟩
    | cons index rest =>
      dsimp only
      have hdue : Deed.Due none world (.turn index) := ⟨rfl, congrArg List.head? hready⟩
      obtain ⟨hpopped, hless⟩ := sound.popTurn hready
      have hturn : Passage none world [⟨.turn index, world⟩] 0 (some index)
          { world with ready := rest } := by
        have hsingle := Passage.single sound hdue
        simp only [Deed.effect, hready, List.tail_cons] at hsingle
        exact hsingle
      have hran := passage_runPump hpopped.sound (Nat.lt_of_le_of_lt (by omega) hdrain)
      have hspent := hran.burden
      obtain ⟨hrest, hidle⟩ := ih (hran.chain.sound hpopped.sound) (by omega) (by omega)
      exact ⟨hturn.trans (hran.trans hrest), hidle⟩

/-- Running the pumps leaves none about to run. -/
theorem passage_runPumps (sound : world.Sound none) :
    Passage none world (pumpsMoments (world.burden + 1) (world.burden + 1) world) 0 none
        world.runPumps ∧
      world.runPumps.ready = [] :=
  passage_runPumpsFor sound (Nat.lt_succ_self _) (Nat.lt_succ_self _)

end World

/-! ## Sessions -/

theorem sortExpiries_nil : sortExpiries [] = [] := by
  simp [sortExpiries, sortExpiriesAfter, flushRun]

namespace Session

variable {world : World}

/-- A step after which no pump is about to run. -/
theorem step_of_idle {step : Step} {answer : Answer} {after : World}
    (hperform : World.perform { world with events := [], log := [] } step = (answer, after))
    (hidle : after.ready = []) :
    Session.step world step = (⟨answer, after.events, sortExpiries after.log⟩, after) := by
  have hpumps : after.runPumps = after := World.runPumpsFor_of_idle hidle _ _
  simp only [Session.step, hperform, hpumps]

/-- A step of a session is its moments, before its pumps run. -/
theorem passage_perform (sound : world.Sound none) (step : Step) :
    let fresh := { world with events := [], log := [] }
    let fuel := fresh.scriptCount + step.scriptCount
    World.Passage none world
      (⟨.performed step, world⟩ ::
        World.goOnMoments (World.call fuel) (World.callMoments fuel) (step.begin fresh)
          (step.opening? fresh)) (2 * step.stepCount + 2) none (fresh.perform step).2 := by
  intro fresh fuel
  have hdue : Deed.Due none world (.performed step) := trivial
  have hbegun := World.Passage.single sound hdue
  rw [World.perform, step.perform_eq]
  exact hbegun.trans (World.passage_goOn (World.recorded_call fuel) (hbegun.chain.sound sound) _)

/-- A step of a session, with the pumps after it, is its moments, and leaves no pump about to
run. -/
theorem passage_step (sound : world.Sound none) (step : Step) :
    World.Passage none world (stepMoments world step) (2 * step.stepCount + 2) none
        (Session.step world step).2 ∧
      (Session.step world step).2.ready = [] := by
  have hperformed := passage_perform sound step
  obtain ⟨hran, hidle⟩ := World.passage_runPumps (hperformed.chain.sound sound)
  exact ⟨hperformed.trans hran, hidle⟩

theorem behind_append (world : World) (before after : List Step) :
    behind world (before ++ after) = behind (behind world before) after :=
  List.foldl_append

/-- The moments of steps lead from the world before them to the one behind them. -/
theorem chain_behind (sound : world.Sound none) (steps : List Step) :
    World.Chain none world (historyFrom world steps) none (behind world steps) := by
  induction steps generalizing world with
  | nil => exact .nil _ _
  | cons step rest ih =>
    have hstep := (passage_step sound step).1.chain
    exact hstep.append (ih (hstep.sound sound))

theorem sound_behind (sound : world.Sound none) (steps : List Step) :
    (behind world steps).Sound none :=
  (chain_behind sound steps).sound sound

/-- Between two steps no pump is about to run. -/
theorem ready_behind (sound : world.Sound none) (hidle : world.ready = []) (steps : List Step) :
    (behind world steps).ready = [] := by
  induction steps generalizing world with
  | nil => exact hidle
  | cons step rest ih =>
    obtain ⟨hstep, hrested⟩ := passage_step sound step
    exact ih (hstep.chain.sound sound) hrested

/-- The history of a session leads to where the session does. -/
theorem history_behind (steps : List Step) : World.History (history steps) (behind {} steps) :=
  ⟨none, chain_behind World.sound_empty steps⟩

/-- Between two steps no pump runs. -/
theorem idle_behind (steps : List Step) {index : LinkIndex} {inlet : Inlet}
    (hinlet : (behind {} steps).inlet? index = some inlet) : inlet.pump.running = false := by
  apply Bool.eq_false_iff.2
  intro hrunning
  have hturn := ((sound_behind World.sound_empty steps).running index).2 ⟨inlet, hinlet, hrunning⟩
  rw [World.turns, ready_behind World.sound_empty rfl steps] at hturn
  cases hturn

/-- Between two steps a channel has nothing left to deliver if somebody listens. -/
theorem inbox_behind (steps : List Step) {index : LinkIndex} {inlet : Inlet}
    (hinlet : (behind {} steps).inlet? index = some inlet) (listening : inlet.listening = true) :
    inlet.inbox = [] := by
  have sound := (sound_behind World.sound_empty steps).inlets index inlet hinlet
  exact sound.inbox_of_idle listening (idle_behind steps hinlet)

end Session
end HostLink
