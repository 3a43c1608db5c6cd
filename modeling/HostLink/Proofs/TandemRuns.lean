import HostLink.Proofs.Pumps
import HostLink.Proofs.TandemSteps

/-!
# Sessions in tandem

The calls that a step makes, the scripts that they run and the pumps behind them keep the worlds in
tandem.  The session may have more fuel for all of them than the side alone, for it counts the
scripts and the messages of both sides; what the side has is enough (`HostLink.Proofs.Pumps`), so
the surplus is never used.
-/

namespace HostLink

namespace World

/-- A callback that has a script left makes up for its call. -/
theorem scriptCount_take {world : World} {callback : Callback} {script : List Step}
    {later : List (List Step)} {place : Nat} (hcallback : world.callbacks[place]? = some callback)
    (hscripts : callback.scripts = script :: later) :
    scriptCount { world with
      callbacks := world.callbacks.set place { callback with scripts := later } } +
        (scriptCountOfSteps script + 1) = world.scriptCount := by
  have hset := foldl_add_set (fun callback : Callback => scriptCountOfScripts callback.scripts)
    hcallback { callback with scripts := later } 0
  simp only [hscripts, scriptCountOfScripts] at hset
  simp only [scriptCount]
  omega

end World

theorem Tandem.mono {company : Company} {budget more : Nat} {places : Places} {own shared : World}
    (h : Tandem company budget places own shared) (hscripts : own.scriptCount ≤ more) :
    Tandem company more places own shared :=
  ⟨h.side, h.others, h.apart, h.now, h.since, h.pins, h.ready, h.events, h.log, hscripts⟩

theorem Onward.mono {company : Company} {budget more : Nat} {places : Places} {own shared : World}
    (h : Onward company budget places own shared) (hle : budget ≤ more) :
    Onward company more places own shared := by
  obtain ⟨after, hgrows, hworlds⟩ := h
  exact ⟨after, hgrows, hworlds.mono (Nat.le_trans hworlds.scripts hle)⟩

namespace Tandem

variable {company : Company} {budget more : Nat} {places : Places} {own shared : World}
  {index place : LinkIndex}

/-! ## Calls -/

/-- A script runs in tandem, if the budget is enough for the scripts of its steps. -/
theorem runScript {invoke invoke' : World.Invoke} {trace : World.Trace}
    (keeps : ∀ {share}, share ≤ budget → Keeps company share invoke invoke' trace)
    (h : Tandem company budget places own shared) (subscription : String) {script : List Step}
    (hwithin : ∀ doing ∈ World.scriptDoings invoke' trace subscription shared script,
      doing.within company.part = true)
    (hscripts : own.scriptCount + scriptCountOfSteps script ≤ budget) :
    Onward company budget places (World.runScript invoke subscription own script)
      (World.runScript invoke' subscription shared script) := by
  induction script generalizing places own shared with
  | nil => exact h.onward
  | cons step rest ih =>
    simp only [World.scriptDoings, List.forall_mem_cons, List.forall_mem_append] at hwithin
    obtain ⟨hstep, hopening, hrest⟩ := hwithin
    simp only [scriptCountOfSteps] at hscripts
    have hfirst : Tandem company (own.scriptCount + step.scriptCount) places own shared :=
      h.mono (Nat.le_add_right _ _)
    obtain ⟨hanswer, after, hgrows, hworlds⟩ :=
      hfirst.agree_perform (keeps (by omega)) hstep hopening (Nat.le_refl _)
    have hspent := hworlds.scripts
    have hnoted : Tandem company budget after _ _ :=
      (hworlds.note (.ran subscription (step.perform invoke' shared).1)).mono
        (Nat.le_trans hspent (by omega))
    obtain ⟨last, hlast, hran⟩ := ih hnoted hrest
      (Nat.le_trans (Nat.add_le_add_right hspent _) (by omega))
    have hown : World.runScript invoke subscription own (step :: rest) =
        World.runScript invoke subscription ((step.perform invoke own).2.note
          (.ran subscription (step.perform invoke' shared).1)) rest := by
      rw [← hanswer]
      rfl
    rw [hown]
    exact ⟨last, hgrows.trans hlast, hran⟩

/-- A callback gives its next script away. -/
theorem takeScript (h : Tandem company budget places own shared) {callback : Callback}
    {script : List Step} {later : List (List Step)} {index place : Nat}
    (hplace : places.callbacks[index]? = some place)
    (hcallback : own.callbacks[index]? = some callback)
    (hscripts : callback.scripts = script :: later) :
    Tandem company budget places
      { own with callbacks := own.callbacks.set index { callback with scripts := later } }
      { shared with
        callbacks := shared.callbacks.set place { callback with scripts := later } } := by
  have helsewhere : place ∉ company.elsewhere.callbacks :=
    h.apart.callbacks place (List.mem_of_getElem? hplace)
  have hcount := World.scriptCount_take hcallback hscripts
  have hbudget := h.scripts
  exact ⟨{ h.side with callbacks := h.side.callbacks.set hplace rfl },
    { h.others with callbacks := h.others.callbacks.set_other helsewhere _ },
    h.apart, h.now, h.since, h.pins, h.ready, h.events, h.log, by omega⟩

/-- Calls keep the worlds in tandem, if the scripts of the side do not outnumber its fuel. -/
theorem keeps_call {fuel fuel' : Nat} (hbudget : budget ≤ fuel) (hfuel : fuel ≤ fuel') :
    Keeps company budget (World.call fuel) (World.call fuel') (World.callDoings fuel') := by
  induction fuel generalizing budget fuel' with
  | zero =>
    intro places own shared ref other payload h hplace _
    obtain ⟨callback, _, hown, hshared, rfl⟩ := h.side.callbacks.items _ _ hplace
    have hnone : callback.scripts = [] := by
      cases hscripts : callback.scripts with
      | nil => rfl
      | cons script later =>
        have hcount := World.scriptCount_take hown hscripts
        have hscriptless := h.scripts
        omega
    unfold World.call
    rw [hown, hshared]
    dsimp only
    rw [hnone]
    exact (h.note _).onward
  | succ fuel ih =>
    obtain ⟨fuel', rfl⟩ := Nat.exists_eq_succ_of_ne_zero (Nat.ne_zero_of_lt hfuel)
    intro places own shared ref other payload h hplace hwithin
    obtain ⟨callback, _, hown, hshared, rfl⟩ := h.side.callbacks.items _ _ hplace
    unfold World.callDoings at hwithin
    unfold World.call
    rw [hshared] at hwithin
    rw [hown, hshared]
    dsimp only at hwithin ⊢
    cases hscripts : callback.scripts with
    | nil => exact (h.note _).onward
    | cons script later =>
      rw [hscripts] at hwithin
      have htaken := (h.note (.called callback.subscription payload.toJson)).takeScript hplace hown
        hscripts
      have hfreed : World.scriptCount { own with
          callbacks := own.callbacks.set ref.index { callback with scripts := later } } +
            scriptCountOfSteps script < budget := by
        have hcount := World.scriptCount_take hown hscripts
        have hspent := h.scripts
        omega
      have hfits := htaken.mono (Nat.le_add_right _ (scriptCountOfSteps script))
      have hran := hfits.runScript (fun hshare => ih (Nat.le_trans hshare
        (Nat.le_of_lt_succ (Nat.lt_of_lt_of_le hfreed hbudget))) (Nat.le_of_succ_le_succ hfuel))
        callback.subscription hwithin (Nat.le_refl _)
      exact hran.mono (Nat.le_of_lt hfreed)

/-- The session has all scripts of the side. -/
theorem scriptCount_le (h : Tandem company budget places own shared) :
    own.scriptCount ≤ shared.scriptCount :=
  h.side.callbacks.sum_le fun _ _ hsame => by rw [hsame]

/-! ## Pumps -/

/-- The pump of the side drains the same messages in both worlds. -/
theorem drain {fuel fuel' : Nat} (h : Tandem company budget places own shared)
    (hlink : places.Link index place) (sound : own.Sound (some index)) (hburden : own.burden < fuel)
    (hfuel : fuel ≤ fuel')
    (hwithin : ∀ doing ∈ World.drainDoings fuel' place shared,
      doing.within company.part = true) :
    Onward company budget places (World.drain fuel index own)
      (World.drain fuel' place shared) := by
  induction fuel generalizing fuel' places own shared with
  | zero => exact absurd hburden (Nat.not_lt_zero _)
  | succ fuel ih =>
    obtain ⟨fuel', rfl⟩ := Nat.exists_eq_succ_of_ne_zero (Nat.ne_zero_of_lt hfuel)
    obtain ⟨link, channel, hfound, hchannel, -⟩ := sound.exists_running
    obtain ⟨twins, numbered, hown, hshared⟩ := h.exists_twins hlink
    obtain rfl := Option.some.inj (hfound.symm.trans hown)
    have hsharedChannel : (twins.map Places.Twin.shared).channel? = some channel := hchannel
    unfold World.drain
    unfold World.drainDoings at hwithin
    rw [hshared] at hwithin
    dsimp only at hwithin
    rw [hsharedChannel] at hwithin
    rw [hown, hshared]
    dsimp only
    rw [hchannel, hsharedChannel]
    dsimp only at hwithin ⊢
    cases hinbox : channel.inbox with
    | nil =>
      dsimp only
      split
      · exact (h.setLink hlink (numbered.withTransport _)).onward
      · exact ((h.setLink hlink (numbered.withTransport _)).write _).onward
    | cons message rest =>
      rw [hinbox] at hwithin
      obtain ⟨hfirst, hrest⟩ := List.forall_mem_append.1 hwithin
      have hcarried : own.channel? index = some channel :=
        (World.channel?_of_link hown).trans hchannel
      obtain ⟨hdelivered, hspent⟩ := sound.takeMessage hcarried (congrArg List.head? hinbox)
      have hsound := hdelivered.chain.sound sound
      rw [World.takeText_eq hown hchannel hinbox] at hsound hspent
      have htaken := h.setLink hlink (numbered.withTransport
        { twins.transport with medium := .channel { channel with inbox := rest } })
      have hheard := (htaken.mono (Nat.le_refl _)).deliver
        (keeps_call (Nat.le_refl _) htaken.scriptCount_le) hlink message hfirst
      obtain ⟨after, hgrows, hworlds⟩ := hheard.mono htaken.scripts
      obtain ⟨last, hlast, hdrained⟩ := ih hworlds (hgrows.link hlink) hsound
        (Nat.lt_of_lt_of_le hspent (Nat.le_of_lt_succ hburden)) (Nat.le_of_succ_le_succ hfuel) hrest
      exact ⟨last, hgrows.trans hlast, hdrained⟩

theorem runPump {fuel fuel' : Nat} (h : Tandem company budget places own shared)
    (hlink : places.Link index place) (sound : own.Sound (some index)) (hburden : own.burden < fuel)
    (hfuel : fuel ≤ fuel')
    (hwithin : ∀ doing ∈ World.pumpDoings fuel' place shared, doing.within company.part = true) :
    Onward company budget places (World.runPump fuel index own)
      (World.runPump fuel' place shared) := by
  obtain ⟨link, channel, hfound, hchannel, -⟩ := sound.exists_running
  obtain ⟨twins, numbered, hown, hshared⟩ := h.exists_twins hlink
  obtain rfl := Option.some.inj (hfound.symm.trans hown)
  have hsharedChannel : (twins.map Places.Twin.shared).channel? = some channel := hchannel
  unfold World.runPump
  unfold World.pumpDoings at hwithin
  rw [hshared] at hwithin
  dsimp only at hwithin
  rw [hsharedChannel] at hwithin
  rw [hown, hshared]
  dsimp only
  rw [hchannel, hsharedChannel]
  dsimp only at hwithin ⊢
  split
  · next hfresh =>
    rw [if_pos hfresh] at hwithin
    have hcarried : own.channel? index = some channel :=
      (World.channel?_of_link hown).trans hchannel
    have hstarted := sound.started hcarried hfresh
    rw [World.startPump, World.onChannel_of_link hown hchannel] at hstarted
    exact ((h.setLink hlink (numbered.withTransport _)).write _).drain hlink hstarted.sound
      (Nat.lt_of_le_of_lt hstarted.burden hburden) hfuel hwithin
  · next hrunning =>
    rw [if_neg hrunning] at hwithin
    exact h.drain hlink sound hburden hfuel hwithin

theorem runPumpsFor {fuel fuel' drainFuel drainFuel' : Nat}
    (h : Tandem company budget places own shared) (sound : own.Sound none)
    (hburden : own.burden < fuel) (hfuel : fuel ≤ fuel') (hdrain : own.burden < drainFuel)
    (hdrainFuel : drainFuel ≤ drainFuel')
    (hwithin : ∀ doing ∈ World.pumpsDoings fuel' drainFuel' shared,
      doing.within company.part = true) :
    Onward company budget places (World.runPumpsFor fuel drainFuel own)
      (World.runPumpsFor fuel' drainFuel' shared) := by
  induction fuel generalizing fuel' places own shared with
  | zero => exact absurd hburden (Nat.not_lt_zero _)
  | succ fuel ih =>
    obtain ⟨fuel', rfl⟩ := Nat.exists_eq_succ_of_ne_zero (Nat.ne_zero_of_lt hfuel)
    have hready := h.ready
    unfold World.runPumpsFor
    cases hown : own.ready with
    | nil =>
      rw [hown] at hready
      rw [List.forall₂_nil_left_iff.1 hready]
      exact h.onward
    | cons index rest =>
      rw [hown, List.forall₂_cons_left_iff] at hready
      obtain ⟨place, others, hlink, hrest, hshared⟩ := hready
      simp only [World.pumpsDoings, hshared, List.forall_mem_cons,
        List.forall_mem_append] at hwithin
      obtain ⟨-, hpump, hpumps⟩ := hwithin
      rw [hshared]
      obtain ⟨hpopped, hspent⟩ := sound.popTurn hown
      have hpop : Tandem company budget places { own with ready := rest }
          { shared with ready := others } :=
        ⟨h.side, h.others, h.apart, h.now, h.since, h.pins, hrest, h.events, h.log, h.scripts⟩
      have hless : World.burden { own with ready := rest } < drainFuel := by omega
      obtain ⟨after, hgrows, hran⟩ := hpop.runPump hlink hpopped.sound hless hdrainFuel hpump
      have hpassage := World.passage_runPump hpopped.sound hless
      have hleft := hpassage.burden
      obtain ⟨last, hlast, hworlds⟩ := ih hran (hpassage.chain.sound hpopped.sound) (by omega)
        (Nat.le_of_succ_le_succ hfuel) (by omega) hpumps
      exact ⟨last, hgrows.trans hlast, hworlds⟩

/-- The session has all work that the side has for its pumps. -/
theorem backlog_le (h : Tandem company budget places own shared) :
    own.backlog ≤ shared.backlog :=
  h.side.links.sum_le fun _ _ ⟨_, _, hown, hshared⟩ => by
    rw [← hown, ← hshared, Link.channel?_map, Link.channel?_map]

theorem stepCount_le (h : Tandem company budget places own shared) :
    own.stepCount ≤ shared.stepCount :=
  h.side.callbacks.sum_le fun _ _ hsame => by rw [hsame]

theorem runPumps (h : Tandem company budget places own shared) (sound : own.Sound none)
    (hwithin : ∀ doing ∈ World.pumpsDoings (shared.burden + 1) (shared.burden + 1) shared,
      doing.within company.part = true) :
    Onward company budget places own.runPumps shared.runPumps := by
  have hburden : own.burden ≤ shared.burden := by
    have hbacklog := h.backlog_le
    have hready := h.ready.length_eq
    have hsteps := h.stepCount_le
    simp only [World.burden]
    omega
  exact h.runPumpsFor sound (Nat.lt_succ_self _) (Nat.succ_le_succ hburden) (Nat.lt_succ_self _)
    (Nat.succ_le_succ hburden) hwithin

/-! ## Steps of a session -/

/-- A step of a session brings what it brings to its side alone. -/
theorem step
    (h : Tandem company budget places { own with events := [], log := [] }
      { shared with events := [], log := [] })
    {step : Step} (hstep : step.within company.part = true)
    (hwithin : ∀ doing ∈ Session.doings shared step, doing.within company.part = true)
    (sound : own.Sound none) :
    Agree company (own.scriptCount + step.scriptCount) places (Session.step own step)
      (Session.step shared step) := by
  obtain ⟨hopening, hpumps⟩ := List.forall_mem_append.1 hwithin
  have hfits : Tandem company (own.scriptCount + step.scriptCount) places
      { own with events := [], log := [] } { shared with events := [], log := [] } :=
    h.mono (Nat.le_add_right _ _)
  have hfuel := Nat.add_le_add_right h.scriptCount_le step.scriptCount
  obtain ⟨hanswer, after, hgrows, hperformed⟩ :=
    hfits.agree_perform (keeps_call (Nat.le_refl _) hfuel) hstep hopening (Nat.le_refl _)
  obtain ⟨last, hlast, hsettled⟩ :=
    hperformed.runPumps ((Session.passage_perform sound step).chain.sound sound) hpumps
  have hevents := hsettled.events
  have hlog := hsettled.log
  refine ⟨?_, last, hgrows.trans hlast, hsettled⟩
  simp only [Session.step, StepReport.mk.injEq]
  exact ⟨hanswer, hevents, congrArg sortExpiries hlog⟩

end Tandem
end HostLink
