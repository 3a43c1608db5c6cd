import Mathlib.Order.Bounds.Basic
import HostLink.Proofs.Deadlines

/-!
# Timeouts are rounded down, never wrapped

A caller gives a timeout as a `Duration`, whole seconds beside nanoseconds.  A configuration keeps
it as a 64-bit number of milliseconds: the duration is counted in milliseconds, of which there may
be more than 64 bits hold, and the count is narrowed by saturation.  Reading the timeout widens it
again.

`Duration.timeout_kept` says what this comes to.  The timeout that is read back is the greatest
whole number of milliseconds within the duration, up to the largest number that is kept; every
request that is sent without a timeout of its own expires that long after it was sent; and requests
sent with a timeout of their own go by that alone, whatever is configured.

For the last part `Bridge.retimed` replaces the configured timeout.  Every operation commutes with
it, apart from a send that brings no timeout, and so does every run.
-/

namespace HostLink

/-! ## Durations -/

/-- A span of time in whole seconds and a rest below one second. -/
structure Duration where
  seconds : UInt64
  nanos : Nat
  nanos_lt : nanos < nanosPerSecond

namespace Duration

/-- The duration in nanoseconds. -/
def span (duration : Duration) : Nanoseconds :=
  duration.seconds.toNat * nanosPerSecond + duration.nanos

/-- The whole milliseconds of the duration, up to a thousand times the largest 64-bit number. -/
def millis (duration : Duration) : Nat :=
  duration.seconds.toNat * 1000 + duration.nanos / nanosPerMilli

/-- The duration of a 64-bit number of milliseconds. -/
def ofMillis (ms : UInt64) : Duration where
  seconds := ms / 1000
  nanos := (ms % 1000).toNat * nanosPerMilli
  nanos_lt := by
    rw [UInt64.toNat_mod, show UInt64.toNat 1000 = 1000 from rfl]
    unfold nanosPerMilli nanosPerSecond
    omega

/-- Counting seconds and rest apart is counting the whole. -/
theorem millis_eq (duration : Duration) : duration.millis = duration.span / nanosPerMilli := by
  unfold millis span nanosPerMilli nanosPerSecond
  omega

/-- Widening loses nothing. -/
theorem span_ofMillis (ms : UInt64) : (ofMillis ms).span = ms.toNat * nanosPerMilli := by
  have hsplit : ms.toNat / 1000 * 1000000000 + ms.toNat % 1000 * 1000000 = ms.toNat * 1000000 := by
    omega
  unfold ofMillis span
  dsimp only
  rw [UInt64.toNat_div, UInt64.toNat_mod]
  exact hsplit

end Duration

/-- The most milliseconds that a configuration keeps. -/
def maxMillis : Nat := 18446744073709551615

/-- A count narrowed to 64 bits: one that does not fit becomes the largest number that does. -/
def narrowed (count : Nat) : UInt64 :=
  if count < UInt64.size then UInt64.ofNat count else UInt64.ofNat maxMillis

/-- Narrowing saturates. -/
theorem toNat_narrowed (count : Nat) : (narrowed count).toNat = min count maxMillis := by
  unfold narrowed
  have hsize : UInt64.size = maxMillis + 1 := rfl
  split
  · next hfits =>
    rw [UInt64.toNat_ofNat_of_lt' hfits]
    omega
  · next hexceeds =>
    rw [UInt64.toNat_ofNat_of_lt' (by decide)]
    omega

/-! ## What a configuration keeps -/

namespace Config

theorem withRequestTimeout_eq (config : Config) (timeout : Nanoseconds) :
    config.withRequestTimeout timeout =
      { config with requestTimeoutMs := some (narrowed (timeout / nanosPerMilli)) } := by
  have hstored : UInt64.ofNat (min (timeout / nanosPerMilli) 18446744073709551615) =
      narrowed (timeout / nanosPerMilli) := by
    apply UInt64.toNat.inj
    rw [toNat_narrowed, UInt64.toNat_ofNat_of_lt' (Nat.lt_succ_of_le (Nat.min_le_right _ _))]
    rfl
  rw [withRequestTimeout, hstored]

theorem requestTimeout_withRequestTimeout (config : Config) (timeout : Nanoseconds) :
    (config.withRequestTimeout timeout).requestTimeout =
      some (min (timeout / nanosPerMilli) maxMillis * nanosPerMilli) := by
  rw [withRequestTimeout_eq, requestTimeout, Option.map_some, toNat_narrowed]

/-- What was kept once is kept as it is. -/
theorem withRequestTimeout_kept (config : Config) (timeout : Nanoseconds) :
    (config.withRequestTimeout timeout).withRequestTimeout
      (min (timeout / nanosPerMilli) maxMillis * nanosPerMilli) =
        config.withRequestTimeout timeout := by
  have hpositive : 0 < nanosPerMilli := by decide
  have hnarrowed : narrowed (min (timeout / nanosPerMilli) maxMillis) =
      narrowed (timeout / nanosPerMilli) := by
    apply UInt64.toNat.inj
    rw [toNat_narrowed, toNat_narrowed, Nat.min_assoc, Nat.min_self]
  rw [withRequestTimeout_eq, withRequestTimeout_eq, Nat.mul_div_cancel _ hpositive, hnarrowed]

end Config

namespace ConfigEdit

/-- Whether an adjustment leaves the timeout as it is. -/
def leavesTimeout : ConfigEdit → Bool
  | .replace _ | .requestTimeout _ => false
  | _ => true

theorem requestTimeout_apply {edit : ConfigEdit} (h : edit.leavesTimeout = true)
    (config : Config) : (edit.apply config).requestTimeout = config.requestTimeout := by
  cases edit with
  | replace other => cases h
  | requestTimeout timeout => cases h
  | _ => rfl

theorem requestTimeout_foldl {edits : List ConfigEdit}
    (h : ∀ edit ∈ edits, edit.leavesTimeout = true) (config : Config) :
    (edits.foldl apply config).requestTimeout = config.requestTimeout := by
  induction edits generalizing config with
  | nil => rfl
  | cons edit rest ih =>
    rw [List.foldl_cons, ih fun other hother => h other (List.mem_cons_of_mem _ hother),
      requestTimeout_apply (h edit List.mem_cons_self)]

/-- The adjustment of the timeout counts that comes last. -/
theorem requestTimeout_build (before : List ConfigEdit) (timeout : Nanoseconds)
    {after : List ConfigEdit} (h : ∀ edit ∈ after, edit.leavesTimeout = true) :
    (build (before ++ .requestTimeout timeout :: after)).requestTimeout =
      some (min (timeout / nanosPerMilli) maxMillis * nanosPerMilli) := by
  unfold build
  rw [List.foldl_append, List.foldl_cons, requestTimeout_foldl h]
  exact Config.requestTimeout_withRequestTimeout _ timeout

end ConfigEdit

/-! ## When requests expire -/

theorem PendingTable.deadline_of_setDeadline {table : PendingTable} {id : CorrelationId}
    {deadline : Instant} {entry : PendingEntry}
    (h : PendingTable.entry? (table.setDeadline id deadline) id = some entry) :
    entry.deadline = some deadline := by
  obtain ⟨hmem, hid⟩ := mem_of_entry? h
  obtain ⟨old, -, rfl⟩ := mem_setDeadline.1 hmem
  by_cases hold : old.id = id
  · rw [if_pos hold]
  · rw [if_neg hold] at hid
    exact absurd hid hold

namespace Bridge

variable {κ : Type}

/-- The request of a ticket expires at `deadline`: its reply does, and so does its entry if it is
listed. -/
def Expires (bridge : Bridge κ) (ticket : Ticket) (deadline : Instant) : Prop :=
  ∃ reply, bridge.replies[ticket]? = some reply ∧ reply.deadline = some deadline ∧
    ∀ entry, bridge.pending.entry? reply.id = some entry → entry.deadline = some deadline

/-- Starting the clock of a reply decides when its request expires. -/
theorem expires_arm {bridge : Bridge κ} {ticket : Ticket} (h : ticket < bridge.replies.length)
    (now : Instant) (timeout : Nanoseconds) :
    (bridge.arm now ticket timeout).Expires ticket (now + timeout) := by
  have hreply : bridge.replies[ticket]? = some bridge.replies[ticket] :=
    List.getElem?_eq_getElem h
  refine ⟨bridge.replies[ticket].expireAt (now + timeout), ?_, rfl, ?_⟩
  · rw [replies_arm, List.getElem?_modify, hreply]
    simp
  · rw [arm_of_some hreply]
    exact fun entry hentry => PendingTable.deadline_of_setDeadline hentry

/-- A request expires as long after it was sent as its own timeout says, or else the configured one.
That holds of requests that fail in place too. -/
theorem expires_send (bridge : Bridge κ) (transport : Transport) (now : Instant) (command : String)
    (payload : Datum) {timeout : Option Nanoseconds} {wait : Nanoseconds}
    (h : (timeout <|> bridge.config.requestTimeout) = some wait) :
    (bridge.send transport now command payload timeout).bridge.Expires bridge.replies.length
      (now + wait) := by
  have hlength := (bridge.sameAround_send transport now command payload timeout).length
  unfold send at hlength ⊢
  dsimp only at hlength ⊢
  rw [h] at hlength ⊢
  dsimp only at hlength ⊢
  apply expires_arm
  rw [replies_arm, List.length_modify] at hlength
  rw [hlength]
  simp [withRequest]

/-! ## Another configured timeout -/

/-- The bridge with another configured timeout. -/
def retimed (ms : Option UInt64) (bridge : Bridge κ) : Bridge κ :=
  { bridge with config := { bridge.config with requestTimeoutMs := ms } }

end Bridge

/-- What an operation leaves behind, with another configured timeout. -/
def Acted.retimed {κ α : Type} (ms : Option UInt64) (acted : Acted κ α) : Acted κ α :=
  { acted with bridge := acted.bridge.retimed ms }

namespace Bridge

variable {κ : Type} (ms : Option UInt64) (bridge : Bridge κ)

theorem failExpired_retimed (settlers : List Settler) :
    (bridge.retimed ms).failExpired settlers =
      ((bridge.failExpired settlers).1.retimed ms, (bridge.failExpired settlers).2) := by
  induction settlers generalizing bridge with
  | nil => rfl
  | cons settler rest ih =>
    have hsettle : (bridge.retimed ms).settleWith settler (.error .timeout) =
        ((bridge.settleWith settler (.error .timeout)).1.retimed ms,
          (bridge.settleWith settler (.error .timeout)).2) := rfl
    simp only [failExpired, hsettle, ih]
    rfl

theorem expireOverdue_retimed (now : Instant) :
    (bridge.retimed ms).expireOverdue now =
      ((bridge.expireOverdue now).1.retimed ms, (bridge.expireOverdue now).2) :=
  failExpired_retimed ms { bridge with pending := (bridge.pending.takeExpired now).2 } _

theorem arm_retimed (now : Instant) (ticket : Ticket) (timeout : Nanoseconds) :
    (bridge.retimed ms).arm now ticket timeout = (bridge.arm now ticket timeout).retimed ms := by
  simp only [arm, retimed]
  cases bridge.replies[ticket]? <;> rfl

theorem settle_retimed (now : Instant) (id : CorrelationId) (outcome : Except Json Json) :
    (bridge.retimed ms).settle now id outcome =
      ((bridge.settle now id outcome).1.retimed ms, (bridge.settle now id outcome).2) := by
  simp only [settle, expireOverdue_retimed]
  generalize (bridge.expireOverdue now).1 = swept
  rcases htaken : swept.pending.take id with ⟨settler, pending⟩
  rw [show (swept.retimed ms).pending = swept.pending from rfl, htaken]
  cases settler <;> rfl

theorem receive_retimed (now : Instant) (text : String) :
    (bridge.retimed ms).receive now text =
      ((bridge.receive now text).1.retimed ms, (bridge.receive now text).2) := by
  simp only [receive, show (bridge.retimed ms).config.wire = bridge.config.wire from rfl]
  cases Inbound.parse bridge.config.wire text with
  | error cause => rfl
  | ok inbound =>
    cases inbound with
    | reply id outcome => simp only [settle_retimed]
    | event name body => rfl
    | fault error => rfl

theorem withdraw_retimed (id : CorrelationId) (error : BridgeError) :
    (bridge.retimed ms).withdraw id error =
      ((bridge.withdraw id error).1.retimed ms, (bridge.withdraw id error).2) := by
  simp only [withdraw, show (bridge.retimed ms).pending = bridge.pending from rfl]
  rcases bridge.pending.take id with ⟨settler, pending⟩
  cases settler <;> rfl

theorem sendUntimed_retimed (transport : Transport) (command : String) (payload : Datum) :
    (bridge.retimed ms).sendUntimed transport command payload =
      (bridge.sendUntimed transport command payload).retimed ms := by
  have hencode : encodeRequest (bridge.retimed ms).config (bridge.retimed ms).nextId command
      payload = encodeRequest bridge.config bridge.nextId command payload := rfl
  have hopen : (bridge.retimed ms).openRequest =
      (bridge.openRequest.1, bridge.openRequest.2.retimed ms) := rfl
  simp only [sendUntimed, hencode]
  cases encodeRequest bridge.config bridge.nextId command payload with
  | error error => rfl
  | ok text =>
    simp only [postRequest, hopen, withdraw_retimed]
    rcases transport.post text with ⟨result, after, log⟩
    cases result <;> rfl

/-- A request that brings a timeout does not look at the configured one. -/
theorem send_retimed (transport : Transport) (now : Instant) (command : String) (payload : Datum)
    (timeout : Nanoseconds) :
    (bridge.retimed ms).send transport now command payload (some timeout) =
      (bridge.send transport now command payload (some timeout)).retimed ms := by
  have hown (configured : Option Nanoseconds) : (some timeout <|> configured) = some timeout := rfl
  simp only [send, sendUntimed_retimed, hown, Acted.retimed, arm_retimed]
  rfl

theorem subscribe_retimed (transport : Transport) (event : String) (callback : κ) :
    (bridge.retimed ms).subscribe transport event callback =
      (bridge.subscribe transport event callback).retimed ms := by
  have htext : activationText (bridge.retimed ms).config event =
      activationText bridge.config event := rfl
  simp only [subscribe, htext, show (bridge.retimed ms).registry = bridge.registry from rfl]
  cases Registry.checkEventName event with
  | error cause => rfl
  | ok =>
    dsimp only
    cases bridge.registry.hasListener event with
    | true => rfl
    | false =>
      rcases transport.post (activationText bridge.config event) with ⟨result, after, log⟩
      cases result <;> rfl

end Bridge

/-- Whether the operation does not look at the configured timeout: every operation but a send that
brings no timeout. -/
def Operation.timesItself {κ : Type} : Operation κ → Bool
  | .send _ _ timeout => timeout.isSome
  | _ => true

namespace Station

variable {κ : Type}

/-- The station with another configured timeout. -/
def retimed (ms : Option UInt64) (station : Station κ) : Station κ :=
  { station with bridge := station.bridge.retimed ms }

theorem perform_retimed (ms : Option UInt64) (station : Station κ) {operation : Operation κ}
    (h : operation.timesItself = true) :
    (station.retimed ms).perform operation = (station.perform operation).retimed ms := by
  cases operation with
  | send command payload timeout =>
    obtain ⟨timeout, rfl⟩ := Option.isSome_iff_exists.1 h
    exact congrArg (station.retimed ms).acted (Bridge.send_retimed ms _ _ _ _ _ _)
  | receive text =>
    exact congrArg (fun received => { station with bridge := received.1 })
      (Bridge.receive_retimed ms station.bridge station.now text)
  | subscribe event callback =>
    exact congrArg (station.retimed ms).acted (Bridge.subscribe_retimed ms _ _ _ _)
  | pendingCount =>
    exact congrArg (fun swept => { station with bridge := swept.1 })
      (Bridge.expireOverdue_retimed ms station.bridge station.now)
  | isPending id =>
    exact congrArg (fun swept => { station with bridge := swept.1 })
      (Bridge.expireOverdue_retimed ms station.bridge station.now)
  | arm ticket timeout =>
    exact congrArg (fun armed => { station with bridge := armed })
      (Bridge.arm_retimed ms station.bridge station.now ticket timeout)
  | _ => rfl

/-- A run in which every request brings its timeout is the same with any configured timeout. -/
theorem run_retimed (ms : Option UInt64) (station : Station κ) {operations : List (Operation κ)}
    (h : ∀ operation ∈ operations, operation.timesItself = true) :
    (station.retimed ms).run operations = (station.run operations).retimed ms := by
  induction operations generalizing station with
  | nil => rfl
  | cons operation rest ih =>
    rw [run_cons, run_cons, perform_retimed ms station (h operation List.mem_cons_self),
      ih _ fun other hother => h other (List.mem_cons_of_mem _ hother)]

end Station

/-! ## The law -/

/-- The duration `d` is kept as `wait`. -/
structure Duration.KeptAs (d : Duration) (wait : Nanoseconds) : Prop where
  /-- `wait` is what a configuration gives back after `d` was set. -/
  set : ∀ config : Config, (config.withRequestTimeout d.span).requestTimeout = some wait
  /-- It is also what one gives back that was built with `d` and whose timeout was left alone
  afterwards. -/
  built : ∀ before after : List ConfigEdit, (∀ edit ∈ after, edit.leavesTimeout = true) →
    (ConfigEdit.build (before ++ .requestTimeout d.span :: after)).requestTimeout = some wait
  /-- What is stored is the count of milliseconds, narrowed to 64 bits and not cut off. -/
  stored : ∀ config : Config,
    (config.withRequestTimeout d.span).requestTimeoutMs = some (narrowed d.millis)
  /-- `wait` is the number that is stored, widened again. -/
  widened : wait = (Duration.ofMillis (narrowed d.millis)).span
  /-- `wait` is the greatest whole number of milliseconds within `d`, if that many are kept. -/
  greatest : ∃ millis, wait = millis * nanosPerMilli ∧
    IsGreatest {count | count * nanosPerMilli ≤ d.span ∧ count ≤ maxMillis} millis
  /-- `wait` never exceeds `d`. -/
  le : wait ≤ d.span
  /-- `wait` falls short of `d` by less than a millisecond, unless it is all that can be kept. -/
  near : d.span < wait + nanosPerMilli ∨ wait = maxMillis * nanosPerMilli
  /-- Of two durations the longer one is not kept as a shorter one. -/
  monotone : ∀ longer : Duration, d.span ≤ longer.span → ∀ (config : Config) (more : Nanoseconds),
    (config.withRequestTimeout longer.span).requestTimeout = some more → wait ≤ more
  /-- Setting what is kept changes nothing. -/
  stable : ∀ config : Config,
    (config.withRequestTimeout d.span).withRequestTimeout wait = config.withRequestTimeout d.span

/-- How the requests of a configuration expire that keeps `wait`. -/
structure Config.Expiring (config : Config) (wait : Nanoseconds) : Prop where
  /-- In every state of every run, a request sent without a timeout expires after `wait`. -/
  configured : ∀ {κ : Type} (transport : Transport) (start : Instant)
    (operations : List (Operation κ)) (command : String) (payload : Datum),
      let station := (Station.opened config transport start).run operations
      (station.perform (.send command payload none)).bridge.Expires station.bridge.replies.length
        (station.now + wait)
  /-- A request sent with a timeout expires after that. -/
  own : ∀ {κ : Type} (transport : Transport) (start : Instant)
    (operations : List (Operation κ)) (command : String) (payload : Datum) (timeout : Nanoseconds),
      let station := (Station.opened config transport start).run operations
      (station.perform (.send command payload (some timeout))).bridge.Expires
        station.bridge.replies.length (station.now + timeout)
  /-- At every bridge, sending with a timeout has the same answer, posts and lines whatever is
  configured. -/
  unaffected : ∀ {κ : Type} (bridge : Bridge κ) (transport : Transport) (now : Instant)
    (command : String) (payload : Datum) (timeout : Nanoseconds) (ms : Option UInt64),
      (bridge.retimed ms).send transport now command payload (some timeout) =
        (bridge.send transport now command payload (some timeout)).retimed ms
  /-- Where all requests are sent with a timeout, the configured one makes no difference. -/
  run_unaffected : ∀ {κ : Type} (transport : Transport) (start : Instant)
    (operations : List (Operation κ)) (ms : Option UInt64),
      (∀ operation ∈ operations, operation.timesItself = true) →
        (Station.opened { config with requestTimeoutMs := ms } transport start).run operations =
          ((Station.opened config transport start).run operations).retimed ms

namespace Duration

theorem keptAs (d : Duration) :
    d.KeptAs (min (d.span / nanosPerMilli) maxMillis * nanosPerMilli) := by
  have hpositive : 0 < nanosPerMilli := by decide
  have hwhole : d.span / nanosPerMilli * nanosPerMilli ≤ d.span := Nat.div_mul_le_self _ _
  have hrest : d.span < d.span / nanosPerMilli * nanosPerMilli + nanosPerMilli := by
    have := Nat.lt_div_mul_add hpositive (a := d.span)
    omega
  refine ⟨fun config => config.requestTimeout_withRequestTimeout d.span,
    fun before after h => ConfigEdit.requestTimeout_build before d.span h, fun config => ?_, ?_,
    ⟨_, rfl, ⟨?_, Nat.min_le_right _ _⟩, ?_⟩, ?_, ?_, ?_, ?_⟩
  · rw [Config.withRequestTimeout_eq, millis_eq]
  · rw [span_ofMillis, toNat_narrowed, millis_eq]
  · exact Nat.le_trans (Nat.mul_le_mul_right _ (Nat.min_le_left _ _)) hwhole
  · rintro count ⟨hwithin, hkept⟩
    exact Nat.le_min.2 ⟨(Nat.le_div_iff_mul_le hpositive).2 hwithin, hkept⟩
  · exact Nat.le_trans (Nat.mul_le_mul_right _ (Nat.min_le_left _ _)) hwhole
  · rcases Nat.le_total (d.span / nanosPerMilli) maxMillis with hfits | hexceeds
    · rw [Nat.min_eq_left hfits]
      exact .inl hrest
    · rw [Nat.min_eq_right hexceeds]
      exact .inr rfl
  · intro longer hle config more hmore
    rw [Config.requestTimeout_withRequestTimeout] at hmore
    obtain rfl := Option.some.inj hmore
    have hcount : d.span / nanosPerMilli ≤ longer.span / nanosPerMilli :=
      Nat.div_le_div_right hle
    exact Nat.mul_le_mul_right _
      (Nat.le_min.2 ⟨Nat.le_trans (Nat.min_le_left _ _) hcount, Nat.min_le_right _ _⟩)
  · exact fun config => config.withRequestTimeout_kept d.span

end Duration

theorem Config.expiring {config : Config} {wait : Nanoseconds}
    (h : config.requestTimeout = some wait) : config.Expiring wait := by
  refine ⟨?_, ?_, ?_, ?_⟩
  · intro κ transport start operations command payload station
    have hconfig : station.bridge.config = config :=
      Station.config_run (Station.opened config transport start) operations
    have hwait : (none <|> station.bridge.config.requestTimeout) = some wait := by
      rw [hconfig, h]
      rfl
    exact Bridge.expires_send station.bridge station.transport station.now command payload hwait
  · intro κ transport start operations command payload timeout station
    have hwait : (some timeout <|> station.bridge.config.requestTimeout) = some timeout := rfl
    exact Bridge.expires_send station.bridge station.transport station.now command payload hwait
  · intro κ bridge transport now command payload timeout ms
    exact Bridge.send_retimed ms bridge transport now command payload timeout
  · intro κ transport start operations ms h
    exact Station.run_retimed ms (Station.opened config transport start) h

/-- For every duration there is a time as which it is kept, and which every request waits that is
then sent without a timeout of its own. -/
theorem Duration.timeout_kept (d : Duration) : ∃ wait, d.KeptAs wait ∧
    ∀ config : Config, config.requestTimeout = some wait → config.Expiring wait :=
  ⟨_, d.keptAs, fun _ => Config.expiring⟩

/-- The longest duration there is, and one that is a nanosecond short of two milliseconds: the count
stops at the largest number, and the rest below a millisecond goes. -/
theorem Duration.timeout_kept_at_limits :
    let longest : Duration :=
      { seconds := 18446744073709551615, nanos := 999999999, nanos_lt := by decide }
    let short : Duration := { seconds := 0, nanos := 1999999, nanos_lt := by decide }
    (({} : Config).withRequestTimeout longest.span).requestTimeoutMs =
        some 18446744073709551615 ∧
      (({} : Config).withRequestTimeout short.span).requestTimeoutMs = some 1 ∧
      ∃ wait, longest.KeptAs wait ∧ wait < longest.span ∧
        (({} : Config).withRequestTimeout longest.span).Expiring wait := by
  intro longest short
  obtain ⟨wait, hkept, hexpiring⟩ := longest.timeout_kept
  have hset := hkept.set {}
  have hread : (({} : Config).withRequestTimeout longest.span).requestTimeout =
      some 18446744073709551615000000 := by decide
  have hwait : wait = 18446744073709551615000000 := Option.some.inj (hset.symm.trans hread)
  refine ⟨by decide, by decide, wait, hkept, ?_, hexpiring _ hset⟩
  rw [hwait]
  decide

end HostLink
