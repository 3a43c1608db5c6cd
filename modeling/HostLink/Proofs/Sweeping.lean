import Mathlib.Data.List.Nodup
import HostLink.Proofs.Settling

/-!
# Sweeping a table in any order

`PendingTable.takeExpired` parts the overdue entries from the others in one go.  A table that hashes
its ids cannot do so: it lists its entries in an order of its own, notes the ids of those that are
overdue, and then takes these one by one out of the table that it has just listed.
`PendingTable.sweep` is that procedure with the listing as an argument, and `Bridge.expireListed` is
the expiry on top of it.

`Bridge.sweep_exact` proves that the listing does not matter.  Whatever it is, the sweep takes the
settlers of the overdue entries, each once, and the bridge that is left is the one that
`Bridge.expireOverdue` leaves; once the lines of a log stand in the order of ids, the logs are the
same too.  Moreover a sweep leaves nothing for a second one at the same instant, and sweeping early
changes nothing about what a later sweep leaves.

All that is asked of the table is that an id occurs once.  Its settlers may have settled, its
entries may share a reply, and whether somebody still holds a reply makes no difference.
-/

namespace HostLink

/-! ## Taking one by one -/

namespace PendingTable

variable {table : PendingTable} {listing : List PendingEntry}

/-- Take the settlers of the given ids out of the table, one after the other. -/
def takeEach (table : PendingTable) : List CorrelationId → List Settler × PendingTable
  | [] => ([], table)
  | id :: rest =>
    let (settler, fewer) := table.take id
    let (settlers, left) := fewer.takeEach rest
    (settler.toList ++ settlers, left)

/-- Note the ids of the overdue entries in the order in which the table lists them, and take their
settlers out of the table. -/
def sweep (table : PendingTable) (listing : List PendingEntry) (now : Instant) :
    List Settler × PendingTable :=
  table.takeEach ((listing.filter (PendingEntry.overdue now)).map PendingEntry.id)

theorem entry?_erase_of_ne {id other : CorrelationId} (h : other ≠ id) :
    PendingTable.entry? (table.erase id) other = table.entry? other := by
  unfold entry? erase
  rw [List.find?_filter]
  refine congrArg (fun accepts => table.entries.find? accepts) (funext fun entry => ?_)
  by_cases hentry : entry.id = other <;> simp [hentry, h]

/-- Where an id occurs once, an entry is found under its id. -/
theorem entry?_of_mem (distinct : table.ids.Nodup) {entry : PendingEntry}
    (h : entry ∈ table.entries) : table.entry? entry.id = some entry := by
  cases hfound : table.entry? entry.id with
  | none => exact absurd (List.mem_map_of_mem h) (entry?_eq_none.1 hfound)
  | some other =>
    obtain ⟨hother, hid⟩ := mem_of_entry? hfound
    rw [List.inj_on_of_nodup_map distinct hother h hid]

/-- Taking different ids one after the other gives what is found under each at the start, and leaves
the entries of all other ids.  The induction is on the ids, with the table that shrinks. -/
theorem takeEach_eq (table : PendingTable) {ids : List CorrelationId} (h : ids.Nodup) :
    table.takeEach ids =
      (ids.filterMap fun id => (table.entry? id).map PendingEntry.settler,
        ⟨table.entries.filter fun entry => entry.id ∉ ids⟩) := by
  induction ids generalizing table with
  | nil => simp [takeEach]
  | cons id rest ih =>
    obtain ⟨hnew, hrest⟩ := List.nodup_cons.1 h
    have hfound : rest.filterMap (fun other => (PendingTable.entry? (table.erase id) other).map
        PendingEntry.settler) =
        rest.filterMap fun other => (table.entry? other).map PendingEntry.settler :=
      List.filterMap_congr fun other hother => by
        rw [entry?_erase_of_ne (ne_of_mem_of_not_mem hother hnew)]
    have hleft : (table.erase id).entries.filter (fun entry => entry.id ∉ rest) =
        table.entries.filter fun entry => entry.id ∉ id :: rest := by
      simp [erase, List.filter_filter, Bool.and_comm]
    simp only [takeEach, take]
    rw [ih (table.erase id) hrest, hfound, hleft, List.filterMap_cons]
    cases table.entry? id <;> rfl

section listed

variable (distinct : table.ids.Nodup) (listed : listing.Perm table.entries) (now : Instant)
include distinct listed

theorem nodup_overdue_ids :
    ((listing.filter (PendingEntry.overdue now)).map PendingEntry.id).Nodup := by
  have hlisting : (listing.map PendingEntry.id).Nodup := (listed.map _).nodup_iff.2 distinct
  exact hlisting.sublist (List.filter_sublist.map _)

/-- The sweep gives the settlers of the overdue entries in the order of the listing. -/
theorem sweep_fst : (table.sweep listing now).1 =
    (listing.filter (PendingEntry.overdue now)).map PendingEntry.settler := by
  rw [sweep, takeEach_eq table (nodup_overdue_ids distinct listed now)]
  dsimp only
  rw [List.filterMap_map, ← List.filterMap_eq_map]
  refine List.filterMap_congr fun entry hentry => ?_
  have hmem : entry ∈ table.entries := listed.subset (List.mem_of_mem_filter hentry)
  simp only [Function.comp, entry?_of_mem distinct hmem]
  rfl

/-- The sweep leaves the entries that are not overdue, in their old order. -/
theorem sweep_snd : (table.sweep listing now).2 = (table.takeExpired now).2 := by
  rw [sweep, takeEach_eq table (nodup_overdue_ids distinct listed now)]
  refine congrArg PendingTable.mk (List.filter_congr fun entry hentry => ?_)
  have hiff : entry.id ∈ (listing.filter (PendingEntry.overdue now)).map PendingEntry.id ↔
      entry.overdue now = true := by
    constructor
    · intro h
      obtain ⟨other, hother, hid⟩ := List.mem_map.1 h
      obtain ⟨hlisted, hoverdue⟩ := List.mem_filter.1 hother
      rwa [List.inj_on_of_nodup_map distinct (listed.subset hlisted) hentry hid] at hoverdue
    · intro h
      exact List.mem_map_of_mem (List.mem_filter.2 ⟨listed.symm.subset hentry, h⟩)
  cases hoverdue : entry.overdue now <;> simp [hiff, hoverdue]

/-- In any order the sweep takes the same settlers. -/
theorem sweep_perm : (table.sweep listing now).1.Perm (table.takeExpired now).1 := by
  rw [sweep_fst distinct listed now]
  exact (listed.filter _).map _

end listed
end PendingTable

namespace PendingEntry

variable {entry : PendingEntry}

/-- An entry is overdue from the instant of its deadline on. -/
theorem overdue_iff {now : Instant} :
    entry.overdue now = true ↔ ∃ deadline ≤ now, entry.deadline = some deadline := by
  unfold overdue Reply.reached
  cases entry.deadline <;> simp

/-- An entry that is overdue stays so. -/
theorem overdue_mono {now later : Instant} (hle : now ≤ later) (h : entry.overdue now = true) :
    entry.overdue later = true := by
  obtain ⟨deadline, hreached, hdeadline⟩ := overdue_iff.1 h
  exact overdue_iff.2 ⟨deadline, Nat.le_trans hreached hle, hdeadline⟩

theorem not_overdue_iff {now : Instant} :
    entry.overdue now = false ↔ ∀ deadline, entry.deadline = some deadline → now < deadline := by
  rw [← Bool.not_eq_true, overdue_iff]
  constructor
  · intro h deadline hdeadline
    by_contra hreached
    exact h ⟨deadline, Nat.le_of_not_lt hreached, hdeadline⟩
  · rintro h ⟨deadline, hreached, hdeadline⟩
    exact Nat.not_lt_of_ge hreached (h deadline hdeadline)

end PendingEntry

/-! ## The bridge behind a sweep -/

namespace Bridge

variable {κ : Type} {bridge : Bridge κ} {now : Instant}

/-- Fail every request whose deadline has come, with the table listed in a given order. -/
def expireListed (bridge : Bridge κ) (listing : List PendingEntry) (now : Instant) :
    Bridge κ × List LogEvent :=
  let (expired, pending) := bridge.pending.sweep listing now
  { bridge with pending }.failExpired expired

/-- Failing the same settlers in another order leaves the same bridge. -/
theorem failExpired_perm {settlers others : List Settler} (h : settlers.Perm others)
    (bridge : Bridge κ) : (bridge.failExpired settlers).1 = (bridge.failExpired others).1 := by
  obtain ⟨replies, heq, -, hreplies⟩ := failExpired_spec settlers bridge
  obtain ⟨replies', heq', -, hreplies'⟩ := failExpired_spec others bridge
  have hsame : replies = replies' := by
    apply List.ext_getElem?
    intro ticket
    rw [hreplies, hreplies']
    simp only [h.mem_iff]
  rw [heq, heq', hsame]

theorem expireListed_eq (distinct : bridge.pending.ids.Nodup) {listing : List PendingEntry}
    (listed : listing.Perm bridge.pending.entries) (now : Instant) :
    (bridge.expireListed listing now).1 = (bridge.expireOverdue now).1 := by
  unfold expireListed expireOverdue
  dsimp only
  rw [PendingTable.sweep_snd distinct listed now]
  exact failExpired_perm (PendingTable.sweep_perm distinct listed now) _

/-- A sweep changes nothing but replies and table. -/
theorem expireOverdue_eq (bridge : Bridge κ) (now : Instant) :
    (bridge.expireOverdue now).1 =
      { bridge with
        replies := (bridge.expireOverdue now).1.replies
        pending := (bridge.pending.takeExpired now).2 } := by
  obtain ⟨replies, heq, -, -⟩ := failExpired_spec (bridge.pending.takeExpired now).1
    { bridge with pending := (bridge.pending.takeExpired now).2 }
  have hafter : (bridge.expireOverdue now).1 =
      { bridge with replies, pending := (bridge.pending.takeExpired now).2 } := heq
  rw [hafter]

theorem distinct_expireOverdue (distinct : bridge.pending.ids.Nodup) (now : Instant) :
    (bridge.expireOverdue now).1.pending.ids.Nodup := by
  rw [pending_expireOverdue]
  exact distinct.sublist (List.filter_sublist.map _)

/-- A sweep leaves nothing for a second one at the same instant. -/
theorem expireListed_expireOverdue (distinct : bridge.pending.ids.Nodup)
    {listing : List PendingEntry}
    (listed : listing.Perm (bridge.expireOverdue now).1.pending.entries) :
    (bridge.expireOverdue now).1.expireListed listing now = ((bridge.expireOverdue now).1, []) := by
  have hafter := distinct_expireOverdue distinct now
  have hkept : ∀ entry ∈ (bridge.expireOverdue now).1.pending.entries,
      entry.overdue now = false := by
    rw [pending_expireOverdue]
    exact fun entry hentry => (PendingTable.mem_kept_iff.1 hentry).2
  have hnone : ((bridge.expireOverdue now).1.pending.sweep listing now).1 = [] := by
    rw [PendingTable.sweep_fst hafter listed now, List.map_eq_nil_iff, List.filter_eq_nil_iff]
    intro entry hentry
    rw [hkept entry (listed.subset hentry)]
    exact Bool.false_ne_true
  have hall : ((bridge.expireOverdue now).1.pending.sweep listing now).2 =
      (bridge.expireOverdue now).1.pending := by
    rw [PendingTable.sweep_snd hafter listed now]
    refine congrArg PendingTable.mk (List.filter_eq_self.2 fun entry hentry => ?_)
    rw [hkept entry hentry]
    rfl
  have hsweep : (bridge.expireOverdue now).1.pending.sweep listing now =
      ([], (bridge.expireOverdue now).1.pending) := Prod.ext hnone hall
  unfold expireListed
  rw [hsweep]
  rfl

/-- Of two sweeps the later one decides what is left. -/
theorem expireOverdue_expireOverdue {later : Instant} (hle : now ≤ later) (bridge : Bridge κ) :
    ((bridge.expireOverdue now).1.expireOverdue later).1 = (bridge.expireOverdue later).1 := by
  have hpending : ((bridge.expireOverdue now).1.pending.takeExpired later).2 =
      (bridge.pending.takeExpired later).2 := by
    rw [pending_expireOverdue]
    unfold PendingTable.takeExpired
    dsimp only
    rw [List.filter_filter]
    refine congrArg PendingTable.mk (List.filter_congr fun entry _ => ?_)
    cases hnow : entry.overdue now with
    | false => exact Bool.and_true _
    | true => rw [PendingEntry.overdue_mono hle hnow]; rfl
  -- What the later sweep takes, it takes now or finds left over from the first one.
  have htaken (settler : Settler) : settler ∈ (bridge.pending.takeExpired later).1 ↔
      settler ∈ (bridge.pending.takeExpired now).1 ∨
        settler ∈ ((bridge.expireOverdue now).1.pending.takeExpired later).1 := by
    simp only [PendingTable.mem_expired_iff, pending_expireOverdue, PendingTable.mem_kept_iff]
    constructor
    · rintro ⟨entry, hentry, hlater, rfl⟩
      cases hnow : entry.overdue now with
      | true => exact .inl ⟨entry, hentry, hnow, rfl⟩
      | false => exact .inr ⟨entry, ⟨hentry, hnow⟩, hlater, rfl⟩
    · rintro (⟨entry, hentry, hnow, rfl⟩ | ⟨entry, ⟨hentry, -⟩, hlater, rfl⟩)
      · exact ⟨entry, hentry, PendingEntry.overdue_mono hle hnow, rfl⟩
      · exact ⟨entry, hentry, hlater, rfl⟩
  have hreplies : ((bridge.expireOverdue now).1.expireOverdue later).1.replies =
      (bridge.expireOverdue later).1.replies := by
    apply List.ext_getElem?
    intro ticket
    rw [getElem?_expireOverdue, getElem?_expireOverdue, getElem?_expireOverdue, Option.map_map]
    refine congrArg (Option.map · _) (funext fun reply => ?_)
    simp only [Function.comp, htaken, or_and_right, exists_or]
    by_cases hfirst : ∃ settler ∈ (bridge.pending.takeExpired now).1,
        settler.settled = false ∧ settler.ticket = ticket <;>
      by_cases hsecond : ∃ settler ∈ ((bridge.expireOverdue now).1.pending.takeExpired later).1,
          settler.settled = false ∧ settler.ticket = ticket <;>
        simp only [hfirst, hsecond, or_true, or_false, if_true, if_false, Reply.settle_settle]
  rw [expireOverdue_eq _ later, expireOverdue_eq bridge later, hpending, hreplies,
    expireOverdue_eq bridge now]

end Bridge

/-! ## The log of a sweep -/

/-- A run of expiries in another order makes the same lines once they are sorted, if no two of them
have one id. -/
theorem flushRun_perm {first second : List Expiry} (h : first.Perm second)
    (distinct : (first.map Expiry.id).Nodup) : flushRun first = flushRun second := by
  have hsorted (run : List Expiry) :
      (run.mergeSort fun a b => a.id.value ≤ b.id.value).Pairwise
        fun a b => (decide (a.id.value ≤ b.id.value) : Bool) = true := by
    apply List.pairwise_mergeSort
    · intro a b c hab hbc
      exact decide_eq_true (UInt64.le_trans (of_decide_eq_true hab) (of_decide_eq_true hbc))
    · intro a b
      simpa using UInt64.le_total a.id.value b.id.value
  have hsame : first.mergeSort (fun a b => a.id.value ≤ b.id.value) =
      second.mergeSort fun a b => a.id.value ≤ b.id.value := by
    refine List.Perm.eq_of_pairwise (fun a b ha hb hab hba => ?_) (hsorted first) (hsorted second)
      (((List.mergeSort_perm _ _).trans h).trans (List.mergeSort_perm _ _).symm)
    have hvalue : a.id.value = b.id.value :=
      UInt64.le_antisymm (of_decide_eq_true hab) (of_decide_eq_true hba)
    exact List.inj_on_of_nodup_map distinct (List.mem_mergeSort.1 ha)
      (h.symm.subset (List.mem_mergeSort.1 hb)) (congrArg CorrelationId.mk hvalue)
  rw [flushRun, flushRun, hsame]

namespace Expiry

/-- Behind an expiry there is at most the line on its own reply. -/
def Plain (expiry : Expiry) : Prop :=
  expiry.tail = [] ∨ expiry.tail = [.settledUnheld expiry.id]

/-- Sorting a log of expiries is sorting the expiries.  The induction is on the expiries still to be
read, with the run read so far. -/
theorem sortExpiriesAfter_events {expiries : List Expiry}
    (plain : ∀ expiry ∈ expiries, expiry.Plain) (run : List Expiry) :
    sortExpiriesAfter run (expiries.flatMap events) = flushRun (run ++ expiries) := by
  induction expiries generalizing run with
  | nil => rw [List.append_nil]; rfl
  | cons expiry rest ih =>
    have hrest := ih (fun other hother => plain other (List.mem_cons_of_mem _ hother))
      (run ++ [expiry])
    rw [List.append_assoc, List.singleton_append] at hrest
    obtain ⟨extension, id, tail⟩ := expiry
    obtain rfl | rfl : tail = [] ∨ tail = [.settledUnheld id] := plain _ List.mem_cons_self
    · exact hrest
    · rw [← hrest, List.flatMap_cons]
      simp [events, sortExpiriesAfter]

end Expiry

namespace Bridge

variable {κ : Type} {bridge : Bridge κ} {now : Instant}

/-- What the log says about a settler that a sweep fails. -/
def expiry (bridge : Bridge κ) (settler : Settler) : Expiry where
  extension := bridge.extension
  id := settler.id
  tail := if settler.settled then [] else settler.unheldLog bridge.replies

theorem plain_expiry (bridge : Bridge κ) (settler : Settler) : (bridge.expiry settler).Plain := by
  unfold expiry Expiry.Plain Settler.unheldLog
  dsimp only
  split
  · exact .inl rfl
  · split
    · split
      · exact .inl rfl
      · exact .inr rfl
    · exact .inl rfl

/-- Failing one settler changes nothing about what the log says of another. -/
theorem expiry_settleWith (bridge : Bridge κ) (settler other : Settler) (outcome : Outcome) :
    (bridge.settleWith settler outcome).1.expiry other = bridge.expiry other := by
  cases hsettled : settler.settled with
  | true => rw [settleWith_of_settled hsettled]
  | false =>
    rw [settleWith_eq hsettled]
    unfold expiry Settler.unheldLog
    dsimp only
    rw [List.getElem?_modify]
    cases bridge.replies[other.ticket]? with
    | none => rfl
    | some reply =>
      by_cases hticket : settler.ticket = other.ticket
      · simp [hticket, extension]
      · simp [hticket, extension]

theorem failExpired_snd (settlers : List Settler) (bridge : Bridge κ) :
    (bridge.failExpired settlers).2 = (settlers.map bridge.expiry).flatMap Expiry.events := by
  induction settlers generalizing bridge with
  | nil => rfl
  | cons settler rest ih =>
    have hline :
        (bridge.settleWith settler (.error .timeout)).2 = (bridge.expiry settler).tail := by
      unfold settleWith Settler.settle expiry
      cases settler.settled <;> rfl
    have hrest : (bridge.settleWith settler (.error .timeout)).1.expiry = bridge.expiry :=
      funext fun other => expiry_settleWith bridge settler other _
    rw [List.map_cons, List.flatMap_cons, ← hrest, ← ih, hrest, Expiry.events, ← hline]
    rfl

/-- In any order of listing, the log is the same once it stands in the order of ids. -/
theorem sortExpiries_expireListed (distinct : bridge.pending.ids.Nodup)
    {listing : List PendingEntry} (listed : listing.Perm bridge.pending.entries) (now : Instant) :
    sortExpiries (bridge.expireListed listing now).2 =
      sortExpiries (bridge.expireOverdue now).2 := by
  have hlog (settlers : List Settler) (b : Bridge κ) :
      sortExpiries (b.failExpired settlers).2 = flushRun (settlers.map b.expiry) := by
    rw [failExpired_snd, sortExpiries, Expiry.sortExpiriesAfter_events, List.nil_append]
    intro expiry hexpiry
    obtain ⟨settler, -, rfl⟩ := List.mem_map.1 hexpiry
    exact plain_expiry b settler
  unfold expireListed expireOverdue
  dsimp only
  rw [hlog, hlog, PendingTable.sweep_snd distinct listed now]
  refine flushRun_perm ((PendingTable.sweep_perm distinct listed now).map _) ?_
  rw [PendingTable.sweep_fst distinct listed now, List.map_map, List.map_map]
  exact PendingTable.nodup_overdue_ids distinct listed now

/-! ## The law -/

/-- A sweep at `now`, with the table listed as `listing`, is exact. -/
structure SweepsExactly (bridge : Bridge κ) (listing : List PendingEntry) (now : Instant) :
    Prop where
  /-- No settler is taken twice. -/
  once : ((bridge.pending.sweep listing now).1.map Settler.id).Nodup
  /-- Those are taken whose deadline is at or before `now`. -/
  taken : ∀ settler, settler ∈ (bridge.pending.sweep listing now).1 ↔
    ∃ entry ∈ bridge.pending.entries,
      (∃ deadline ≤ now, entry.deadline = some deadline) ∧ entry.settler = settler
  /-- Nothing that is left has changed: these are old entries, each with its settler and deadline,
  in their old order. -/
  unchanged : (bridge.pending.sweep listing now).2.entries.Sublist bridge.pending.entries
  /-- Exactly those entries are left whose deadline is later or absent. -/
  left : ∀ entry, entry ∈ (bridge.pending.sweep listing now).2.entries ↔
    entry ∈ bridge.pending.entries ∧ ∀ deadline, entry.deadline = some deadline → now < deadline
  /-- The reply of a settler that was taken has timed out if it waited, whether or not somebody
  holds it, and nothing else about it has changed. -/
  fails : ∀ settler ∈ (bridge.pending.sweep listing now).1, settler.settled = false →
    ∀ reply, bridge.replies[settler.ticket]? = some reply → reply.progress = .waiting →
      (bridge.expireListed listing now).1.replies[settler.ticket]? =
        some { reply with progress := .settled (.error .timeout) }
  /-- A reply that no longer waited stays as it is. -/
  decided : ∀ settler ∈ (bridge.pending.sweep listing now).1, settler.settled = false →
    ∀ reply, bridge.replies[settler.ticket]? = some reply → reply.progress ≠ .waiting →
      (bridge.expireListed listing now).1.replies[settler.ticket]? = some reply
  /-- All other replies stay as they are. -/
  spares : ∀ ticket, (∀ settler ∈ (bridge.pending.sweep listing now).1, settler.ticket ≠ ticket) →
    (bridge.expireListed listing now).1.replies[ticket]? = bridge.replies[ticket]?
  /-- The bridge that is left, its table and all of its replies, is that of the one order which a
  bridge goes by. -/
  any_order : (bridge.expireListed listing now).1 = (bridge.expireOverdue now).1
  /-- So is the log, in the order of ids. -/
  any_order_log : sortExpiries (bridge.expireListed listing now).2 =
    sortExpiries (bridge.expireOverdue now).2
  /-- A second sweep at the same instant, in whatever order, does nothing. -/
  settled : ∀ again : List PendingEntry,
    again.Perm (bridge.expireListed listing now).1.pending.entries →
      (bridge.expireListed listing now).1.expireListed again now =
        ((bridge.expireListed listing now).1, [])
  /-- A second sweep later on leaves what it leaves without the first one, whatever the orders. -/
  composes : ∀ later, now ≤ later → ∀ again direct : List PendingEntry,
    again.Perm (bridge.expireListed listing now).1.pending.entries →
      direct.Perm bridge.pending.entries →
        ((bridge.expireListed listing now).1.expireListed again later).1 =
          (bridge.expireListed direct later).1

/-- For every table in which an id occurs once, every order in which the table may list its entries,
and every instant: the sweep takes the overdue requests and no others, their replies time out, and
what is left depends on the instant of the latest sweep alone. -/
theorem sweep_exact (distinct : bridge.pending.ids.Nodup) {listing : List PendingEntry}
    (listed : listing.Perm bridge.pending.entries) (now : Instant) :
    bridge.SweepsExactly listing now := by
  have hany := expireListed_eq distinct listed now
  have hafter := distinct_expireOverdue distinct now
  have hmem (settler : Settler) :=
    (PendingTable.sweep_perm distinct listed now).mem_iff (a := settler)
  have hreplies (ticket : Ticket) := getElem?_expireOverdue bridge now ticket
  simp only [← hmem] at hreplies
  have hsettled {settler : Settler} {reply : Reply}
      (hsettler : settler ∈ (bridge.pending.sweep listing now).1)
      (hunsettled : settler.settled = false)
      (hreply : bridge.replies[settler.ticket]? = some reply) :
      (bridge.expireListed listing now).1.replies[settler.ticket]? =
        some (reply.settle (.error .timeout)) := by
    rw [hany, hreplies, hreply, Option.map_some, if_pos ⟨settler, hsettler, hunsettled, rfl⟩]
  refine ⟨?_, fun settler => ?_, ?_, fun entry => ?_,
    fun settler hsettler hunsettled reply hreply hwaiting => ?_,
    fun settler hsettler hunsettled reply hreply hdecided => ?_, fun ticket hother => ?_,
    hany, sortExpiries_expireListed distinct listed now,
    fun again hagain => ?_, fun later hle again direct hagain hdirect => ?_⟩
  · rw [PendingTable.sweep_fst distinct listed now, List.map_map]
    exact PendingTable.nodup_overdue_ids distinct listed now
  · rw [hmem, PendingTable.mem_expired_iff]
    simp only [PendingEntry.overdue_iff]
  · rw [PendingTable.sweep_snd distinct listed now]
    exact List.filter_sublist
  · rw [PendingTable.sweep_snd distinct listed now, PendingTable.mem_kept_iff,
      PendingEntry.not_overdue_iff]
  · rw [hsettled hsettler hunsettled hreply, Reply.settle_of_waiting hwaiting]
  · rw [hsettled hsettler hunsettled hreply, Reply.settle_of_ne_waiting hdecided]
  · rw [hany, hreplies]
    have hnone : ¬∃ settler ∈ (bridge.pending.sweep listing now).1,
        settler.settled = false ∧ settler.ticket = ticket := by
      rintro ⟨settler, hsettler, -, hticket⟩
      exact hother settler hsettler hticket
    simp only [if_neg hnone, Option.map_id']
  · rw [hany] at hagain ⊢
    exact expireListed_expireOverdue distinct hagain
  · rw [hany] at hagain ⊢
    rw [expireListed_eq hafter hagain, expireListed_eq distinct hdirect,
      expireOverdue_expireOverdue hle]

/-- Four requests, the last registered being the first to expire; nobody holds the reply of the
first, and the table lists the requests backwards. -/
theorem sweep_exact_of_backward_listing :
    let waiting (id : UInt64) (ticket : Ticket) (deadline : Option Instant) : PendingEntry :=
      { settler := { id := ⟨id⟩, ticket }, deadline }
    let bridge : Bridge Unit :=
      { config := {}
        replies := [{ id := ⟨7⟩, deadline := some 5, held := false }, { id := ⟨8⟩ },
          { id := ⟨9⟩, deadline := some 6 }, { id := ⟨10⟩, deadline := some 3 }]
        pending := ⟨[waiting 7 0 (some 5), waiting 8 1 none, waiting 9 2 (some 6),
          waiting 10 3 (some 3)]⟩ }
    let listing := bridge.pending.entries.reverse
    bridge.pending.ids.Nodup ∧ listing.Perm bridge.pending.entries ∧
      (bridge.pending.sweep listing 5).1.map Settler.ticket = [3, 0] ∧
      (bridge.pending.sweep listing 5).2.ids = [⟨8⟩, ⟨9⟩] ∧ bridge.SweepsExactly listing 5 := by
  intro waiting bridge listing
  have distinct : bridge.pending.ids.Nodup := by decide
  have listed : listing.Perm bridge.pending.entries := List.reverse_perm _
  exact ⟨distinct, listed, by decide, by decide, sweep_exact distinct listed 5⟩

end Bridge
end HostLink
