import HostLink.Reply

/-!
# Pending requests

The requests that wait for an answer, by correlation id, each with its settler and the instant at
which it expires.  Entries stand in the order of registration; an id occurs once.
-/

namespace HostLink

/-- A request that waits for an answer. -/
structure PendingEntry where
  settler : Settler
  deadline : Option Instant := none
deriving DecidableEq

namespace PendingEntry

/-- The id of the request. -/
def id (entry : PendingEntry) : CorrelationId := entry.settler.id

/-- Whether the request has expired. -/
def overdue (now : Instant) (entry : PendingEntry) : Bool := Reply.reached now entry.deadline

end PendingEntry

/-- The requests that wait for an answer. -/
structure PendingTable where
  entries : List PendingEntry := []

namespace PendingTable

/-- The ids of the waiting requests. -/
def ids (table : PendingTable) : List CorrelationId := table.entries.map PendingEntry.id

/-- The number of waiting requests. -/
def size (table : PendingTable) : Nat := table.entries.length

/-- The entry of an id. -/
def entry? (table : PendingTable) (id : CorrelationId) : Option PendingEntry :=
  table.entries.find? fun entry => entry.id = id

/-- Whether a request waits under `id`. -/
def contains (table : PendingTable) (id : CorrelationId) : Bool := (table.entry? id).isSome

/-- Take away the entry of an id. -/
def erase (table : PendingTable) (id : CorrelationId) : PendingTable :=
  ⟨table.entries.filter fun entry => entry.id ≠ id⟩

/-- Put a settler under its id, to wait without a deadline. -/
def register (table : PendingTable) (settler : Settler) : PendingTable :=
  ⟨(table.erase settler.id).entries ++ [{ settler := settler }]⟩

/-- Let the request `id` expire at `deadline`, if it waits. -/
def setDeadline (table : PendingTable) (id : CorrelationId) (deadline : Instant) : PendingTable :=
  ⟨table.entries.map fun entry =>
    if entry.id = id then { entry with deadline := some deadline } else entry⟩

/-- Take the settler of an id out of the table. -/
def take (table : PendingTable) (id : CorrelationId) : Option Settler × PendingTable :=
  ((table.entry? id).map PendingEntry.settler, table.erase id)

/-- Take the settlers of all expired requests out of the table. -/
def takeExpired (table : PendingTable) (now : Instant) : List Settler × PendingTable :=
  ((table.entries.filter (PendingEntry.overdue now)).map PendingEntry.settler,
    ⟨table.entries.filter fun entry => !entry.overdue now⟩)

/-! ## The ids of the table -/

@[simp] theorem ids_erase (table : PendingTable) (id : CorrelationId) :
    (table.erase id).ids = table.ids.filter (· ≠ id) := by
  simp only [ids, erase, List.filter_map]
  rfl

@[simp] theorem ids_register (table : PendingTable) (settler : Settler) :
    (table.register settler).ids = table.ids.filter (· ≠ settler.id) ++ [settler.id] := by
  rw [← ids_erase]
  simp [ids, register, PendingEntry.id]

@[simp] theorem ids_setDeadline (table : PendingTable) (id : CorrelationId) (deadline : Instant) :
    (table.setDeadline id deadline).ids = table.ids := by
  simp only [ids, setDeadline, List.map_map]
  refine List.map_congr_left fun entry _ => ?_
  simp only [Function.comp]
  split <;> rfl

theorem contains_iff_mem_ids (table : PendingTable) (id : CorrelationId) :
    table.contains id = true ↔ id ∈ table.ids := by
  simp [contains, entry?, ids]

end PendingTable
end HostLink
