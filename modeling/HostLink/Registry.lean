import HostLink.Error
import HostLink.Text.Blank

/-!
# Event subscriptions

The subscriptions of one bridge in the order of registration.  Subscription ids are issued in
increasing order and never again.

An id is a natural number here.  It stands for a word of 64 bits as long as a bridge issues fewer
than `2 ^ 64` of them, and what is said of ids is said under that bound.
-/

namespace HostLink

/-- The id of a subscription, a 64-bit word while fewer than `2 ^ 64` were issued. -/
structure SubscriptionId where
  value : Nat
deriving DecidableEq

namespace SubscriptionId

/-- The id in decimal. -/
def text (id : SubscriptionId) : String := Nat.repr id.value

end SubscriptionId

/-- A callback that waits for events of one name. -/
structure Subscription (κ : Type) where
  id : SubscriptionId
  event : String
  callback : κ

/-- The subscriptions of one bridge, and how many were issued so far, which is fewer than
`2 ^ 64`. -/
structure Registry (κ : Type) where
  subscriptions : List (Subscription κ) := []
  issued : Nat := 0

namespace Registry

variable {κ : Type}

/-- Event names are not empty and hold neither white space nor control characters. -/
def checkEventName (name : String) : Except ArgumentError Unit :=
  if name.isEmpty then .error .emptyEventName
  else if name.toList.any fun c => isBlank c || isControl c then
    .error (.eventNameNotSymbolic name)
  else .ok ()

/-- The number of subscriptions. -/
def size (registry : Registry κ) : Nat := registry.subscriptions.length

/-- Whether anyone subscribed to an event. -/
def hasListener (registry : Registry κ) (event : String) : Bool :=
  registry.subscriptions.any fun subscription => subscription.event = event

/-- Add a subscription; also gives its id. -/
def insert (registry : Registry κ) (event : String) (callback : κ) :
    SubscriptionId × Registry κ :=
  let id : SubscriptionId := ⟨registry.issued⟩
  (id, { subscriptions := registry.subscriptions ++ [{ id, event, callback }]
         issued := registry.issued + 1 })

/-- Whether there is a subscription of this id. -/
def contains (registry : Registry κ) (id : SubscriptionId) : Bool :=
  registry.subscriptions.any fun subscription => subscription.id = id

/-- Take away a subscription. -/
def erase (registry : Registry κ) (id : SubscriptionId) : Registry κ :=
  { registry with
    subscriptions := registry.subscriptions.eraseP fun subscription => subscription.id = id }

/-- The callbacks subscribed to an event, in the order of registration. -/
def callbacks (registry : Registry κ) (event : String) : List κ :=
  (registry.subscriptions.filter fun subscription => subscription.event = event).map
    Subscription.callback

end Registry
end HostLink
