import HostLink.Decode.Record
import HostLink.Snapshot

/-!
# Typed payloads

The types that a payload can be decoded into, and the decoding of a value into each.
-/

namespace HostLink

/-- A description of a device's processors. -/
structure CpuInfo where
  processors : UInt32
  architecture : String
deriving DecidableEq

namespace CpuInfo

/-- The description read so far, with one member of it. -/
def addMember (draft : Option UInt32 × Option String) (member : String × Json) :
    Except DataError (Option UInt32 × Option String) :=
  if member.1 = "numOfProcessors" then
    if draft.1.isSome then .error (.duplicateField member.1)
    else member.2.head.toUInt32.map fun n => (some n, draft.2)
  else if member.1 = "archName" then
    if draft.2.isSome then .error (.duplicateField member.1)
    else member.2.head.toText.map fun name => (draft.1, some name)
  else .ok draft

/-- A description from an object with both members, or from a list of the two. -/
def ofJson : Json → Except DataError CpuInfo
  | .obj members => do
    match ← members.foldlM addMember (none, none) with
    | (some processors, some architecture) => .ok { processors, architecture }
    | (none, _) => .error (.missingField "numOfProcessors")
    | (some _, none) => .error (.missingField "archName")
  | .arr [] => .error (.tooShort 0)
  | .arr [processors] => do
    let _ ← processors.head.toUInt32
    .error (.tooShort 1)
  | .arr (processors :: architecture :: rest) => do
    let processors ← processors.head.toUInt32
    let architecture ← architecture.head.toText
    if rest.isEmpty then .ok { processors, architecture } else .error (.tooLong (rest.length + 2))
  | value => .error (.invalidType value.head .cpuInfo)

/-- The description on one line. -/
def text (info : CpuInfo) : String :=
  Nat.repr info.processors.toNat ++ " " ++ info.architecture

end CpuInfo

/-- A type to decode a payload into. -/
inductive DecodeTarget where
  | value
  | cpuInfo
  | u64
  | text
  | texts
  | unit
  | correlationId
  | idFormat
  | wireFormat
  | config
deriving DecidableEq

/-- A decoded payload. -/
inductive Decoded where
  | value (value : Json)
  | cpuInfo (info : CpuInfo)
  | u64 (n : UInt64)
  | text (s : String)
  | texts (items : List String)
  | unit
  | correlationId (id : CorrelationId)
  | idFormat (format : IdFormat)
  | wireFormat (wire : WireFormat)
  | config (config : Config)

namespace DecodeTarget

/-- Decode a value. -/
def decode (value : Json) : DecodeTarget → Except DataError Decoded
  | .value => .ok (.value value)
  | .cpuInfo => (CpuInfo.ofJson value).map Decoded.cpuInfo
  | .u64 => value.head.toUInt64.map Decoded.u64
  | .text => value.head.toText.map Decoded.text
  | .texts =>
    match value with
    | .arr items => (items.mapM fun (item : Json) => item.head.toText).map Decoded.texts
    | other => .error (.invalidType other.head .list)
  | .unit => value.head.toUnit.map fun _ => .unit
  | .correlationId => value.head.toCorrelationId.map Decoded.correlationId
  | .idFormat => (IdFormat.ofJson false value).map Decoded.idFormat
  | .wireFormat => (WireFormat.ofJson value).map Decoded.wireFormat
  | .config => (Config.ofJson value).map Decoded.config

end DecodeTarget

namespace Snapshot

/-- Decode the payload. -/
def decode (snapshot : Snapshot) (target : DecodeTarget) : Except BridgeError Decoded :=
  match target.decode snapshot.toJson with
  | .ok decoded => .ok decoded
  | .error e => .error (.serialization (.shape e))

end Snapshot
end HostLink
