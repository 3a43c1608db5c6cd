import HostLink.Proofs.WrittenRecords

/-!
# One object for two records

A configuration and its wire format are decoded from the members of one object, the wire format in a
second pass over what the configuration leaves.  `Config.decoding_flattens` says that the two passes
lose nothing and add nothing: decoding a configuration succeeds exactly if the wire format decodes
from the same object and the three members that are the configuration's own are of their types, the
wire part is the wire format decoded alone, and every one of the nine fields is what the member
under its name says, or the default.  Members under unknown names make no difference, not even to
the error, and a text may give the members in any order.

Names have to be distinct, as they are in every object value; a name given twice is refused where
it is known.  The id format must not be given as an object, where the two records differ: inside a
configuration `{"string": {}}` stands for a format, alone it does not.
-/

namespace HostLink

/-! ## Unknown members -/

/-- The names that a configuration or its wire format knows. -/
def Config.knownNames : List String :=
  ["extension", "activation_command", "request_timeout_ms", "command_field", "correlation_field",
    "id_format", "data_field", "error_field", "event_field"]

/-- Whether a member is under a known name. -/
def Config.isKnown (member : String × Json) : Bool := Config.knownNames.contains member.1

namespace WireFormat

theorem Key.ofName?_of_unknown {member : String × Json} (h : Config.isKnown member = false) :
    ofName? member.1 = none := by
  cases hkey : ofName? member.1 with
  | none => rfl
  | some key =>
    have hknown : Config.knownNames.contains key.name = true := by
      obtain place | _ := key
      · cases place <;> decide
      · decide
    rw [ofName?_eq_some_iff.1 hkey] at hknown
    exact absurd hknown (Bool.not_eq_true _ ▸ h)

/-- Unknown members are passed over. -/
theorem addMembers_filter_known (emptyObject : Bool) (draft : Draft)
    (members : List (String × Json)) :
    draft.addMembers emptyObject (members.filter Config.isKnown) =
      draft.addMembers emptyObject members := by
  have hstep (draft : Draft) (member : String × Json) :
      (if Config.isKnown member then draft.addMember emptyObject member else pure draft) =
        draft.addMember emptyObject member := by
    split
    · rfl
    · next hunknown =>
      simp only [Draft.addMember, Key.ofName?_of_unknown (eq_false_of_ne_true hunknown)]
      rfl
  simp only [Draft.addMembers, List.foldlM_filter, hstep]

theorem ofJson_filter_known (members : List (String × Json)) :
    WireFormat.ofJson (.obj (members.filter Config.isKnown)) =
      WireFormat.ofJson (.obj members) := by
  rw [WireFormat.ofJson, addMembers_filter_known, WireFormat.ofJson]

end WireFormat

namespace Config

theorem Key.ofName?_of_unknown {member : String × Json} (h : isKnown member = false) :
    ofName? member.1 = none := by
  cases hkey : ofName? member.1 with
  | none => rfl
  | some key =>
    have hknown : knownNames.contains key.name = true := by
      cases key <;> decide
    rw [ofName?_eq_some_iff.1 hkey] at hknown
    exact absurd hknown (Bool.not_eq_true _ ▸ h)

namespace Draft

/-- The draft without the unknown members that it keeps. -/
def trim (draft : Draft) : Draft := { draft with others := draft.others.filter isKnown }

theorem finish_trim (draft : Draft) : draft.trim.finish = draft.finish := by
  simp only [finish, trim, WireFormat.addMembers_filter_known]

theorem addHead_trim (draft : Draft) (key : Key) (head : Head) :
    draft.trim.addHead key head = (draft.addHead key head).map trim := by
  cases key with
  | extension => cases hread : head.toText <;> simp only [addHead, hread, Except.map, trim]
  | activationCommand => cases hread : head.toText <;> simp only [addHead, hread, Except.map, trim]
  | requestTimeout =>
    cases hread : head.toOptionalUInt64 <;> simp only [addHead, hread, Except.map, trim]

theorem addMember_trim (draft : Draft) {member : String × Json} (h : isKnown member = true) :
    draft.trim.addMember member = (draft.addMember member).map trim := by
  unfold addMember
  cases Key.ofName? member.1 with
  | none => simp [trim, keep, h, Except.map]
  | some key =>
    have hholds : draft.trim.holds key = draft.holds key := by cases key <;> rfl
    by_cases hheld : draft.holds key = true
    · simp only [hholds, hheld, if_true, Except.map]
    · simp only [hholds, hheld, Bool.false_eq_true, if_false]
      exact addHead_trim draft key _

theorem addMember_of_unknown (draft : Draft) {member : String × Json} (h : isKnown member = false) :
    ∃ after, draft.addMember member = .ok after ∧ after.trim = draft.trim := by
  refine ⟨draft.keep member, ?_, ?_⟩
  · simp only [addMember, Key.ofName?_of_unknown h]
  · simp [trim, keep, h]

/-- Reading the known members alone comes to the same draft, apart from what it keeps of the
others. -/
theorem foldlM_filter_known (draft : Draft) (members : List (String × Json)) :
    (members.filter isKnown).foldlM addMember draft.trim =
      (members.foldlM addMember draft).map trim := by
  induction members generalizing draft with
  | nil => rfl
  | cons member rest ih =>
    by_cases hknown : isKnown member = true
    · rw [List.filter_cons_of_pos hknown, List.foldlM_cons, List.foldlM_cons,
        addMember_trim draft hknown]
      cases draft.addMember member with
      | error e => rfl
      | ok after => exact ih after
    · obtain ⟨after, hafter, hsame⟩ := addMember_of_unknown draft (eq_false_of_ne_true hknown)
      rw [List.filter_cons_of_neg hknown, List.foldlM_cons, hafter, ← hsame]
      exact ih after

end Draft

theorem ofJson_filter_known (members : List (String × Json)) :
    Config.ofJson (.obj (members.filter isKnown)) = Config.ofJson (.obj members) := by
  have hfold := Draft.foldlM_filter_known {} members
  have hempty : Draft.trim {} = {} := rfl
  rw [hempty] at hfold
  rw [Config.ofJson, Config.ofJson, ofMembers, ofMembers, hfold]
  cases members.foldlM Draft.addMember {} with
  | error e => rfl
  | ok draft => exact draft.finish_trim

/-! ## The law -/

section Plain

variable {members : Fields Json}

/-- Where the id format is no object, a wire format is what the members say in plain terms. -/
theorem wireFormat_iff (distinct : (Fields.names members).Nodup)
    (plain : ∀ inner, Fields.lookup "id_format" members ≠ some (.obj inner)) {wire : WireFormat} :
    WireFormat.ofJson (.obj members) = .ok wire ↔ wire.ReadFrom Json.NamesFormat members := by
  have hformat (given : Json) (hgiven : Fields.lookup "id_format" members = some given)
      (format : IdFormat) : IdFormat.ofJson false given = .ok format ↔ given.NamesFormat format :=
    IdFormat.ofJson_eq_ok_iff fun inner hobject => plain inner (hobject ▸ hgiven)
  rw [WireFormat.ofJson_obj_eq_ok_iff distinct]
  constructor
  · exact fun h => h.imp (fun _ => rfl) fun given hgiven format => (hformat given hgiven format).1
  · exact fun h => h.imp (fun _ => rfl) fun given hgiven format => (hformat given hgiven format).2

/-- Where the id format is no object, a configuration is what the members say in plain terms. -/
theorem ofJson_iff (distinct : (Fields.names members).Nodup)
    (plain : ∀ inner, Fields.lookup "id_format" members ≠ some (.obj inner)) {config : Config} :
    Config.ofJson (.obj members) = .ok config ↔ config.ReadFrom Json.NamesFormat members := by
  have hformat (given : Json) (hgiven : Fields.lookup "id_format" members = some given)
      (format : IdFormat) : IdFormat.ofJson true given = .ok format ↔ given.NamesFormat format :=
    IdFormat.ofJson_eq_ok_iff fun inner hobject => plain inner (hobject ▸ hgiven)
  rw [Config.ofJson, ofMembers_eq_ok_iff distinct]
  constructor
  · exact fun h => h.imp (fun _ => rfl) fun given hgiven format => (hformat given hgiven format).1
  · exact fun h => h.imp (fun _ => rfl) fun given hgiven format => (hformat given hgiven format).2

end Plain

/-- What decoding an object for a configuration comes to, next to decoding it for a wire format. -/
structure Flattens (members : Fields Json) : Prop where
  /-- A configuration is accepted exactly if the wire format is and each of the configuration's own
  members is absent or of its type. -/
  accepted : (∃ config, Config.ofJson (.obj members) = .ok config) ↔
    (∃ wire, WireFormat.ofJson (.obj members) = .ok wire) ∧
      Fields.Admits "extension" members Json.IsText ∧
      Fields.Admits "activation_command" members Json.IsText ∧
      Fields.Admits "request_timeout_ms" members Json.IsTimeout
  /-- The wire part is the wire format decoded from the same object. -/
  wire : ∀ config, Config.ofJson (.obj members) = .ok config →
    WireFormat.ofJson (.obj members) = .ok config.wire
  /-- Every field is the value that is given, or the default where none is. -/
  fields : ∀ config, Config.ofJson (.obj members) = .ok config →
    config.ReadFrom Json.NamesFormat members
  /-- Members under unknown names may be added or taken away; the outcome is the same, errors
  included. -/
  unknown : ∀ others, others.filter isKnown = members.filter isKnown →
    Config.ofJson (.obj others) = Config.ofJson (.obj members) ∧
      WireFormat.ofJson (.obj others) = WireFormat.ofJson (.obj members)
  /-- A text with these members in any order decodes into the same. -/
  text : ∀ text others, Json.Written text others → others.Perm members →
    (∀ config, Config.ofJsonText text = .ok config ↔ Config.ofJson (.obj members) = .ok config) ∧
      ∀ wire, WireFormat.ofJsonText text = .ok wire ↔ WireFormat.ofJson (.obj members) = .ok wire

theorem decoding_flattens (members : Fields Json) (distinct : (Fields.names members).Nodup)
    (plain : ∀ inner, Fields.lookup "id_format" members ≠ some (.obj inner)) :
    Flattens members where
  accepted := by
    constructor
    · rintro ⟨config, hconfig⟩
      have h := (ofJson_iff distinct plain).1 hconfig
      exact ⟨⟨config.wire, (wireFormat_iff distinct plain).2 h.wire⟩,
        (Fields.exists_gives_iff _).1 ⟨_, h.extension⟩,
        (Fields.exists_gives_iff _).1 ⟨_, h.activationCommand⟩,
        (Fields.exists_gives_iff _).1 ⟨_, h.requestTimeoutMs⟩⟩
    · rintro ⟨⟨wire, hwire⟩, hextension, hcommand, hms⟩
      obtain ⟨extension, hextension⟩ :=
        (Fields.exists_gives_iff ({} : Config).extension).2 hextension
      obtain ⟨activationCommand, hcommand⟩ :=
        (Fields.exists_gives_iff ({} : Config).activationCommand).2 hcommand
      obtain ⟨requestTimeoutMs, hms⟩ :=
        (Fields.exists_gives_iff ({} : Config).requestTimeoutMs).2 hms
      exact ⟨{ extension, wire, activationCommand, requestTimeoutMs },
        (ofJson_iff distinct plain).2
          ⟨hextension, hcommand, hms, (wireFormat_iff distinct plain).1 hwire⟩⟩
  wire := by
    intro config hconfig
    exact (wireFormat_iff distinct plain).2 ((ofJson_iff distinct plain).1 hconfig).wire
  fields := fun config hconfig => (ofJson_iff distinct plain).1 hconfig
  unknown := by
    intro others hsame
    constructor
    · rw [← ofJson_filter_known others, hsame, ofJson_filter_known]
    · rw [← WireFormat.ofJson_filter_known others, hsame, WireFormat.ofJson_filter_known]
  text := by
    intro text others written hperm
    constructor
    · intro config
      rw [Config.ofJsonText_eq_ok_iff, Config.ofJson, ← ofMembers_perm distinct hperm]
      constructor
      · rintro ⟨found, hfound, h⟩
        exact hfound.unique written ▸ h
      · exact fun h => ⟨others, written, h⟩
    · intro wire
      rw [WireFormat.ofJsonText_eq_ok_iff written]
      exact WireFormat.ofJson_perm distinct hperm

/-- Members of both records among unknown ones, in an order that neither record has. -/
def scattered : Fields Json :=
  [("zoom", .arr [.null]), ("request_timeout_ms", .num (.ofUInt64 250)),
    ("error_field", .str "fault"), ("wire", .obj [("command_field", .str "verb")]),
    ("id_format", .str "number"), ("activation_command", .str "listen")]

/-- The compact text of scattered members, written back to front, decodes into both records. -/
theorem decoding_flattens_of_scattered :
    (Fields.names scattered).Nodup ∧
      (∀ inner, Fields.lookup "id_format" scattered ≠ some (.obj inner)) ∧
      Config.ofJsonText (Json.obj scattered.reverse).compact =
        .ok { wire := { idFormat := .number, errorField := "fault" }
              activationCommand := "listen"
              requestTimeoutMs := some 250 } ∧
      WireFormat.ofJsonText (Json.obj scattered.reverse).compact =
        .ok { idFormat := .number, errorField := "fault" } := by
  have distinct : (Fields.names scattered).Nodup := by decide
  have plain : ∀ inner, Fields.lookup "id_format" scattered ≠ some (.obj inner) := by
    intro inner h
    cases h
  have h := decoding_flattens scattered distinct plain
  have written : Json.Written (Json.obj scattered.reverse).compact scattered.reverse :=
    Json.written_compact (by decide)
  obtain ⟨hconfig, hwire⟩ := h.text _ _ written (List.reverse_perm scattered)
  exact ⟨distinct, plain, (hconfig _).2 rfl, (hwire _).2 rfl⟩

/-- Inside a configuration an empty object passes for the null of an id format, alone it does not;
this is why the law leaves out id formats that are objects. -/
example :
    (Config.ofJson (.obj [("id_format", .obj [("string", .obj [])])])).isOk = true ∧
      (WireFormat.ofJson (.obj [("id_format", .obj [("string", .obj [])])])).isOk = false :=
  ⟨rfl, rfl⟩

end Config
end HostLink
