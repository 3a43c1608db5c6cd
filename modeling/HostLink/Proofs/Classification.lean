import HostLink.Proofs.Envelopes

/-!
# What a message is taken for

A text that comes in is a reply, a fault report, an event or malformed, and its fields are looked at
in a fixed order that also decides when names coincide: a wire format may give two fields the same
name, or none at all.  `Inbound.Classified` states the rules as a relation between the members of a
message and what it is taken for; `Inbound.classified_iff` says that reading follows exactly these
rules, so that each kind of message has its condition (`Inbound.classification_exact`).

An error counts only if it is truthy.  `Json.Falsy` lists the values that are not.
-/

namespace HostLink

/-! ## Falsy values -/

theorem Double.isZero_iff (x : Double) : x.isZero = true ↔ ∃ negative, x = .zero negative := by
  constructor
  · intro h
    obtain ⟨negative, mantissa, scale, hmantissa, hscale, hnormal⟩ := x
    obtain rfl : mantissa = 0 := by simpa [isZero] using h
    obtain rfl : scale = 0 := hnormal.resolve_right (by omega)
    exact ⟨negative, rfl⟩
  · rintro ⟨negative, rfl⟩
    rfl

namespace Json

/-- The values that mark the absence of an error: null, false, the integer zero, the two float zeros
and the empty text. -/
inductive Falsy : Json → Prop
  | null : Falsy .null
  | no : Falsy (.bool false)
  | zero (inRange) : Falsy (.num (.int 0 inRange))
  | floatZero (negative : Bool) : Falsy (.num (.float (.zero negative)))
  | empty : Falsy (.str "")

theorem isTruthy_eq_false_iff (value : Json) : value.isTruthy = false ↔ value.Falsy := by
  constructor
  · intro h
    cases value with
    | null => exact .null
    | bool b =>
      obtain rfl : b = false := h
      exact .no
    | num number =>
      have hzero : number.isZero = true := by simpa [isTruthy] using h
      cases number with
      | int z inRange =>
        obtain rfl : z = 0 := by simpa [Number.isZero] using hzero
        exact .zero inRange
      | float x =>
        obtain ⟨negative, rfl⟩ := x.isZero_iff.1 hzero
        exact .floatZero negative
    | str text =>
      obtain rfl : text = "" := by simpa [isTruthy] using h
      exact .empty
    | arr items => cases h
    | obj members => cases h
  · rintro (_ | _ | inRange | negative | _) <;> rfl

theorem isTruthy_iff (value : Json) : value.isTruthy = true ↔ ¬value.Falsy := by
  rw [← isTruthy_eq_false_iff, Bool.not_eq_false]

theorem filter_isTruthy_eq_some_iff {field : Option Json} {value : Json} :
    field.filter isTruthy = some value ↔ field = some value ∧ ¬value.Falsy := by
  rw [Option.filter_eq_some_iff, isTruthy_iff]

theorem filter_isTruthy_eq_none_iff {field : Option Json} :
    field.filter isTruthy = none ↔ ∀ value, field = some value → value.Falsy := by
  rw [Option.filter_eq_none_iff]
  refine forall₂_congr fun value _ => ?_
  rw [isTruthy_iff, not_not]

end Json

namespace Inbound

/-! ## The rules -/

/-- What a message with these members is taken for. -/
inductive Classified (wire : WireFormat) (members : Fields Json) :
    Except EnvelopeError Inbound → Prop
  | reply {raw : Json} {id : CorrelationId}
      (given : Fields.lookup wire.correlationField members = some raw)
      (decoded : CorrelationId.decode? raw = some id) :
      Classified wire members
        (.ok (.reply id (outcomeOf wire (Fields.erase wire.correlationField members))))
  | badId {raw : Json} (given : Fields.lookup wire.correlationField members = some raw)
      (undecoded : CorrelationId.decode? raw = none) :
      Classified wire members (.error (.badCorrelationId raw))
  | fault {error : Json} (uncorrelated : Fields.lookup wire.correlationField members = none)
      (failed : Fields.lookup wire.errorField members = some error) (truthy : ¬error.Falsy) :
      Classified wire members (.ok (.fault error))
  | event {name : String} (uncorrelated : Fields.lookup wire.correlationField members = none)
      (sound : ∀ error, Fields.lookup wire.errorField members = some error → error.Falsy)
      (named : Fields.lookup wire.eventField members = some (.str name)) :
      Classified wire members (.ok (.event name (.obj members)))
  | unclassified (uncorrelated : Fields.lookup wire.correlationField members = none)
      (sound : ∀ error, Fields.lookup wire.errorField members = some error → error.Falsy)
      (unnamed : ∀ name, Fields.lookup wire.eventField members ≠ some (.str name)) :
      Classified wire members (.error .unclassified)

variable {wire : WireFormat} {members : Fields Json}

/-- The rules leave no message out. -/
theorem classified_ofJson (wire : WireFormat) (members : Fields Json) :
    Classified wire members (ofJson wire (.obj members)) := by
  cases hid : Fields.lookup wire.correlationField members with
  | some raw =>
    cases hdecode : CorrelationId.decode? raw with
    | some id =>
      simp only [ofJson, hid, hdecode]
      exact .reply hid hdecode
    | none =>
      simp only [ofJson, hid, hdecode]
      exact .badId hid hdecode
  | none =>
    cases herror : truthy? wire.errorField members with
    | some error =>
      obtain ⟨hfailed, htruthy⟩ := Json.filter_isTruthy_eq_some_iff.1 herror
      simp only [ofJson, hid, herror]
      exact .fault hid hfailed htruthy
    | none =>
      have hsound := Json.filter_isTruthy_eq_none_iff.1 herror
      simp only [ofJson, hid, herror]
      split
      · next name hevent => exact .event hid hsound hevent
      · next hevent => exact .unclassified hid hsound hevent

/-- A message is taken for what the rules say, and for nothing else. -/
theorem classified_iff {result : Except EnvelopeError Inbound} :
    Classified wire members result ↔ ofJson wire (.obj members) = result := by
  constructor
  · intro h
    unfold ofJson
    cases h with
    | reply given decoded => simp only [given, decoded]
    | badId given undecoded => simp only [given, undecoded]
    | fault uncorrelated failed truthy =>
      have herror := Json.filter_isTruthy_eq_some_iff.2 ⟨failed, truthy⟩
      simp only [uncorrelated, truthy?, herror]
    | event uncorrelated sound named =>
      have herror := Json.filter_isTruthy_eq_none_iff.2 sound
      simp only [uncorrelated, truthy?, herror, named]
    | unclassified uncorrelated sound unnamed =>
      have herror := Json.filter_isTruthy_eq_none_iff.2 sound
      simp only [uncorrelated, truthy?, herror]
  · rintro rfl
    exact classified_ofJson wire members

/-- Only an object is taken for a message. -/
theorem parse_eq_ok_iff {text : String} {message : Inbound} :
    parse wire text = .ok message ↔
      ∃ members, Json.parse text = .ok (.obj members) ∧ Classified wire members (.ok message) := by
  unfold parse
  cases Json.parse text with
  | error error => simp
  | ok value =>
    cases value with
    | obj members => simp [classified_iff]
    | _ => simp [ofJson]

/-! ## Outcomes of replies -/

theorem not_falsy_of_outcomeOf {error : Json} (h : outcomeOf wire members = .error error) :
    ¬error.Falsy := by
  unfold outcomeOf at h
  split at h
  · next top htop =>
    obtain rfl := Except.error.inj h
    exact (Json.filter_isTruthy_eq_some_iff.1 htop).2
  · dsimp only at h
    split at h
    · next inner hinner =>
      obtain rfl := Except.error.inj h
      exact (Json.filter_isTruthy_eq_some_iff.1 hinner).2
    · cases h

theorem falsy_of_outcomeOf {data error : Json} (h : outcomeOf wire members = .ok data)
    (hdata : data.member? wire.errorField = some error) : error.Falsy := by
  unfold outcomeOf at h
  split at h
  · cases h
  · dsimp only at h
    split at h
    · cases h
    · next hinner =>
      obtain rfl := Except.ok.inj h
      exact Json.filter_isTruthy_eq_none_iff.1 hinner error hdata

/-- Where the names differ, the fields that are looked at are those of the whole message. -/
theorem outcomeOf_of_distinct (distinct : wire.Distinct) (members : Fields Json) :
    outcomeOf wire (Fields.erase wire.correlationField members) =
      match (Fields.lookup wire.errorField members).filter Json.isTruthy with
      | some error => .error error
      | none =>
        let data := (Fields.lookup wire.dataField members).getD .null
        match (data.member? wire.errorField).filter Json.isTruthy with
        | some error => .error error
        | none => .ok data := by
  -- Neither removal takes away a field that is looked at behind it.
  have hdata : Fields.lookup wire.dataField (Fields.erase wire.errorField
      (Fields.erase wire.correlationField members)) = Fields.lookup wire.dataField members := by
    rw [Fields.lookup_erase, if_neg distinct.data_error.symm, Fields.lookup_erase,
      if_neg distinct.correlation_data]
  have herror : Fields.lookup wire.errorField (Fields.erase wire.correlationField members) =
      Fields.lookup wire.errorField members := by
    rw [Fields.lookup_erase, if_neg distinct.correlation_error]
  cases htop : (Fields.lookup wire.errorField members).filter Json.isTruthy with
  | some error => simp [outcomeOf, truthy?, herror, htop]
  | none =>
    cases hinner : (((Fields.lookup wire.dataField members).getD .null).member?
        wire.errorField).filter Json.isTruthy with
    | some error => simp [outcomeOf, truthy?, herror, hdata, htop, hinner]
    | none => simp [outcomeOf, truthy?, herror, hdata, htop, hinner]

/-- A truthy error at the top decides the outcome, else one inside the data does, and else the data
are the result; without a data field they are null. -/
theorem outcomeOf_cases (distinct : wire.Distinct) (members : Fields Json) :
    let outcome := outcomeOf wire (Fields.erase wire.correlationField members)
    let data := (Fields.lookup wire.dataField members).getD .null
    (∃ error, Fields.lookup wire.errorField members = some error ∧ ¬error.Falsy ∧
      outcome = .error error) ∨
    ((∀ error, Fields.lookup wire.errorField members = some error → error.Falsy) ∧
      ((∃ error, data.member? wire.errorField = some error ∧ ¬error.Falsy ∧
          outcome = .error error) ∨
        ((∀ error, data.member? wire.errorField = some error → error.Falsy) ∧
          outcome = .ok data))) := by
  intro outcome data
  have houtcome : outcome = _ := outcomeOf_of_distinct distinct members
  cases htop : (Fields.lookup wire.errorField members).filter Json.isTruthy with
  | some error =>
    obtain ⟨hfailed, htruthy⟩ := Json.filter_isTruthy_eq_some_iff.1 htop
    rw [htop] at houtcome
    exact .inl ⟨error, hfailed, htruthy, houtcome⟩
  | none =>
    refine .inr ⟨Json.filter_isTruthy_eq_none_iff.1 htop, ?_⟩
    rw [htop] at houtcome
    cases hinner : (data.member? wire.errorField).filter Json.isTruthy with
    | some error =>
      obtain ⟨hfailed, htruthy⟩ := Json.filter_isTruthy_eq_some_iff.1 hinner
      exact .inl ⟨error, hfailed, htruthy, by simpa only [data, hinner] using houtcome⟩
    | none =>
      exact .inr ⟨Json.filter_isTruthy_eq_none_iff.1 hinner,
        by simpa only [data, hinner] using houtcome⟩

/-! ## The law -/

/-- The text is an object with the correlation field, and that field holds the id. -/
def Correlates (wire : WireFormat) (text : String) (id : CorrelationId) : Prop :=
  ∃ members raw, Json.parse text = .ok (.obj members) ∧
    Fields.lookup wire.correlationField members = some raw ∧ CorrelationId.decode? raw = some id

/-- The text is an object without the correlation field whose error field is truthy. -/
def Reports (wire : WireFormat) (text : String) (error : Json) : Prop :=
  ∃ members, Json.parse text = .ok (.obj members) ∧
    Fields.lookup wire.correlationField members = none ∧
    Fields.lookup wire.errorField members = some error ∧ ¬error.Falsy

/-- The text is an object, the body, with neither a correlation field nor a truthy error, whose
event field is the name. -/
def Notifies (wire : WireFormat) (text : String) (name : String) (body : Json) : Prop :=
  ∃ members, Json.parse text = .ok (.obj members) ∧
    Fields.lookup wire.correlationField members = none ∧
    (∀ error, Fields.lookup wire.errorField members = some error → error.Falsy) ∧
    Fields.lookup wire.eventField members = some (.str name) ∧ body = .obj members

theorem parse_reply_iff {text : String} {id : CorrelationId} :
    (∃ outcome, parse wire text = .ok (.reply id outcome)) ↔ Correlates wire text id := by
  simp only [parse_eq_ok_iff]
  constructor
  · rintro ⟨outcome, members, hobject, hreply⟩
    cases hreply with
    | reply given decoded => exact ⟨members, _, hobject, given, decoded⟩
  · rintro ⟨members, raw, hobject, given, decoded⟩
    exact ⟨_, members, hobject, .reply given decoded⟩

theorem parse_fault_iff {text : String} {error : Json} :
    parse wire text = .ok (.fault error) ↔ Reports wire text error := by
  rw [parse_eq_ok_iff]
  constructor
  · rintro ⟨members, hobject, hfault⟩
    cases hfault with
    | fault uncorrelated failed truthy => exact ⟨members, hobject, uncorrelated, failed, truthy⟩
  · rintro ⟨members, hobject, uncorrelated, failed, truthy⟩
    exact ⟨members, hobject, .fault uncorrelated failed truthy⟩

theorem parse_event_iff {text name : String} {body : Json} :
    parse wire text = .ok (.event name body) ↔ Notifies wire text name body := by
  rw [parse_eq_ok_iff]
  constructor
  · rintro ⟨members, hobject, hevent⟩
    cases hevent with
    | event uncorrelated sound named =>
      exact ⟨members, hobject, uncorrelated, sound, named, rfl⟩
  · rintro ⟨members, hobject, uncorrelated, sound, named, rfl⟩
    exact ⟨members, hobject, .event uncorrelated sound named⟩

/-- For every text and every wire format, whatever its names: each kind of message has exactly its
condition; a correlation field that holds no id makes the message malformed whatever else it holds,
and so is everything that meets no condition.  The error of a failed reply is truthy and a result
has no truthy error inside.  Where the correlation, data and error fields differ, the outcome of a
reply is the truthy error at its top, else the one inside its data, else the data. -/
theorem classification_exact (wire : WireFormat) (text : String) :
    (∀ id, (∃ outcome, parse wire text = .ok (.reply id outcome)) ↔ Correlates wire text id) ∧
    (∀ members raw, Json.parse text = .ok (.obj members) →
      Fields.lookup wire.correlationField members = some raw →
      CorrelationId.decode? raw = none → parse wire text = .error (.badCorrelationId raw)) ∧
    (∀ error, parse wire text = .ok (.fault error) ↔ Reports wire text error) ∧
    (∀ name body, parse wire text = .ok (.event name body) ↔ Notifies wire text name body) ∧
    ((∃ cause, parse wire text = .error cause) ↔
      (∀ id, ¬Correlates wire text id) ∧ (∀ error, ¬Reports wire text error) ∧
        ∀ name body, ¬Notifies wire text name body) ∧
    (∀ id error, parse wire text = .ok (.reply id (.error error)) → ¬error.Falsy) ∧
    (∀ id data, parse wire text = .ok (.reply id (.ok data)) →
      ∀ error, data.member? wire.errorField = some error → error.Falsy) ∧
    (wire.Distinct → ∀ members id outcome, Json.parse text = .ok (.obj members) →
      parse wire text = .ok (.reply id outcome) →
      let data := (Fields.lookup wire.dataField members).getD .null
      (∃ error, Fields.lookup wire.errorField members = some error ∧ ¬error.Falsy ∧
        outcome = .error error) ∨
      ((∀ error, Fields.lookup wire.errorField members = some error → error.Falsy) ∧
        ((∃ error, data.member? wire.errorField = some error ∧ ¬error.Falsy ∧
            outcome = .error error) ∨
          ((∀ error, data.member? wire.errorField = some error → error.Falsy) ∧
            outcome = .ok data)))) := by
  have houtcome {id : CorrelationId} {outcome : Except Json Json}
      (hreply : parse wire text = .ok (.reply id outcome)) :
      ∃ members, Json.parse text = .ok (.obj members) ∧
        outcome = outcomeOf wire (Fields.erase wire.correlationField members) := by
    obtain ⟨members, hobject, hclassified⟩ := parse_eq_ok_iff.1 hreply
    cases hclassified with
    | reply given decoded => exact ⟨members, hobject, rfl⟩
  refine ⟨fun _ => parse_reply_iff, ?_, fun _ => parse_fault_iff, fun _ _ => parse_event_iff, ?_,
    ?_, ?_, ?_⟩
  · intro members raw hobject given undecoded
    unfold parse
    rw [hobject]
    exact classified_iff.1 (.badId given undecoded)
  · simp only [← parse_reply_iff, ← parse_fault_iff, ← parse_event_iff]
    cases parse wire text with
    | error cause => simp
    | ok message => cases message <;> simp
  · intro id error hreply
    obtain ⟨members, -, herror⟩ := houtcome hreply
    exact not_falsy_of_outcomeOf herror.symm
  · intro id data hreply error hdata
    obtain ⟨members, -, hok⟩ := houtcome hreply
    exact falsy_of_outcomeOf hok.symm hdata
  · intro distinct members id outcome hobject hreply
    obtain ⟨found, hfound, rfl⟩ := houtcome hreply
    rw [hobject] at hfound
    obtain rfl := Json.obj.inj (Except.ok.inj hfound)
    exact outcomeOf_cases distinct members

/-- The error field is also the data field: what is left after a falsy error has no data. -/
example :
    parse { dataField := "error" } "\x7b\"_promise_id\":7,\"error\":0\x7d" =
      .ok (.reply ⟨7⟩ (.ok .null)) := by
  cbv

end Inbound
end HostLink
