import HostLink.Decode.Text
import HostLink.Proofs.Envelopes
import Mathlib.Data.List.DropRight

/-!
# The forms of a correlation id

An id comes in by two decoders.  A message is looked at for an id, which is there or not; a payload,
or a text of its own, is decoded as an id and fails with a reason.  The two must take the same
values for the same ids, or a reply would settle the wrong request on one of the ways.

`CorrelationId.decoders_agree` holds both against one description, `CorrelationId.Means`: a value
means an id if it is that integer, or a text that spells it.  What a text spells is a matter of its
characters alone (`Spells`): white space around an optional plus sign and at least one digit,
however many zeros stand in front.  Nothing is said there about reading, which goes from left to
right and gives up at the first digit that leaves the 64-bit range.
-/

namespace HostLink

/-! ## Numbers in characters -/

/-- The characters are all white space. -/
def AllBlank (cs : List Char) : Prop := ∀ c ∈ cs, isBlank c = true

/-- The characters are at most one plus sign and at least one digit, and the digits have the value
`n`. -/
def IsNumeral (cs : List Char) (n : Nat) : Prop :=
  ∃ sign digits, cs = sign ++ digits ∧ (sign = [] ∨ sign = ['+']) ∧ digits ≠ [] ∧
    Json.AllDigits digits ∧ Nat.ofDigitChars 10 digits 0 = n

/-- The characters spell the number `n`, with white space around its numeral. -/
def Spells (cs : List Char) (n : Nat) : Prop :=
  ∃ before numeral after, cs = before ++ numeral ++ after ∧ AllBlank before ∧ AllBlank after ∧
    IsNumeral numeral n

/-! ## Reading a numeral -/

theorem readDigitsFrom_eq_ok_iff {n : Nat} (hn : n < 18446744073709551616) (cs : List Char)
    (m : Nat) : readDigitsFrom n cs = .ok m ↔
      Json.AllDigits cs ∧ Nat.ofDigitChars 10 cs n = m ∧ m < 18446744073709551616 := by
  constructor
  · intro hread
    induction cs generalizing n with
    | nil =>
      obtain rfl : n = m := by simpa [readDigitsFrom] using hread
      exact ⟨by simp [Json.AllDigits], rfl, hn⟩
    | cons c rest ih =>
      simp only [readDigitsFrom] at hread
      split_ifs at hread with hdigit hnext
      obtain ⟨hrest, hvalue, hm⟩ := ih hnext hread
      refine ⟨?_, ?_, hm⟩
      · intro other hmem
        rcases List.mem_cons.1 hmem with rfl | hmem
        · exact hdigit
        · exact hrest other hmem
      · rw [Nat.ofDigitChars_cons]
        exact hvalue
  · rintro ⟨hdigits, rfl, hm⟩
    exact readDigitsFrom_of_lt hdigits hm

theorem readNatural_signed {digits : List Char} (hne : digits ≠ []) :
    readNatural ('+' :: digits) = (readDigitsFrom 0 digits).map UInt64.ofNat := by
  cases digits with
  | nil => exact absurd rfl hne
  | cons c rest => rfl

theorem readNatural_unsigned {c : Char} (hplus : c ≠ '+') (rest : List Char) :
    readNatural (c :: rest) = (readDigitsFrom 0 (c :: rest)).map UInt64.ofNat := by
  unfold readNatural
  split <;> simp_all

theorem map_readDigitsFrom_eq_ok_iff (digits : List Char) (word : UInt64) :
    (readDigitsFrom 0 digits).map UInt64.ofNat = .ok word ↔
      Json.AllDigits digits ∧ Nat.ofDigitChars 10 digits 0 = word.toNat := by
  constructor
  · intro hread
    cases hvalue : readDigitsFrom 0 digits with
    | error e => simp [hvalue, Except.map] at hread
    | ok m =>
      obtain ⟨hall, hm, hlt⟩ := (readDigitsFrom_eq_ok_iff (by decide) digits m).1 hvalue
      have hcast : UInt64.ofNat m = word := by simpa [hvalue, Except.map] using hread
      refine ⟨hall, hm.trans ?_⟩
      rw [← hcast, UInt64.toNat_ofNat_of_lt' hlt]
  · rintro ⟨hall, hm⟩
    rw [(readDigitsFrom_eq_ok_iff (by decide) digits word.toNat).2 ⟨hall, hm, word.toNat_lt⟩]
    simp [Except.map]

/-- Reading gives a word exactly if the characters are a numeral of its value. -/
theorem readNatural_eq_ok_iff (cs : List Char) (word : UInt64) :
    readNatural cs = .ok word ↔ IsNumeral cs word.toNat := by
  constructor
  · intro hread
    cases cs with
    | nil => simp [readNatural] at hread
    | cons c rest =>
      by_cases hplus : c = '+'
      · subst hplus
        by_cases hne : rest = []
        · subst hne
          simp [readNatural] at hread
        · rw [readNatural_signed hne, map_readDigitsFrom_eq_ok_iff] at hread
          exact ⟨['+'], rest, rfl, .inr rfl, hne, hread⟩
      · rw [readNatural_unsigned hplus, map_readDigitsFrom_eq_ok_iff] at hread
        exact ⟨[], c :: rest, rfl, .inl rfl, by simp, hread⟩
  · rintro ⟨sign, digits, rfl, rfl | rfl, hne, hdigits⟩
    · cases digits with
      | nil => exact absurd rfl hne
      | cons c rest =>
        -- A digit is no plus sign.
        have hplus : c ≠ '+' := by
          rintro rfl
          exact absurd (hdigits.1 '+' List.mem_cons_self) (by decide)
        rw [List.nil_append, readNatural_unsigned hplus]
        exact (map_readDigitsFrom_eq_ok_iff _ _).2 hdigits
    · rw [List.singleton_append, readNatural_signed hne]
      exact (map_readDigitsFrom_eq_ok_iff _ _).2 hdigits

/-! ## White space around it -/

/-- Only white space is trimmed. -/
theorem exists_trimBlank (cs : List Char) :
    ∃ before after, cs = before ++ trimBlank cs ++ after ∧ AllBlank before ∧ AllBlank after := by
  refine ⟨cs.takeWhile isBlank, (cs.dropWhile isBlank).rtakeWhile isBlank, ?_, ?_, ?_⟩
  · have hback : trimBlank cs ++ (cs.dropWhile isBlank).rtakeWhile isBlank =
        cs.dropWhile isBlank := List.rdropWhile_append_rtakeWhile
    rw [List.append_assoc, hback, List.takeWhile_append_dropWhile]
  · intro c hc
    exact List.mem_takeWhile_imp hc
  · intro c hc
    exact List.mem_rtakeWhile_imp hc

theorem dropWhile_isBlank_append {front core : List Char} (hfront : AllBlank front)
    (hcore : ∀ c ∈ core, isBlank c = false) (hne : core ≠ []) (rest : List Char) :
    (front ++ (core ++ rest)).dropWhile isBlank = core ++ rest := by
  rw [List.dropWhile_append_of_pos hfront]
  cases core with
  | nil => exact absurd rfl hne
  | cons c core => exact List.dropWhile_cons_of_neg (by simp [hcore c])

/-- White space around characters of which none is blank is all that is trimmed. -/
theorem trimBlank_append {before core after : List Char} (hbefore : AllBlank before)
    (hcore : ∀ c ∈ core, isBlank c = false) (hne : core ≠ []) (hafter : AllBlank after) :
    trimBlank (before ++ core ++ after) = core := by
  have hback : (after.reverse ++ (core.reverse ++ [])).dropWhile isBlank = core.reverse ++ [] := by
    apply dropWhile_isBlank_append
    · intro c hc
      exact hafter c (List.mem_reverse.1 hc)
    · intro c hc
      exact hcore c (List.mem_reverse.1 hc)
    · simpa using hne
  unfold trimBlank
  rw [List.append_nil] at hback
  rw [List.append_assoc, dropWhile_isBlank_append hbefore hcore hne, List.reverse_append, hback,
    List.reverse_reverse]

theorem IsNumeral.not_blank {cs : List Char} {n : Nat} (h : IsNumeral cs n) :
    cs ≠ [] ∧ ∀ c ∈ cs, isBlank c = false := by
  obtain ⟨sign, digits, rfl, hsign, hne, hdigits, -⟩ := h
  refine ⟨by simp [hne], ?_⟩
  intro c hc
  rcases List.mem_append.1 hc with hc | hc
  · rcases hsign with rfl | rfl
    · simp at hc
    · rw [List.mem_singleton.1 hc]
      decide
  · exact isBlank_of_isDigit (hdigits c hc)

namespace CorrelationId

/-- A text holds an id exactly if its characters spell it. -/
theorem ofText_eq_ok_iff (s : String) (id : CorrelationId) :
    ofText s = .ok id ↔ Spells s.toList id.value.toNat := by
  have hread : ofText s = .ok id ↔ readNatural (trimBlank s.toList) = .ok id.value := by
    unfold ofText
    cases readNatural (trimBlank s.toList) with
    | error e => simp [Except.map]
    | ok word =>
      obtain ⟨value⟩ := id
      simp [Except.map]
  rw [hread, readNatural_eq_ok_iff]
  constructor
  · intro hnumeral
    obtain ⟨before, after, hcs, hbefore, hafter⟩ := exists_trimBlank s.toList
    exact ⟨before, trimBlank s.toList, after, hcs, hbefore, hafter, hnumeral⟩
  · rintro ⟨before, numeral, after, hcs, hbefore, hafter, hnumeral⟩
    obtain ⟨hne, hcore⟩ := hnumeral.not_blank
    rw [hcs, trimBlank_append hbefore hcore hne hafter]
    exact hnumeral

/-! ## What a value means -/

/-- A value means an id if it is that integer or a text that spells it. -/
inductive Means : Json → CorrelationId → Prop where
  | integer {z : Int} (inRange : -9223372036854775808 ≤ z ∧ z < 18446744073709551616)
      {id : CorrelationId} (value : z = id.value.toNat) : Means (.num (.int z inRange)) id
  | text {s : String} {id : CorrelationId} (spelled : Spells s.toList id.value.toNat) :
      Means (.str s) id

/-- The first decoder is the second without its reasons. -/
theorem decode?_eq_toOption (value : Json) :
    decode? value = value.head.toCorrelationId.toOption := by
  cases value with
  | num n =>
    cases n with
    | int z inRange =>
      by_cases hz : 0 ≤ z <;>
        simp [decode?, Number.toUInt64?, Json.head, Head.toCorrelationId, hz, Except.toOption]
    | float x => rfl
  | str s =>
    simp only [decode?, Json.head, Head.toCorrelationId]
    cases ofText s <;> rfl
  | _ => rfl

theorem toCorrelationId_eq_ok_iff (value : Json) (id : CorrelationId) :
    value.head.toCorrelationId = .ok id ↔ Means value id := by
  constructor
  · intro hdecode
    cases value with
    | num n =>
      cases n with
      | int z inRange =>
        simp only [Json.head, Head.toCorrelationId] at hdecode
        split_ifs at hdecode with hz
        obtain rfl := Except.ok.inj hdecode
        refine .integer inRange ?_
        have hlt : z.toNat < UInt64.size := by
          simp only [UInt64.size]
          omega
        rw [UInt64.toNat_ofNat_of_lt' hlt]
        omega
      | float x => simp [Json.head, Head.toCorrelationId] at hdecode
    | str s =>
      refine .text ((ofText_eq_ok_iff s id).1 ?_)
      simp only [Json.head, Head.toCorrelationId] at hdecode
      cases htext : ofText s <;> simp_all
    | _ => simp [Json.head, Head.toCorrelationId] at hdecode
  · rintro (⟨inRange, value⟩ | spelled)
    · rename_i z
      have hz : 0 ≤ z := by omega
      have hword : UInt64.ofNat z.toNat = id.value := by
        rw [show z.toNat = id.value.toNat by omega, UInt64.ofNat_toNat]
      simp [Json.head, Head.toCorrelationId, hz, hword]
    · simp [Json.head, Head.toCorrelationId, (ofText_eq_ok_iff _ id).2 spelled]

end CorrelationId

/-! ## Scalars in text -/

/-- The head of the compact text of a value is the head of the value; behind a scalar nothing is
left. -/
theorem readHead_render (value : Json) :
    ∃ rest, Decode.readHead value.render = .ok (value.head, rest) ∧
      (value.head = .list ∨ value.head = .map ∨ rest = []) := by
  cases value with
  | null => exact ⟨[], by rfl, by simp⟩
  | bool b => cases b <;> exact ⟨[], by rfl, by simp⟩
  | num n =>
    obtain ⟨c, tail, hrender, hhead⟩ := Json.head_renderNumber n
    obtain ⟨hblank, -, hn, ht, hf, hquote⟩ := Json.plain_of_digit hhead
    have hread := Json.readNumber_render n Json.endsNumber_nil
    rw [List.append_nil, hrender] at hread
    have hskip : Json.skipBlank (c :: tail) = c :: tail :=
      List.dropWhile_cons_of_neg (by simp [hblank])
    refine ⟨[], ?_, by simp⟩
    rw [Json.render, hrender, Decode.readHead, hskip]
    simp only [hn, ht, hf, hquote, hhead, if_false, if_true, Decode.lift, hread, bind, Except.bind]
    rfl
  | str s =>
    have hread := Json.readText_renderText s []
    have hskip (cs : List Char) : Json.skipBlank ('"' :: cs) = '"' :: cs :=
      List.dropWhile_cons_of_neg (by decide)
    refine ⟨[], ?_, by simp⟩
    simp [Json.render, Json.renderText, Decode.readHead, hskip, Decode.lift, hread, bind,
      Except.bind, Json.head]
  | arr items => exact ⟨_, by rfl, by simp [Json.head]⟩
  | obj members => exact ⟨_, by rfl, by simp [Json.head]⟩

/-- A scalar is decoded from the compact text of a value as from the value, and refused for the same
reason. -/
theorem ofText_readScalar_compact {α : Type} {decode : Head → Except DataError α}
    (hlist : ∃ e, decode .list = .error e) (hmap : ∃ e, decode .map = .error e) (value : Json) :
    Decode.ofText (Decode.readScalar decode) value.compact =
      (decode value.head).mapError .shape := by
  obtain ⟨rest, hhead, hrest⟩ := readHead_render value
  have hread : Decode.readScalar decode value.render = Decode.checked (decode value.head) rest := by
    simp only [Decode.readScalar, hhead, bind, Except.bind]
  simp only [Decode.ofText, Json.compact, String.toList_ofList, hread]
  rcases hrest with hlisted | hmapped | rfl
  · obtain ⟨e, he⟩ := hlist
    simp [hlisted, he, Decode.checked, Except.mapError, bind, Except.bind]
  · obtain ⟨e, he⟩ := hmap
    simp [hmapped, he, Decode.checked, Except.mapError, bind, Except.bind]
  · have hend : Json.readEnd [] = .ok () := by rfl
    cases hvalue : decode value.head <;>
      simp [Decode.checked, hend, Except.mapError, bind, Except.bind]

/-! ## The law -/

namespace CorrelationId

/-- Both decoders take a value for an id exactly if it means that id, so they agree, and reading the
text of a value makes no difference.  Both undo either encoding, and the form of an id outside of
messages, which is also that of its text. -/
theorem decoders_agree :
    (∀ value id, decode? value = some id ↔ value.head.toCorrelationId = .ok id) ∧
    (∀ value id, decode? value = some id ↔ Means value id) ∧
    (∀ value : Json, ofJsonText value.compact = value.head.toCorrelationId.mapError .shape) ∧
    (∀ (id : CorrelationId) (format : IdFormat), decode? (id.encode format) = some id ∧
      (id.encode format).head.toCorrelationId = .ok id) ∧
    ∀ id : CorrelationId, decode? id.toJson = some id ∧ id.toJson.head.toCorrelationId = .ok id ∧
      ofJsonText id.toJson.compact = .ok id := by
  have agree (value : Json) (id : CorrelationId) :
      decode? value = some id ↔ value.head.toCorrelationId = .ok id := by
    rw [decode?_eq_toOption]
    cases value.head.toCorrelationId <;> simp [Except.toOption]
  have text (value : Json) :
      ofJsonText value.compact = value.head.toCorrelationId.mapError .shape :=
    ofText_readScalar_compact ⟨_, rfl⟩ ⟨_, rfl⟩ value
  have number (id : CorrelationId) : id.toJson.head.toCorrelationId = .ok id :=
    (agree _ _).1 (decode?_encode .number id)
  refine ⟨agree, ?_, text, ?_, ?_⟩
  · intro value id
    rw [agree, toCorrelationId_eq_ok_iff]
  · intro id format
    exact ⟨decode?_encode format id, (agree _ _).1 (decode?_encode format id)⟩
  · intro id
    refine ⟨decode?_encode .number id, number id, ?_⟩
    rw [text, number]
    rfl

/-- Zeros in front do not count towards the range, a second sign is none, and the float of an id is
not the id. -/
example :
    decode? (.str "\u3000+00018446744073709551615\n") = some ⟨18446744073709551615⟩ ∧
      decode? (.str "18446744073709551616") = none ∧ decode? (.str "++7") = none ∧
      decode? (.str " + 7") = none ∧ decode? (.num (.float (.zero false))) = none := by
  decide +kernel

end CorrelationId
end HostLink
