import HostLink.Decode.Text
import HostLink.Proofs.JsonText
import HostLink.Proofs.Records
import HostLink.Proofs.Skipping

/-!
# Records from text

`Config.ofJsonText_eq_ok_iff`: a configuration decodes from exactly those texts that are written as
an object whose members, in the order written, decode into it.  `WireFormat.ofJsonText_eq_ok_iff`
says the same of a wire format for a text that is written as an object; there the reader may also
take a text that is none, because it does not look into what it ignores.

Typed decoding does not build the tree first.  It meets the members one by one and either takes a
value at its head, reads it as a tree or passes over it.  `Decode.Follows` is what each of these has
to do with the value that the grammar finds there, `Decode.readMembers_eq_ok_iff` turns it into the
fold over all members, and `Decode.Reveals` is the way back, that a member which was taken is one by
the grammar.
-/

namespace HostLink

namespace Json

/-- The text is an object with these members, as written: in this order, and with names that occur
twice. -/
def Written (text : String) (members : List (String × Json)) : Prop :=
  ∃ rest, readTree maxDepth text.toList = .ok (.obj members, rest) ∧ readEnd rest = .ok ()

/-- A text is written in one way. -/
theorem Written.unique {text : String} {members others : List (String × Json)}
    (h : Written text members) (other : Written text others) : members = others := by
  obtain ⟨rest, hread, -⟩ := h
  obtain ⟨tail, hother, -⟩ := other
  have hsame := Except.ok.inj (hread.symm.trans hother)
  exact Json.obj.inj (Prod.mk.inj hsame).1

/-- The compact text of an object has the members of the object, in any order that they have. -/
theorem written_compact {members : List (String × Json)}
    (depth : (Json.obj members).depth ≤ maxDepth) : Written (Json.obj members).compact members := by
  refine ⟨[], ?_, rfl⟩
  rw [compact, String.toList_ofList]
  exact readTree_render depth

end Json

namespace Decode

open Json (Reads skipBlank readPlain readMark)

theorem lift_eq_ok_iff {α : Type} {reader : Json.Reader α} {cs : List Char}
    {answer : α × List Char} : lift reader cs = .ok answer ↔ reader cs = .ok answer := by
  unfold lift
  cases reader cs <;> simp

theorem checked_eq_ok_iff {α : Type} {answer : Except DataError α} {value : α}
    {after rest : List Char} :
    checked answer after = .ok (value, rest) ↔ answer = .ok value ∧ rest = after := by
  unfold checked
  cases answer <;> simp [eq_comm]

theorem lift_readMark_eq_ok_iff {mark : Char} {cs rest : List Char} :
    lift (readMark mark) cs = .ok ((), rest) ↔ skipBlank cs = mark :: rest :=
  lift_eq_ok_iff.trans Json.readMark_eq_ok_iff

/-! ## Heads and scalars -/

section Heads

variable {depth : Nat} {cs after rest : List Char} {value : Json}

/-- The head of a scalar is read with it. -/
theorem readHead_plain {c : Char} {head : Head} (hskip : skipBlank cs = c :: after)
    (hlist : c ≠ '[') (hmap : c ≠ '\x7b') : readHead cs = .ok (head, rest) ↔
      ∃ tree, readPlain .strict c after = .ok (tree, rest) ∧ tree.head = head := by
  have word (value : Json) (word : List Char) :
      lift (Json.readWord value.head word) after = .ok (head, rest) ↔
        ∃ tree, Json.readWord value word after = .ok (tree, rest) ∧ tree.head = head := by
    simp only [lift_eq_ok_iff, Json.readWord_eq_ok_iff]
    constructor
    · rintro ⟨rfl, htext⟩
      exact ⟨value, ⟨rfl, htext⟩, rfl⟩
    · rintro ⟨tree, ⟨rfl, htext⟩, rfl⟩
      exact ⟨rfl, htext⟩
  unfold readHead readPlain
  simp only [hskip, hlist, hmap, if_false]
  split_ifs
  · exact word .null _
  · exact word (.bool true) _
  · exact word (.bool false) _
  · simp only [bind_eq_ok_iff, lift_eq_ok_iff]
    constructor
    · rintro ⟨⟨text, behind⟩, htext, h⟩
      obtain ⟨rfl, rfl⟩ := Prod.mk.inj (Except.ok.inj h)
      exact ⟨.str text, ⟨_, htext, rfl⟩, rfl⟩
    · rintro ⟨tree, ⟨⟨text, behind⟩, htext, h⟩, rfl⟩
      obtain ⟨rfl, rfl⟩ := Prod.mk.inj (Except.ok.inj h)
      exact ⟨_, htext, rfl⟩
  · simp only [bind_eq_ok_iff, lift_eq_ok_iff]
    constructor
    · rintro ⟨⟨number, behind⟩, hnumber, h⟩
      obtain ⟨rfl, rfl⟩ := Prod.mk.inj (Except.ok.inj h)
      exact ⟨.num number, ⟨_, hnumber, rfl⟩, rfl⟩
    · rintro ⟨tree, ⟨⟨number, behind⟩, hnumber, h⟩, rfl⟩
      obtain ⟨rfl, rfl⟩ := Prod.mk.inj (Except.ok.inj h)
      exact ⟨_, hnumber, rfl⟩
  · simp

theorem readHead_list (hskip : skipBlank cs = '[' :: after) :
    readHead cs = .ok (.list, '[' :: after) := by
  simp only [readHead, hskip]
  rfl

theorem readHead_map (hskip : skipBlank cs = '\x7b' :: after) :
    readHead cs = .ok (.map, '\x7b' :: after) := by
  simp only [readHead, hskip]
  rfl

/-- Only an opening brace has the head of an object. -/
theorem of_readHead_map (h : readHead cs = .ok (.map, rest)) :
    ∃ after, skipBlank cs = '\x7b' :: after ∧ rest = '\x7b' :: after := by
  cases hskip : skipBlank cs with
  | nil => simp [readHead, hskip] at h
  | cons c after =>
    by_cases hlist : c = '['
    · rw [readHead_list (hlist ▸ hskip)] at h
      cases h
    by_cases hmap : c = '\x7b'
    · subst hmap
      rw [readHead_map hskip] at h
      obtain ⟨-, rfl⟩ := Prod.mk.inj (Except.ok.inj h)
      exact ⟨after, rfl, rfl⟩
    obtain ⟨tree, hread, hhead⟩ := (readHead_plain hskip hlist hmap).1 h
    obtain ⟨_, hobj⟩ := Json.readPlain_scalar hread
    cases tree with
    | obj members => exact absurd rfl (hobj members)
    | _ => cases hhead

/-- A decoder that takes neither arrays nor objects. -/
structure OnScalars {α : Type} (decode : Head → Except DataError α) : Prop where
  list : ∀ a, decode .list ≠ .ok a
  map : ∀ a, decode .map ≠ .ok a

variable {α : Type} {decode : Head → Except DataError α}

theorem readScalar_eq_ok_iff (scalars : OnScalars decode)
    (h : Reads .strict depth cs (.value value) rest) {a : α} {tail : List Char} :
    readScalar decode cs = .ok (a, tail) ↔ decode value.head = .ok a ∧ tail = rest := by
  have list {after : List Char} (hskip : skipBlank cs = '[' :: after) :
      ¬readScalar decode cs = .ok (a, tail) := by
    rw [readScalar, readHead_list hskip]
    exact fun h => scalars.list a (checked_eq_ok_iff.1 h).1
  have map {after : List Char} (hskip : skipBlank cs = '\x7b' :: after) :
      ¬readScalar decode cs = .ok (a, tail) := by
    rw [readScalar, readHead_map hskip]
    exact fun h => scalars.map a (checked_eq_ok_iff.1 h).1
  cases h with
  | plain hskip hread =>
    obtain ⟨hlist, hmap⟩ := Json.readPlain_bracket hread
    rw [readScalar, (readHead_plain hskip hlist hmap).2 ⟨value, hread, rfl⟩]
    exact checked_eq_ok_iff
  | emptyList hskip _ => exact iff_of_false (list hskip) fun h => scalars.list a h.1
  | list hskip _ _ => exact iff_of_false (list hskip) fun h => scalars.list a h.1
  | emptyObject hskip _ => exact iff_of_false (map hskip) fun h => scalars.map a h.1
  | object hskip _ _ => exact iff_of_false (map hskip) fun h => scalars.map a h.1

/-- A scalar that was decoded is one by the grammar. -/
theorem exists_reads_of_readScalar (scalars : OnScalars decode) {a : α}
    (h : readScalar decode cs = .ok (a, rest)) (depth : Nat) :
    ∃ value, Reads .strict depth cs (.value value) rest := by
  obtain ⟨⟨head, behind⟩, hhead, hchecked⟩ := bind_eq_ok_iff.1 h
  obtain ⟨hdecode, rfl⟩ := checked_eq_ok_iff.1 hchecked
  cases hskip : skipBlank cs with
  | nil => simp [readHead, hskip] at hhead
  | cons c after =>
    by_cases hlist : c = '['
    · rw [readHead_list (hlist ▸ hskip)] at hhead
      obtain ⟨rfl, -⟩ := Prod.mk.inj (Except.ok.inj hhead)
      exact absurd hdecode (scalars.list a)
    by_cases hmap : c = '\x7b'
    · rw [readHead_map (hmap ▸ hskip)] at hhead
      obtain ⟨rfl, -⟩ := Prod.mk.inj (Except.ok.inj hhead)
      exact absurd hdecode (scalars.map a)
    obtain ⟨tree, hread, -⟩ := (readHead_plain hskip hlist hmap).1 hhead
    exact ⟨tree, .plain hskip hread⟩

end Heads

/-! ## Members -/

section Members

variable {σ : Type} {member : σ → String → TypedReader σ}
  {step : σ → String × Json → Except DataError σ} {depth : Nat} {cs rest : List Char}

/-- A reader of one member, from behind its name, does with the value that stands there by the
grammar what `step` does with it. -/
structure Follows (depth : Nat) (member : σ → String → TypedReader σ)
    (step : σ → String × Json → Except DataError σ) : Prop where
  taken : ∀ {state name cs valued value after}, skipBlank cs = ':' :: valued →
    Reads .strict depth valued (.value value) after → ∀ {next tail},
      member state name cs = .ok (next, tail) ↔ step state (name, value) = .ok next ∧ tail = after

/-- A reader of one member takes nothing but what is a member by the grammar. -/
structure Reveals (depth : Nat) (member : σ → String → TypedReader σ) : Prop where
  read : ∀ {state name cs next rest}, member state name cs = .ok (next, rest) →
    ∃ valued value, skipBlank cs = ':' :: valued ∧ Reads .strict depth valued (.value value) rest

/-- The rest of an object from behind one of its members. -/
def readOnward (member : σ → String → TypedReader σ) (fuel : Nat) (state : σ) : TypedReader σ :=
  fun cs =>
    match skipBlank cs with
    | [] => .error (.text .ended)
    | c :: rest =>
      if c = ',' then readMembers member fuel state rest
      else if c = '\x7d' then .ok (state, rest)
      else .error (.text .malformed)

/-- Reading goes one member on by one step. -/
theorem readMembers_member (follows : Follows depth member step)
    {opened named valued after tail : List Char} {name : String} {value : Json}
    (hquote : skipBlank cs = '"' :: opened)
    (hname : Json.Lexicon.strict.text opened = .ok (name, named))
    (hcolon : skipBlank named = ':' :: valued)
    (hvalue : Reads .strict depth valued (.value value) after) {fuel : Nat} {state next : σ} :
    readMembers member (fuel + 1) state cs = .ok (next, tail) ↔
      ∃ middle, step state (name, value) = .ok middle ∧
        readOnward member fuel middle after = .ok (next, tail) := by
  have hmark := lift_readMark_eq_ok_iff.2 hquote
  have htext := lift_eq_ok_iff.2 hname
  have hbehind : readMembers member (fuel + 1) state cs =
      member state name named >>= fun answer => readOnward member fuel answer.1 answer.2 := by
    rw [readMembers]
    simp only [hmark, htext, bind, Except.bind]
    rfl
  rw [hbehind, bind_eq_ok_iff]
  constructor
  · rintro ⟨⟨middle, behind⟩, hmember, hrest⟩
    obtain ⟨hstep, rfl⟩ := (follows.taken hcolon hvalue).1 hmember
    exact ⟨middle, hstep, hrest⟩
  · rintro ⟨middle, hstep, hrest⟩
    exact ⟨(middle, after), (follows.taken hcolon hvalue).2 ⟨hstep, rfl⟩, hrest⟩

theorem readOnward_close {fuel : Nat} {state : σ} (h : skipBlank cs = '\x7d' :: rest) :
    readOnward member fuel state cs = .ok (state, rest) := by
  rw [readOnward, h]
  rfl

theorem readOnward_comma {more : List Char} {fuel : Nat} {state : σ}
    (h : skipBlank cs = ',' :: more) :
    readOnward member fuel state cs = readMembers member fuel state more := by
  rw [readOnward, h]
  rfl

/-- Members that are there by the grammar are folded in the order written, by induction over
them. -/
theorem readMembers_eq_ok_iff (follows : Follows depth member step)
    {members : List (String × Json)} (h : Reads .strict depth cs (.members members) rest)
    {fuel : Nat} (hfuel : cs.length < fuel) {state next : σ} {tail : List Char} :
    readMembers member fuel state cs = .ok (next, tail) ↔
      members.foldlM step state = .ok next ∧ tail = rest := by
  induction members generalizing cs fuel state with
  | nil => cases h
  | cons head members ih =>
    obtain ⟨fuel, rfl⟩ : ∃ less, fuel = less + 1 := ⟨fuel - 1, by omega⟩
    rw [List.foldlM_cons, bind_eq_ok_iff]
    cases h with
    | lastMember hquote hname hcolon hvalue hclose =>
      simp only [readMembers_member follows hquote hname hcolon hvalue, readOnward_close hclose]
      constructor
      · rintro ⟨middle, hstep, hend⟩
        obtain ⟨rfl, rfl⟩ := Prod.mk.inj (Except.ok.inj hend)
        exact ⟨⟨middle, hstep, rfl⟩, rfl⟩
      · rintro ⟨⟨middle, hstep, hend⟩, rfl⟩
        obtain rfl := Except.ok.inj hend
        exact ⟨middle, hstep, rfl⟩
    | moreMembers hquote hname hcolon hvalue hcomma hmembers =>
      have hopened := Json.length_lt_of_skipBlank hquote
      have hnamed := Json.Lexicon.consumes_strict.text hname
      have hvalued := Json.length_lt_of_skipBlank hcolon
      have hlength := hvalue.length_le Json.Lexicon.consumes_strict
      have hmore := Json.length_lt_of_skipBlank hcomma
      simp only [readMembers_member follows hquote hname hcolon hvalue, readOnward_comma hcomma]
      constructor
      · rintro ⟨middle, hstep, hrest⟩
        obtain ⟨hfold, rfl⟩ := (ih hmembers (by omega)).1 hrest
        exact ⟨⟨middle, hstep, hfold⟩, rfl⟩
      · rintro ⟨⟨middle, hstep, hfold⟩, rfl⟩
        exact ⟨middle, hstep, (ih hmembers (by omega)).2 ⟨hfold, rfl⟩⟩

/-- Members that were taken are members by the grammar. -/
theorem exists_reads_of_readMembers (reveals : Reveals depth member) {fuel : Nat} {state next : σ}
    (h : readMembers member fuel state cs = .ok (next, rest)) :
    ∃ members, Reads .strict depth cs (.members members) rest := by
  induction fuel generalizing cs state with
  | zero => cases h
  | succ fuel ih =>
    obtain ⟨⟨⟨⟩, opened⟩, hquote, h⟩ := bind_eq_ok_iff.1 h
    obtain ⟨⟨name, named⟩, hname, h⟩ := bind_eq_ok_iff.1 h
    obtain ⟨⟨middle, after⟩, hmember, h⟩ := bind_eq_ok_iff.1 h
    rw [lift_readMark_eq_ok_iff] at hquote
    rw [lift_eq_ok_iff] at hname
    obtain ⟨valued, value, hcolon, hvalue⟩ := reveals.read hmember
    dsimp only at h
    split at h
    · cases h
    · next c more hafter =>
      split at h
      · next hcomma =>
        subst hcomma
        obtain ⟨members, hmembers⟩ := ih h
        exact ⟨_, .moreMembers hquote hname hcolon hvalue hafter hmembers⟩
      · split at h
        · next hclose =>
          subst hclose
          obtain ⟨-, rfl⟩ := Prod.mk.inj (Except.ok.inj h)
          exact ⟨_, .lastMember hquote hname hcolon hvalue hafter⟩
        · cases h

/-- An object that is there by the grammar is read from behind its brace as the fold over its
members. -/
theorem readObject_eq_ok_iff (follows : Follows depth member step)
    {members : List (String × Json)}
    (h : Reads .strict (depth + 1) cs (.value (.obj members)) rest) :
    ∃ after, skipBlank cs = '\x7b' :: after ∧ ∀ {state next tail},
      readObject member state after = .ok (next, tail) ↔
        members.foldlM step state = .ok next ∧ tail = rest := by
  cases h with
  | plain _ hread => exact absurd rfl ((Json.readPlain_scalar hread).2 members)
  | @emptyObject _ _ after _ hskip hclose =>
    refine ⟨after, hskip, fun {state next tail} => ?_⟩
    simp only [readObject, hclose, Except.ok.injEq, Prod.mk.injEq, List.foldlM_nil, pure,
      Except.pure, eq_comm]
  | @object _ _ after _ _ hskip hopen hmembers =>
    refine ⟨after, hskip, fun {state next tail} => ?_⟩
    have hfuel : (skipBlank after).length < Json.fuelFor (skipBlank after) := by
      unfold Json.fuelFor
      omega
    rw [← readMembers_eq_ok_iff follows hmembers hfuel]
    unfold readObject
    split
    · next hclose => exact absurd hclose (hopen _)
    · rfl

/-- An object whose members were taken is one by the grammar. -/
theorem exists_reads_of_readObject (reveals : Reveals depth member) {after : List Char}
    (hskip : skipBlank cs = '\x7b' :: after) {state next : σ}
    (h : readObject member state after = .ok (next, rest)) :
    ∃ members, Reads .strict (depth + 1) cs (.value (.obj members)) rest := by
  unfold readObject at h
  split at h
  · next hclose =>
    obtain ⟨-, rfl⟩ := Prod.mk.inj (Except.ok.inj h)
    exact ⟨[], .emptyObject hskip hclose⟩
  · next hopen =>
    obtain ⟨members, hmembers⟩ := exists_reads_of_readMembers reveals h
    exact ⟨members, .object hskip hopen hmembers⟩

end Members

/-! ## Id formats -/

section Formats

variable {depth : Nat} {cs rest : List Char} {value : Json}

theorem onScalars_toUnit : OnScalars Head.toUnit := ⟨nofun, nofun⟩

theorem onScalars_toText : OnScalars Head.toText := ⟨nofun, nofun⟩

theorem readUnit_false_eq_ok_iff :
    IdFormat.readUnit false value = .ok () ↔ value.head.toUnit = .ok () := by
  unfold IdFormat.readUnit
  split
  · simp [Json.head, Head.toUnit]
  · rfl

/-- An id format is read from what starts with neither a quote nor a brace. -/
theorem readIdFormat_of_other {c : Char} {after : List Char} (hskip : skipBlank cs = c :: after)
    (hquote : c ≠ '"') (hmap : c ≠ '\x7b') : readIdFormat cs = .error (.text .malformed) := by
  unfold readIdFormat
  simp only [hskip, hquote, hmap, if_false]

theorem readIdFormat_quote {after : List Char} (hskip : skipBlank cs = '"' :: after) :
    readIdFormat cs = (do
      let (name, rest) ← lift Json.Lexicon.strict.text after
      checked (Head.formatNamed name) rest) := by
  unfold readIdFormat
  simp only [hskip, if_true]

theorem readIdFormat_map {after : List Char} (hskip : skipBlank cs = '\x7b' :: after) :
    readIdFormat cs = (do
      let ((), rest) ← lift (readMark '"') after
      let (name, rest) ← lift Json.Lexicon.strict.text rest
      let (format, rest) ← checked (Head.formatNamed name) rest
      let ((), rest) ← lift (readMark ':') rest
      let ((), rest) ← readScalar Head.toUnit rest
      let ((), rest) ← lift (readMark '\x7d') rest
      .ok (format, rest)) := by
  unfold readIdFormat
  simp only [hskip, Char.reduceEq, if_false, if_true]

/-- What an object in the place of an id format must have come to, where its first member is known:
the member is its last one, is null and has the name of the format. -/
theorem readIdFormat_member_eq_ok_iff {after opened named valued behind : List Char} {name : String}
    (hskip : skipBlank cs = '\x7b' :: after) (hquote : skipBlank after = '"' :: opened)
    (hname : Json.Lexicon.strict.text opened = .ok (name, named))
    (hcolon : skipBlank named = ':' :: valued)
    (hvalue : Reads .strict depth valued (.value value) behind) {format : IdFormat} :
    readIdFormat cs = .ok (format, rest) ↔
      Head.formatNamed name = .ok format ∧ value.head.toUnit = .ok () ∧
        skipBlank behind = '\x7d' :: rest := by
  rw [readIdFormat_map hskip]
  constructor
  · intro h
    obtain ⟨⟨⟨⟩, _⟩, hmark, h⟩ := bind_eq_ok_iff.1 h
    obtain rfl := (List.cons.inj (hquote.symm.trans (lift_readMark_eq_ok_iff.1 hmark))).2
    obtain ⟨_, htext, h⟩ := bind_eq_ok_iff.1 h
    obtain rfl := Except.ok.inj (hname.symm.trans (lift_eq_ok_iff.1 htext))
    obtain ⟨⟨found, _⟩, hchecked, hrest⟩ := bind_eq_ok_iff.1 h
    obtain ⟨hformat, rfl⟩ := checked_eq_ok_iff.1 hchecked
    obtain ⟨⟨⟨⟩, _⟩, hmark, hrest⟩ := bind_eq_ok_iff.1 hrest
    obtain rfl := (List.cons.inj (hcolon.symm.trans (lift_readMark_eq_ok_iff.1 hmark))).2
    obtain ⟨⟨⟨⟩, _⟩, hscalar, hend⟩ := bind_eq_ok_iff.1 hrest
    obtain ⟨hunit, rfl⟩ := (readScalar_eq_ok_iff onScalars_toUnit hvalue).1 hscalar
    obtain ⟨⟨⟨⟩, _⟩, hclose, hlast⟩ := bind_eq_ok_iff.1 hend
    obtain ⟨rfl, rfl⟩ := Prod.mk.inj (Except.ok.inj hlast)
    exact ⟨hformat, hunit, lift_readMark_eq_ok_iff.1 hclose⟩
  · rintro ⟨hformat, hunit, hclose⟩
    refine bind_eq_ok_iff.2 ⟨_, lift_readMark_eq_ok_iff.2 hquote, ?_⟩
    refine bind_eq_ok_iff.2 ⟨_, lift_eq_ok_iff.2 hname, ?_⟩
    refine bind_eq_ok_iff.2 ⟨_, checked_eq_ok_iff.2 ⟨hformat, rfl⟩, ?_⟩
    refine bind_eq_ok_iff.2 ⟨_, lift_readMark_eq_ok_iff.2 hcolon, ?_⟩
    refine bind_eq_ok_iff.2 ⟨_, (readScalar_eq_ok_iff onScalars_toUnit hvalue).2 ⟨hunit, rfl⟩, ?_⟩
    exact bind_eq_ok_iff.2 ⟨_, lift_readMark_eq_ok_iff.2 hclose, rfl⟩

/-- An id format is taken from text as from the value that stands there. -/
theorem readIdFormat_eq_ok_iff (h : Reads .strict depth cs (.value value) rest)
    {format : IdFormat} {tail : List Char} :
    readIdFormat cs = .ok (format, tail) ↔
      IdFormat.ofJson false value = .ok format ∧ tail = rest := by
  cases h with
  | @plain _ _ c after _ _ hskip hread =>
    obtain ⟨-, hmap⟩ := Json.readPlain_bracket hread
    by_cases hquote : c = '"'
    · subst hquote
      obtain ⟨⟨name, behind⟩, hname, h⟩ := bind_eq_ok_iff.1 hread
      obtain ⟨rfl, rfl⟩ := Prod.mk.inj (Except.ok.inj h)
      rw [readIdFormat_quote hskip, lift_eq_ok_iff.2 hname]
      exact checked_eq_ok_iff
    · rw [readIdFormat_of_other hskip hquote hmap]
      refine iff_of_false nofun fun h => ?_
      have hobj := (Json.readPlain_scalar hread).2
      exact Json.readPlain_of_ne_quote hquote hread _ ((IdFormat.ofJson_eq_ok_iff hobj).1 h.1)
  | @emptyList _ _ after _ hskip _ =>
    rw [readIdFormat_of_other hskip (by decide) (by decide)]
    simp [IdFormat.ofJson]
  | @list _ _ after _ _ hskip _ _ =>
    rw [readIdFormat_of_other hskip (by decide) (by decide)]
    simp [IdFormat.ofJson]
  | @emptyObject _ _ after _ hskip hclose =>
    have hmark : ∀ opened, lift (readMark '"') after ≠ .ok ((), opened) := by
      intro opened h
      rw [lift_readMark_eq_ok_iff, hclose] at h
      exact absurd (List.cons.inj h).1 (by decide)
    rw [readIdFormat_map hskip]
    refine iff_of_false (fun h => ?_) (fun h => by simp [IdFormat.ofJson] at h)
    obtain ⟨⟨⟨⟩, opened⟩, hopened, -⟩ := bind_eq_ok_iff.1 h
    exact hmark opened hopened
  | object hskip _ hmembers =>
    cases hmembers with
    | lastMember hquote hname hcolon hvalue hclose =>
      rw [Json.skipBlank_skipBlank] at hquote
      rw [readIdFormat_member_eq_ok_iff hskip hquote hname hcolon hvalue, hclose]
      simp only [IdFormat.ofJson, bind_eq_ok_iff, List.cons.injEq, true_and]
      constructor
      · rintro ⟨hformat, hunit, rfl⟩
        exact ⟨⟨format, hformat, (), readUnit_false_eq_ok_iff.2 hunit, rfl⟩, rfl⟩
      · rintro ⟨⟨found, hformat, ⟨⟩, hunit, hsame⟩, rfl⟩
        obtain rfl := Except.ok.inj hsame
        exact ⟨hformat, readUnit_false_eq_ok_iff.1 hunit, rfl⟩
    | moreMembers hquote hname hcolon hvalue hcomma hmembers =>
      rw [Json.skipBlank_skipBlank] at hquote
      rw [readIdFormat_member_eq_ok_iff hskip hquote hname hcolon hvalue, hcomma]
      refine iff_of_false (fun h => ?_) (fun h => ?_)
      · exact absurd (List.cons.inj h.2.2).1 (by decide)
      · cases hmembers <;> cases h.1

end Formats

/-! ## Records -/

section Records

variable {depth : Nat} {cs rest tail : List Char} {members : List (String × Json)}

theorem readWireValue_eq_ok_iff {value : Json} (h : Reads .strict depth cs (.value value) rest)
    {draft next : WireFormat.Draft} {key : WireFormat.Key} :
    readWireValue draft key cs = .ok (next, tail) ↔
      draft.addValue false key value = .ok next ∧ tail = rest := by
  cases key with
  | slot place =>
    simp only [readWireValue, WireFormat.Draft.addValue, bind_eq_ok_iff, map_eq_ok_iff]
    constructor
    · rintro ⟨⟨name, behind⟩, hname, hend⟩
      obtain ⟨htext, rfl⟩ := (readScalar_eq_ok_iff onScalars_toText h).1 hname
      obtain ⟨rfl, rfl⟩ := Prod.mk.inj (Except.ok.inj hend)
      exact ⟨⟨name, htext, rfl⟩, rfl⟩
    · rintro ⟨⟨name, htext, rfl⟩, rfl⟩
      exact ⟨_, (readScalar_eq_ok_iff onScalars_toText h).2 ⟨htext, rfl⟩, rfl⟩
  | idFormat =>
    simp only [readWireValue, WireFormat.Draft.addValue, bind_eq_ok_iff, map_eq_ok_iff]
    constructor
    · rintro ⟨⟨format, behind⟩, hread, hend⟩
      obtain ⟨hformat, rfl⟩ := (readIdFormat_eq_ok_iff h).1 hread
      obtain ⟨rfl, rfl⟩ := Prod.mk.inj (Except.ok.inj hend)
      exact ⟨⟨format, hformat, rfl⟩, rfl⟩
    · rintro ⟨⟨format, hformat, rfl⟩, rfl⟩
      exact ⟨_, (readIdFormat_eq_ok_iff h).2 ⟨hformat, rfl⟩, rfl⟩

theorem follows_readWireMember (depth : Nat) :
    Follows depth readWireMember (WireFormat.Draft.addMember false) where
  taken := by
    intro draft name cs valued value after hcolon hvalue next tail
    have hmark := lift_readMark_eq_ok_iff.2 hcolon
    unfold readWireMember WireFormat.Draft.addMember
    cases WireFormat.Key.ofName? name with
    | none =>
      have hskip := lift_eq_ok_iff.2 hvalue.skipValue
      simp [hmark, hskip, bind, Except.bind, eq_comm]
    | some key =>
      by_cases hheld : draft.holds key = true
      · simp [hheld]
      · simp only [hheld, Bool.false_eq_true, if_false, hmark, bind, Except.bind]
        exact readWireValue_eq_ok_iff hvalue

theorem onScalars_addHead (draft : Config.Draft) (key : Config.Key) :
    OnScalars (draft.addHead key) := by
  have refused {found : Head} (hlist : found = .list ∨ found = .map) (after : Config.Draft) :
      draft.addHead key found ≠ .ok after := by
    intro h
    obtain rfl | rfl := hlist <;> cases key <;> cases h
  exact ⟨refused (.inl rfl), refused (.inr rfl)⟩

theorem follows_readConfigMember :
    Follows (Json.maxDepth - 1) readConfigMember Config.Draft.addMember where
  taken := by
    intro draft name cs valued value after hcolon hvalue next tail
    have hmark := lift_readMark_eq_ok_iff.2 hcolon
    unfold readConfigMember Config.Draft.addMember
    cases Config.Key.ofName? name with
    | none =>
      have htree := lift_eq_ok_iff.2 (Json.readTree_eq_ok_iff.2 hvalue)
      simp [hmark, htree, bind, Except.bind, eq_comm]
    | some key =>
      by_cases hheld : draft.holds key = true
      · simp [hheld]
      · simp only [hheld, Bool.false_eq_true, if_false, hmark, bind, Except.bind]
        exact readScalar_eq_ok_iff (onScalars_addHead draft key) hvalue

theorem reveals_readConfigMember : Reveals (Json.maxDepth - 1) readConfigMember where
  read := by
    intro draft name cs next rest h
    unfold readConfigMember at h
    split at h
    · obtain ⟨⟨⟨⟩, valued⟩, hmark, hvalue⟩ := bind_eq_ok_iff.1 h
      obtain ⟨⟨value, behind⟩, htree, hend⟩ := bind_eq_ok_iff.1 hvalue
      obtain ⟨-, rfl⟩ := Prod.mk.inj (Except.ok.inj hend)
      exact ⟨valued, value, lift_readMark_eq_ok_iff.1 hmark,
        Json.readTree_eq_ok_iff.1 (lift_eq_ok_iff.1 htree)⟩
    · next key _ =>
      split at h
      · cases h
      · obtain ⟨⟨⟨⟩, valued⟩, hmark, hscalar⟩ := bind_eq_ok_iff.1 h
        obtain ⟨value, hvalue⟩ := exists_reads_of_readScalar (onScalars_addHead draft key) hscalar
          (Json.maxDepth - 1)
        exact ⟨valued, value, lift_readMark_eq_ok_iff.1 hmark, hvalue⟩

theorem readWireFormat_map {after : List Char} (hskip : skipBlank cs = '\x7b' :: after) :
    readWireFormat cs = (do
      let (draft, rest) ← readObject readWireMember {} after
      .ok (draft.finish, rest)) := by
  rw [readWireFormat, readHead_map hskip]
  rfl

theorem readConfig_map {after : List Char} (hskip : skipBlank cs = '\x7b' :: after) :
    readConfig cs = (do
      let (draft, rest) ← readObject readConfigMember {} after
      checked draft.finish rest) := by
  rw [readConfig, readHead_map hskip]
  rfl

/-- A wire format is taken from the text of an object as from the object. -/
theorem readWireFormat_eq_ok_iff (h : Reads .strict (depth + 1) cs (.value (.obj members)) rest)
    {wire : WireFormat} :
    readWireFormat cs = .ok (wire, tail) ↔
      WireFormat.ofJson (.obj members) = .ok wire ∧ tail = rest := by
  obtain ⟨after, hskip, hobject⟩ := readObject_eq_ok_iff (follows_readWireMember depth) h
  simp only [readWireFormat_map hskip, bind_eq_ok_iff, WireFormat.ofJson,
    WireFormat.Draft.addMembers, map_eq_ok_iff]
  constructor
  · rintro ⟨⟨draft, behind⟩, hread, hend⟩
    obtain ⟨hfold, rfl⟩ := hobject.1 hread
    obtain ⟨rfl, rfl⟩ := Prod.mk.inj (Except.ok.inj hend)
    exact ⟨⟨draft, hfold, rfl⟩, rfl⟩
  · rintro ⟨⟨draft, hfold, rfl⟩, rfl⟩
    exact ⟨_, hobject.2 ⟨hfold, rfl⟩, rfl⟩

/-- A configuration is taken from the text of an object as from its members. -/
theorem readConfig_eq_ok_iff (h : Reads .strict Json.maxDepth cs (.value (.obj members)) rest)
    {config : Config} :
    readConfig cs = .ok (config, tail) ↔ Config.ofMembers members = .ok config ∧ tail = rest := by
  obtain ⟨after, hskip, hobject⟩ := readObject_eq_ok_iff follows_readConfigMember h
  simp only [readConfig_map hskip, bind_eq_ok_iff, Config.ofMembers]
  constructor
  · rintro ⟨⟨draft, behind⟩, hread, hend⟩
    obtain ⟨hfold, rfl⟩ := hobject.1 hread
    obtain ⟨hfinish, rfl⟩ := checked_eq_ok_iff.1 hend
    exact ⟨⟨draft, hfold, hfinish⟩, rfl⟩
  · rintro ⟨⟨draft, hfold, hfinish⟩, rfl⟩
    exact ⟨_, hobject.2 ⟨hfold, rfl⟩, checked_eq_ok_iff.2 ⟨hfinish, rfl⟩⟩

/-- A text that a configuration was taken from starts with an object. -/
theorem exists_reads_of_readConfig {config : Config} (h : readConfig cs = .ok (config, rest)) :
    ∃ members, Reads .strict Json.maxDepth cs (.value (.obj members)) rest := by
  obtain ⟨⟨head, behind⟩, hhead, hmatch⟩ := bind_eq_ok_iff.1 h
  have hmap : head = .map := by
    dsimp only at hmatch
    split at hmatch
    · rfl
    · cases hmatch
  subst hmap
  obtain ⟨after, hskip, -⟩ := of_readHead_map hhead
  rw [readConfig_map hskip] at h
  obtain ⟨⟨draft, tail⟩, hobject, hchecked⟩ := bind_eq_ok_iff.1 h
  obtain ⟨-, rfl⟩ := checked_eq_ok_iff.1 hchecked
  exact exists_reads_of_readObject reveals_readConfigMember hskip hobject

theorem ofText_eq_ok_iff {α : Type} {reader : TypedReader α} {text : String} {value : α} :
    ofText reader text = .ok value ↔
      ∃ rest, reader text.toList = .ok (value, rest) ∧ Json.readEnd rest = .ok () := by
  rw [ofText, bind_eq_ok_iff]
  constructor
  · rintro ⟨⟨found, rest⟩, hread, hend⟩
    dsimp only at hend
    split at hend
    · next hblank =>
      obtain rfl := Except.ok.inj hend
      exact ⟨rest, hread, hblank⟩
    · cases hend
  · rintro ⟨rest, hread, hend⟩
    refine ⟨_, hread, ?_⟩
    simp only [hend]

end Records
end Decode

/-! ## Whole texts -/

/-- A text that is written as an object decodes into a wire format as its members do. -/
theorem WireFormat.ofJsonText_eq_ok_iff {text : String} {members : List (String × Json)}
    (written : Json.Written text members) {wire : WireFormat} :
    WireFormat.ofJsonText text = .ok wire ↔ WireFormat.ofJson (.obj members) = .ok wire := by
  obtain ⟨rest, hread, hend⟩ := written
  have hreads : Json.Reads .strict (126 + 1) text.toList (.value (.obj members)) rest :=
    Json.readTree_eq_ok_iff.1 hread
  rw [WireFormat.ofJsonText, Decode.ofText_eq_ok_iff]
  constructor
  · rintro ⟨tail, hwire, -⟩
    exact ((Decode.readWireFormat_eq_ok_iff hreads).1 hwire).1
  · intro h
    exact ⟨rest, (Decode.readWireFormat_eq_ok_iff hreads).2 ⟨h, rfl⟩, hend⟩

/-- A configuration decodes from exactly those texts that are written as an object whose members
decode into it. -/
theorem Config.ofJsonText_eq_ok_iff {text : String} {config : Config} :
    Config.ofJsonText text = .ok config ↔
      ∃ members, Json.Written text members ∧ Config.ofMembers members = .ok config := by
  rw [Config.ofJsonText, Decode.ofText_eq_ok_iff]
  constructor
  · rintro ⟨rest, hconfig, hend⟩
    obtain ⟨members, hreads⟩ := Decode.exists_reads_of_readConfig hconfig
    exact ⟨members, ⟨rest, Json.readTree_eq_ok_iff.2 hreads, hend⟩,
      ((Decode.readConfig_eq_ok_iff hreads).1 hconfig).1⟩
  · rintro ⟨members, ⟨rest, hread, hend⟩, h⟩
    exact ⟨rest, (Decode.readConfig_eq_ok_iff (Json.readTree_eq_ok_iff.1 hread)).2 ⟨h, rfl⟩, hend⟩

end HostLink
