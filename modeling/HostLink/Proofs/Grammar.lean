import Mathlib.Tactic.SplitIfs
import HostLink.Json.Parser

/-!
# What the readers read

`Json.Reads words depth cs phrase rest` is the grammar of JSON text as a relation: the text `cs`
starts with `phrase`, nested no deeper than `depth`, and `rest` follows.  It has one constructor for
each thing that the readers can find and knows nothing of fuel.  `Reads.run` and `reads_of_readBy`
say that the readers follow it: what they read is read so by the grammar, and what the grammar reads
they read with any fuel from a bound on.  For a whole tree that is `readTree_eq_ok_iff`.

Scalars are left to `readPlain`, what a value is that starts with neither bracket.
-/

namespace HostLink
namespace Json

/-! ## Marks and scalars -/

theorem length_skipBlank_le (cs : List Char) : (skipBlank cs).length ≤ cs.length :=
  (List.dropWhile_suffix isBlank).length_le

theorem skipBlank_cons {c : Char} (h : isBlank c = false) (rest : List Char) :
    skipBlank (c :: rest) = c :: rest :=
  List.dropWhile_cons_of_neg (by simp [h])

theorem skipBlank_skipBlank (cs : List Char) : skipBlank (skipBlank cs) = skipBlank cs := by
  unfold skipBlank
  induction cs with
  | nil => rfl
  | cons c rest ih =>
    by_cases hblank : isBlank c
    · rw [List.dropWhile_cons_of_pos hblank]
      exact ih
    · rw [List.dropWhile_cons_of_neg hblank, List.dropWhile_cons_of_neg hblank]

theorem length_lt_of_skipBlank {cs rest : List Char} {c : Char} (h : skipBlank cs = c :: rest) :
    rest.length < cs.length := by
  have hle := length_skipBlank_le cs
  rw [h, List.length_cons] at hle
  exact hle

theorem readMark_eq_ok_iff {mark : Char} {cs rest : List Char} :
    readMark mark cs = .ok ((), rest) ↔ skipBlank cs = mark :: rest := by
  unfold readMark
  cases skipBlank cs with
  | nil => simp
  | cons c tail =>
    by_cases hmark : c = mark
    · simp [hmark]
    · simp [hmark]

/-- A value by its first character, which is neither bracket, and what follows that. -/
def readPlain (words : Lexicon) (c : Char) (rest : List Char) :
    Except ReadError (Json × List Char) :=
  if c = 'n' then readWord .null ['u', 'l', 'l'] rest
  else if c = 't' then readWord (.bool true) ['r', 'u', 'e'] rest
  else if c = 'f' then readWord (.bool false) ['a', 'l', 's', 'e'] rest
  else if c = '"' then do
    let (text, rest) ← words.text rest
    .ok (.str text, rest)
  else if c = '-' ∨ c.isDigit then do
    let (number, rest) ← words.number (c :: rest)
    .ok (.num number, rest)
  else .error .malformed

section Values

variable {words : Lexicon} {fuel depth : Nat} {cs after rest : List Char}

theorem readValue_plain {c : Char} (hskip : skipBlank cs = c :: after) (hlist : c ≠ '[')
    (hmap : c ≠ '\x7b') : readValue words (fuel + 1) depth cs = readPlain words c after := by
  unfold readValue readPlain
  simp only [hskip, hlist, hmap, if_false]

theorem readValue_list (hskip : skipBlank cs = '[' :: after) :
    readValue words (fuel + 1) (depth + 1) cs =
      match skipBlank after with
      | ']' :: rest => .ok (.arr [], rest)
      | rest => (do
        let (items, rest) ← readItems words fuel depth rest
        .ok (.arr items, rest)) := by
  unfold readValue
  simp only [hskip, Char.reduceEq, if_false, if_true]
  rw [if_neg (by decide)]
  split <;> simp_all

theorem readValue_object (hskip : skipBlank cs = '\x7b' :: after) :
    readValue words (fuel + 1) (depth + 1) cs =
      match skipBlank after with
      | '\x7d' :: rest => .ok (.obj [], rest)
      | rest => (do
        let (members, rest) ← readMembers words fuel depth rest
        .ok (.obj members, rest)) := by
  unfold readValue
  simp only [hskip, Char.reduceEq, if_false, if_true]
  rw [if_neg (by decide)]
  split <;> simp_all

theorem readItems_last {item : Json} (hitem : readValue words fuel depth cs = .ok (item, after))
    (hclose : skipBlank after = ']' :: rest) :
    readItems words (fuel + 1) depth cs = .ok ([item], rest) := by
  simp [readItems, hitem, hclose, bind, Except.bind]

theorem readItems_more {item : Json} {items : List Json} {more : List Char}
    (hitem : readValue words fuel depth cs = .ok (item, after))
    (hcomma : skipBlank after = ',' :: more)
    (hitems : readItems words fuel depth more = .ok (items, rest)) :
    readItems words (fuel + 1) depth cs = .ok (item :: items, rest) := by
  simp [readItems, hitem, hcomma, hitems, bind, Except.bind]

section Members

variable {opened named valued : List Char} {name : String} {value : Json}

theorem readMembers_last (hquote : skipBlank cs = '"' :: opened)
    (hname : words.text opened = .ok (name, named)) (hcolon : skipBlank named = ':' :: valued)
    (hvalue : readValue words fuel depth valued = .ok (value, after))
    (hclose : skipBlank after = '\x7d' :: rest) :
    readMembers words (fuel + 1) depth cs = .ok ([(name, value)], rest) := by
  have hopen := readMark_eq_ok_iff.2 hquote
  have hmark := readMark_eq_ok_iff.2 hcolon
  simp [readMembers, hopen, hname, hmark, hvalue, hclose, bind, Except.bind]

theorem readMembers_more {members : List (String × Json)} {more : List Char}
    (hquote : skipBlank cs = '"' :: opened) (hname : words.text opened = .ok (name, named))
    (hcolon : skipBlank named = ':' :: valued)
    (hvalue : readValue words fuel depth valued = .ok (value, after))
    (hcomma : skipBlank after = ',' :: more)
    (hmembers : readMembers words fuel depth more = .ok (members, rest)) :
    readMembers words (fuel + 1) depth cs = .ok ((name, value) :: members, rest) := by
  have hopen := readMark_eq_ok_iff.2 hquote
  have hmark := readMark_eq_ok_iff.2 hcolon
  simp [readMembers, hopen, hname, hmark, hvalue, hcomma, hmembers, bind, Except.bind]

end Members

/-- No reader opens a bracket beyond its depth. -/
theorem readValue_zero {c : Char} (hskip : skipBlank cs = c :: after)
    (hopen : c = '[' ∨ c = '\x7b') : readValue words (fuel + 1) 0 cs = .error .malformed := by
  unfold readValue
  obtain rfl | rfl := hopen
  · simp only [hskip, Char.reduceEq, if_false, if_true]
    rw [if_neg (by decide)]
  · simp only [hskip, Char.reduceEq, if_false, if_true]
    rw [if_neg (by decide)]

end Values

/-! ## The grammar -/

/-- What the front of a text can be read as: a value, or what is behind an opening bracket up to
and with the closing one. -/
inductive Phrase where
  | value (tree : Json)
  | items (list : List Json)
  | members (fields : List (String × Json))

/-- The text starts with the phrase, which opens at most `depth` brackets within each other; the
last argument is the rest of the text. -/
inductive Reads (words : Lexicon) : (depth : Nat) → List Char → Phrase → List Char → Prop
  | plain {depth cs c after tree rest} (hskip : skipBlank cs = c :: after)
      (hread : readPlain words c after = .ok (tree, rest)) : Reads words depth cs (.value tree) rest
  | emptyList {depth cs after rest} (hskip : skipBlank cs = '[' :: after)
      (hclose : skipBlank after = ']' :: rest) :
      Reads words (depth + 1) cs (.value (.arr [])) rest
  | list {depth cs after items rest} (hskip : skipBlank cs = '[' :: after)
      (hopen : ∀ rest, skipBlank after ≠ ']' :: rest)
      (hitems : Reads words depth (skipBlank after) (.items items) rest) :
      Reads words (depth + 1) cs (.value (.arr items)) rest
  | emptyObject {depth cs after rest} (hskip : skipBlank cs = '\x7b' :: after)
      (hclose : skipBlank after = '\x7d' :: rest) :
      Reads words (depth + 1) cs (.value (.obj [])) rest
  | object {depth cs after members rest} (hskip : skipBlank cs = '\x7b' :: after)
      (hopen : ∀ rest, skipBlank after ≠ '\x7d' :: rest)
      (hmembers : Reads words depth (skipBlank after) (.members members) rest) :
      Reads words (depth + 1) cs (.value (.obj members)) rest
  | lastItem {depth cs item after rest} (hitem : Reads words depth cs (.value item) after)
      (hclose : skipBlank after = ']' :: rest) : Reads words depth cs (.items [item]) rest
  | moreItems {depth cs item after more items rest}
      (hitem : Reads words depth cs (.value item) after) (hcomma : skipBlank after = ',' :: more)
      (hitems : Reads words depth more (.items items) rest) :
      Reads words depth cs (.items (item :: items)) rest
  | lastMember {depth cs opened name named valued value after rest}
      (hquote : skipBlank cs = '"' :: opened) (hname : words.text opened = .ok (name, named))
      (hcolon : skipBlank named = ':' :: valued)
      (hvalue : Reads words depth valued (.value value) after)
      (hclose : skipBlank after = '\x7d' :: rest) :
      Reads words depth cs (.members [(name, value)]) rest
  | moreMembers {depth cs opened name named valued value after more members rest}
      (hquote : skipBlank cs = '"' :: opened) (hname : words.text opened = .ok (name, named))
      (hcolon : skipBlank named = ':' :: valued)
      (hvalue : Reads words depth valued (.value value) after)
      (hcomma : skipBlank after = ',' :: more)
      (hmembers : Reads words depth more (.members members) rest) :
      Reads words depth cs (.members ((name, value) :: members)) rest

/-- The reader for such a phrase reads it from the front of the text. -/
def Phrase.ReadBy (words : Lexicon) (fuel depth : Nat) (cs : List Char) :
    Phrase → List Char → Prop
  | .value tree, rest => readValue words fuel depth cs = .ok (tree, rest)
  | .items list, rest => readItems words fuel depth cs = .ok (list, rest)
  | .members fields, rest => readMembers words fuel depth cs = .ok (fields, rest)

section Soundness

variable {words : Lexicon} {fuel depth : Nat} {cs rest : List Char}

/-- What the readers read with some fuel follows the grammar. -/
def Sound (words : Lexicon) (fuel : Nat) : Prop :=
  ∀ depth cs phrase rest, Phrase.ReadBy words fuel depth cs phrase rest →
    Reads words depth cs phrase rest

theorem reads_of_readValue (sound : Sound words fuel) {tree : Json}
    (h : readValue words (fuel + 1) depth cs = .ok (tree, rest)) :
    Reads words depth cs (.value tree) rest := by
  cases hskip : skipBlank cs with
  | nil =>
    unfold readValue at h
    simp [hskip] at h
  | cons c after =>
    by_cases hbracket : c = '[' ∨ c = '\x7b'
    · cases depth with
      | zero =>
        rw [readValue_zero hskip hbracket] at h
        cases h
      | succ depth =>
        obtain rfl | rfl := hbracket
        · rw [readValue_list hskip] at h
          split at h
          · next hclose =>
            obtain ⟨rfl, rfl⟩ := Prod.mk.inj (Except.ok.inj h)
            exact .emptyList hskip hclose
          · next hopen =>
            obtain ⟨⟨items, tail⟩, hitems, hend⟩ := bind_eq_ok_iff.1 h
            obtain ⟨rfl, rfl⟩ := Prod.mk.inj (Except.ok.inj hend)
            exact .list hskip hopen (sound _ _ (.items items) _ hitems)
        · rw [readValue_object hskip] at h
          split at h
          · next hclose =>
            obtain ⟨rfl, rfl⟩ := Prod.mk.inj (Except.ok.inj h)
            exact .emptyObject hskip hclose
          · next hopen =>
            obtain ⟨⟨members, tail⟩, hmembers, hend⟩ := bind_eq_ok_iff.1 h
            obtain ⟨rfl, rfl⟩ := Prod.mk.inj (Except.ok.inj hend)
            exact .object hskip hopen (sound _ _ (.members members) _ hmembers)
    · obtain ⟨hlist, hmap⟩ := not_or.1 hbracket
      rw [readValue_plain hskip hlist hmap] at h
      exact .plain hskip h

theorem reads_of_readItems (sound : Sound words fuel) {items : List Json}
    (h : readItems words (fuel + 1) depth cs = .ok (items, rest)) :
    Reads words depth cs (.items items) rest := by
  unfold readItems at h
  obtain ⟨⟨item, after⟩, hitem, h⟩ := bind_eq_ok_iff.1 h
  have hitem : Reads words depth cs (.value item) after := sound _ _ (.value item) _ hitem
  dsimp only at h
  split at h
  · cases h
  · next c more hafter =>
    split at h
    · next hcomma =>
      subst hcomma
      obtain ⟨⟨items, tail⟩, hitems, hend⟩ := bind_eq_ok_iff.1 h
      obtain ⟨rfl, rfl⟩ := Prod.mk.inj (Except.ok.inj hend)
      exact .moreItems hitem hafter (sound _ _ (.items items) _ hitems)
    · split at h
      · next hclose =>
        subst hclose
        obtain ⟨rfl, rfl⟩ := Prod.mk.inj (Except.ok.inj h)
        exact .lastItem hitem hafter
      · cases h

theorem reads_of_readMembers (sound : Sound words fuel) {members : List (String × Json)}
    (h : readMembers words (fuel + 1) depth cs = .ok (members, rest)) :
    Reads words depth cs (.members members) rest := by
  unfold readMembers at h
  obtain ⟨⟨⟨⟩, opened⟩, hquote, h⟩ := bind_eq_ok_iff.1 h
  obtain ⟨⟨name, named⟩, hname, h⟩ := bind_eq_ok_iff.1 h
  obtain ⟨⟨⟨⟩, valued⟩, hcolon, h⟩ := bind_eq_ok_iff.1 h
  obtain ⟨⟨value, after⟩, hvalue, h⟩ := bind_eq_ok_iff.1 h
  rw [readMark_eq_ok_iff] at hquote hcolon
  have hvalue : Reads words depth valued (.value value) after :=
    sound _ _ (.value value) _ hvalue
  dsimp only at h
  split at h
  · cases h
  · next c more hafter =>
    split at h
    · next hcomma =>
      subst hcomma
      obtain ⟨⟨members, tail⟩, hmembers, hend⟩ := bind_eq_ok_iff.1 h
      obtain ⟨rfl, rfl⟩ := Prod.mk.inj (Except.ok.inj hend)
      exact .moreMembers hquote hname hcolon hvalue hafter
        (sound _ _ (.members members) _ hmembers)
    · split at h
      · next hclose =>
        subst hclose
        obtain ⟨rfl, rfl⟩ := Prod.mk.inj (Except.ok.inj h)
        exact .lastMember hquote hname hcolon hvalue hafter
      · cases h

/-- What the readers read follows the grammar, by induction on the fuel that they spend. -/
theorem sound (words : Lexicon) (fuel : Nat) : Sound words fuel := by
  induction fuel with
  | zero =>
    intro depth cs phrase rest h
    cases phrase <;> cases h
  | succ fuel ih =>
    intro depth cs phrase rest h
    cases phrase with
    | value tree => exact reads_of_readValue ih h
    | items items => exact reads_of_readItems ih h
    | members members => exact reads_of_readMembers ih h

end Soundness

/-! ## What is left is no longer -/

theorem readWord_eq_ok_iff {α : Type} {value found : α} {word cs rest : List Char} :
    readWord value word cs = .ok (found, rest) ↔ found = value ∧ cs = word ++ rest := by
  induction word generalizing cs with
  | nil => simp [readWord, eq_comm]
  | cons expected word ih =>
    cases cs with
    | nil => simp [readWord]
    | cons c cs =>
      by_cases hc : c = expected
      · simp [readWord, hc, ih]
      · simp [readWord, hc]

theorem length_readDigits {atEnd : ReadError} {cs digits rest : List Char}
    (h : readDigits atEnd cs = .ok (digits, rest)) : rest.length ≤ cs.length := by
  have hle : (cs.dropWhile Char.isDigit).length ≤ cs.length :=
    (List.dropWhile_suffix Char.isDigit).length_le
  unfold readDigits at h
  split at h
  · cases h
  · cases h
  · obtain ⟨-, rfl⟩ := Prod.mk.inj (Except.ok.inj h)
    exact hle

theorem length_readWhole {atEnd : ReadError} {cs digits rest : List Char}
    (h : readWhole atEnd cs = .ok (digits, rest)) : rest.length ≤ cs.length := by
  obtain ⟨⟨found, after⟩, hdigits, h⟩ := bind_eq_ok_iff.1 h
  dsimp only at h
  split at h
  · cases h
  · obtain ⟨-, rfl⟩ := Prod.mk.inj (Except.ok.inj h)
    exact length_readDigits hdigits

theorem length_readFraction {atEnd : ReadError} {cs digits rest : List Char}
    (h : readFraction atEnd cs = .ok (digits, rest)) : rest.length ≤ cs.length := by
  unfold readFraction at h
  split at h
  · have := length_readDigits h
    simp only [List.length_cons]
    omega
  · obtain ⟨-, rfl⟩ := Prod.mk.inj (Except.ok.inj h)
    exact Nat.le_refl _

theorem length_readSign (cs : List Char) : (readSign cs).2.length ≤ cs.length := by
  unfold readSign
  split <;> simp

theorem length_readExponent {atEnd : ReadError} {cs rest : List Char} {exponent : Option Int}
    (h : readExponent atEnd cs = .ok (exponent, rest)) : rest.length ≤ cs.length := by
  unfold readExponent at h
  split at h
  · next c after =>
    split at h
    · obtain ⟨⟨digits, behind⟩, hdigits, h⟩ := bind_eq_ok_iff.1 h
      obtain ⟨-, rfl⟩ := Prod.mk.inj (Except.ok.inj h)
      have hsign := length_readSign after
      have hrest : behind.length ≤ (readSign after).2.length := length_readDigits hdigits
      simp only [List.length_cons]
      omega
    · obtain ⟨-, rfl⟩ := Prod.mk.inj (Except.ok.inj h)
      exact Nat.le_refl _
  · obtain ⟨-, rfl⟩ := Prod.mk.inj (Except.ok.inj h)
    exact Nat.le_refl _

theorem length_readNumeral {atEnd : ReadError} {cs rest : List Char} {numeral : Numeral}
    (h : readNumeral atEnd cs = .ok (numeral, rest)) : rest.length ≤ cs.length := by
  unfold readNumeral at h
  split at h
  next negative start hstart =>
  have hle : start.length ≤ cs.length := by
    split at hstart
    · obtain ⟨-, rfl⟩ := Prod.mk.inj hstart
      simp
    · obtain ⟨-, rfl⟩ := Prod.mk.inj hstart
      exact Nat.le_refl _
  obtain ⟨⟨whole, behindWhole⟩, hwhole, h⟩ := bind_eq_ok_iff.1 h
  obtain ⟨⟨fraction, behindFraction⟩, hfraction, h⟩ := bind_eq_ok_iff.1 h
  obtain ⟨⟨exponent, behind⟩, hexponent, h⟩ := bind_eq_ok_iff.1 h
  obtain ⟨-, rfl⟩ := Prod.mk.inj (Except.ok.inj h)
  calc behind.length
    _ ≤ behindFraction.length := length_readExponent hexponent
    _ ≤ behindWhole.length := length_readFraction hfraction
    _ ≤ start.length := length_readWhole hwhole
    _ ≤ cs.length := hle

theorem length_readTextFrom {strict : Bool} {state : TextState} {done cs rest : List Char}
    {text : String} (h : readTextFrom strict state done cs = .ok (text, rest)) :
    rest.length ≤ cs.length := by
  induction cs generalizing state done with
  | nil => cases state <;> cases h
  | cons c tail ih =>
    have step {state : TextState} {done : List Char}
        (h : readTextFrom strict state done tail = .ok (text, rest)) :
        rest.length ≤ (c :: tail).length :=
      Nat.le_succ_of_le (ih h)
    cases state with
    | plain =>
      simp only [readTextFrom] at h
      split_ifs at h
      · obtain ⟨-, rfl⟩ := Prod.mk.inj (Except.ok.inj h)
        simp
      · exact step h
      · exact step h
    | escape =>
      simp only [readTextFrom] at h
      split_ifs at h
      · exact step h
      · split at h
        · exact step h
        · cases h
    | hex lead count value =>
      simp only [readTextFrom] at h
      split at h
      · split_ifs at h
      · split_ifs at h
        · exact step h
        · split at h
          · cases h
          · exact step h
          · exact step h
    | lead unit =>
      simp only [readTextFrom] at h
      split_ifs at h
      exact step h
    | leadEscape unit =>
      simp only [readTextFrom] at h
      split_ifs at h
      exact step h

/-- Reading numbers and texts leaves no more than there was. -/
structure Lexicon.Consumes (words : Lexicon) : Prop where
  number : ∀ {cs number rest}, words.number cs = .ok (number, rest) → rest.length ≤ cs.length
  text : ∀ {cs text rest}, words.text cs = .ok (text, rest) → rest.length ≤ cs.length

theorem Lexicon.consumes_strict : Lexicon.strict.Consumes where
  number h := by
    obtain ⟨⟨numeral, after⟩, hread, h⟩ := bind_eq_ok_iff.1 h
    dsimp only at h
    split at h
    · obtain ⟨-, rfl⟩ := Prod.mk.inj (Except.ok.inj h)
      exact length_readNumeral hread
    · cases h
  text h := length_readTextFrom h

theorem Lexicon.consumes_lenient : Lexicon.lenient.Consumes where
  number h := by
    obtain ⟨⟨numeral, after⟩, hread, h⟩ := bind_eq_ok_iff.1 h
    obtain ⟨-, rfl⟩ := Prod.mk.inj (Except.ok.inj h)
    exact length_readNumeral hread
  text h := length_readTextFrom h

section Completeness

variable {words : Lexicon} {depth : Nat} {cs rest : List Char}

theorem length_readPlain (consumes : words.Consumes) {c : Char} {tree : Json}
    (h : readPlain words c cs = .ok (tree, rest)) : rest.length ≤ (c :: cs).length := by
  have word {value found : Json} {word : List Char}
      (h : readWord value word cs = .ok (found, rest)) : rest.length ≤ (c :: cs).length := by
    obtain ⟨-, rfl⟩ := readWord_eq_ok_iff.1 h
    simp only [List.length_cons, List.length_append]
    omega
  unfold readPlain at h
  split_ifs at h
  · exact word h
  · exact word h
  · exact word h
  · obtain ⟨⟨text, after⟩, htext, h⟩ := bind_eq_ok_iff.1 h
    obtain ⟨-, rfl⟩ := Prod.mk.inj (Except.ok.inj h)
    exact Nat.le_succ_of_le (consumes.text htext)
  · obtain ⟨⟨number, after⟩, hnumber, h⟩ := bind_eq_ok_iff.1 h
    obtain ⟨-, rfl⟩ := Prod.mk.inj (Except.ok.inj h)
    exact consumes.number hnumber

/-- What follows a phrase is no longer than the text that starts with it. -/
theorem Reads.length_le (consumes : words.Consumes) {phrase : Phrase}
    (h : Reads words depth cs phrase rest) : rest.length ≤ cs.length := by
  induction h with
  | plain hskip hread =>
    have hplain := length_readPlain consumes hread
    have hblank := length_lt_of_skipBlank hskip
    simp only [List.length_cons] at hplain
    omega
  | emptyList hskip hclose =>
    have hopen := length_lt_of_skipBlank hskip
    have hend := length_lt_of_skipBlank hclose
    omega
  | @list _ _ after _ _ hskip _ _ ih =>
    have hopen := length_lt_of_skipBlank hskip
    have hblank := length_skipBlank_le after
    omega
  | emptyObject hskip hclose =>
    have hopen := length_lt_of_skipBlank hskip
    have hend := length_lt_of_skipBlank hclose
    omega
  | @object _ _ after _ _ hskip _ _ ih =>
    have hopen := length_lt_of_skipBlank hskip
    have hblank := length_skipBlank_le after
    omega
  | lastItem _ hclose ih =>
    have hend := length_lt_of_skipBlank hclose
    omega
  | moreItems _ hcomma _ ihItem ihItems =>
    have hmore := length_lt_of_skipBlank hcomma
    omega
  | lastMember hquote hname hcolon _ hclose ih =>
    have hopened := length_lt_of_skipBlank hquote
    have hnamed := consumes.text hname
    have hvalued := length_lt_of_skipBlank hcolon
    have hend := length_lt_of_skipBlank hclose
    omega
  | moreMembers hquote hname hcolon _ hcomma _ ihValue ihMembers =>
    have hopened := length_lt_of_skipBlank hquote
    have hnamed := consumes.text hname
    have hvalued := length_lt_of_skipBlank hcolon
    have hmore := length_lt_of_skipBlank hcomma
    omega

/-! ## The readers read what the grammar reads -/

/-- Fuel that reading a phrase from the front of a text cannot use up: two calls a character, and
one more for the list inside brackets. -/
def Phrase.need (cs : List Char) : Phrase → Nat
  | .value _ => 2 * cs.length + 1
  | .items _ => 2 * cs.length + 2
  | .members _ => 2 * cs.length + 2

theorem readPlain_bracket {c : Char} {tree : Json} (h : readPlain words c cs = .ok (tree, rest)) :
    c ≠ '[' ∧ c ≠ '\x7b' := by
  constructor
  · rintro rfl
    cases h
  · rintro rfl
    cases h

/-- What starts with neither bracket is neither an array nor an object. -/
theorem readPlain_scalar {c : Char} {tree : Json} (h : readPlain words c cs = .ok (tree, rest)) :
    (∀ items, tree ≠ .arr items) ∧ ∀ members, tree ≠ .obj members := by
  unfold readPlain at h
  split_ifs at h
  · obtain ⟨rfl, -⟩ := readWord_eq_ok_iff.1 h
    exact ⟨nofun, nofun⟩
  · obtain ⟨rfl, -⟩ := readWord_eq_ok_iff.1 h
    exact ⟨nofun, nofun⟩
  · obtain ⟨rfl, -⟩ := readWord_eq_ok_iff.1 h
    exact ⟨nofun, nofun⟩
  · obtain ⟨⟨text, after⟩, -, h⟩ := bind_eq_ok_iff.1 h
    obtain ⟨rfl, -⟩ := Prod.mk.inj (Except.ok.inj h)
    exact ⟨nofun, nofun⟩
  · obtain ⟨⟨number, after⟩, -, h⟩ := bind_eq_ok_iff.1 h
    obtain ⟨rfl, -⟩ := Prod.mk.inj (Except.ok.inj h)
    exact ⟨nofun, nofun⟩

theorem readPlain_of_ne_quote {c : Char} {tree : Json} (hquote : c ≠ '"')
    (h : readPlain words c cs = .ok (tree, rest)) (text : String) : tree ≠ .str text := by
  unfold readPlain at h
  simp only [hquote, if_false] at h
  split_ifs at h
  · obtain ⟨rfl, -⟩ := readWord_eq_ok_iff.1 h
    nofun
  · obtain ⟨rfl, -⟩ := readWord_eq_ok_iff.1 h
    nofun
  · obtain ⟨rfl, -⟩ := readWord_eq_ok_iff.1 h
    nofun
  · obtain ⟨⟨number, after⟩, -, h⟩ := bind_eq_ok_iff.1 h
    obtain ⟨rfl, -⟩ := Prod.mk.inj (Except.ok.inj h)
    nofun

theorem Reads.run (consumes : words.Consumes) {phrase : Phrase}
    (h : Reads words depth cs phrase rest) :
    ∀ fuel, phrase.need cs ≤ fuel → phrase.ReadBy words fuel depth cs rest := by
  induction h with
  | plain hskip hread =>
    rintro (_ | fuel) hfuel
    · cases hfuel
    · obtain ⟨hlist, hmap⟩ := readPlain_bracket hread
      exact (readValue_plain hskip hlist hmap).trans hread
  | emptyList hskip hclose =>
    rintro (_ | fuel) hfuel
    · cases hfuel
    · refine (readValue_list hskip).trans ?_
      simp only [hclose]
  | @list _ cs after items rest hskip hopen hitems ih =>
    rintro (_ | fuel) hfuel
    · cases hfuel
    · refine (readValue_list hskip).trans ?_
      have hlength := length_lt_of_skipBlank hskip
      have hblank := length_skipBlank_le after
      have hread := ih fuel (by simp only [Phrase.need] at hfuel ⊢; omega)
      split
      · next hclose => exact absurd hclose (hopen _)
      · exact bind_eq_ok_iff.2 ⟨(items, rest), hread, rfl⟩
  | emptyObject hskip hclose =>
    rintro (_ | fuel) hfuel
    · cases hfuel
    · refine (readValue_object hskip).trans ?_
      simp only [hclose]
  | @object _ cs after members rest hskip hopen hmembers ih =>
    rintro (_ | fuel) hfuel
    · cases hfuel
    · refine (readValue_object hskip).trans ?_
      have hlength := length_lt_of_skipBlank hskip
      have hblank := length_skipBlank_le after
      have hread := ih fuel (by simp only [Phrase.need] at hfuel ⊢; omega)
      split
      · next hclose => exact absurd hclose (hopen _)
      · exact bind_eq_ok_iff.2 ⟨(members, rest), hread, rfl⟩
  | @lastItem _ cs item after rest hitem hclose ih =>
    rintro (_ | fuel) hfuel
    · cases hfuel
    · have hread := ih fuel (by simp only [Phrase.need] at hfuel ⊢; omega)
      exact readItems_last hread hclose
  | @moreItems _ cs item after more items rest hitem hcomma hitems ihItem ihItems =>
    rintro (_ | fuel) hfuel
    · cases hfuel
    · have hlength := hitem.length_le consumes
      have hmore := length_lt_of_skipBlank hcomma
      simp only [Phrase.need] at ihItem ihItems hfuel
      have hread := ihItem fuel (by omega)
      have hrest := ihItems fuel (by omega)
      exact readItems_more hread hcomma hrest
  | @lastMember _ cs opened name named valued value after rest hquote hname hcolon hvalue hclose
      ih =>
    rintro (_ | fuel) hfuel
    · cases hfuel
    · have hopened := length_lt_of_skipBlank hquote
      have hnamed := consumes.text hname
      have hvalued := length_lt_of_skipBlank hcolon
      have hread := ih fuel (by simp only [Phrase.need] at hfuel ⊢; omega)
      exact readMembers_last hquote hname hcolon hread hclose
  | @moreMembers _ cs opened name named valued value after more members rest hquote hname hcolon
      hvalue hcomma hmembers ihValue ihMembers =>
    rintro (_ | fuel) hfuel
    · cases hfuel
    · have hopened := length_lt_of_skipBlank hquote
      have hnamed := consumes.text hname
      have hvalued := length_lt_of_skipBlank hcolon
      have hlength := hvalue.length_le consumes
      have hmore := length_lt_of_skipBlank hcomma
      simp only [Phrase.need] at ihValue ihMembers hfuel
      have hread := ihValue fuel (by omega)
      have hrest := ihMembers fuel (by omega)
      exact readMembers_more hquote hname hcolon hread hcomma hrest

end Completeness

theorem readTree_eq_ok_iff {depth : Nat} {cs rest : List Char} {tree : Json} :
    readTree depth cs = .ok (tree, rest) ↔ Reads .strict depth cs (.value tree) rest := by
  constructor
  · intro h
    exact sound .strict (fuelFor cs) depth cs (.value tree) rest h
  · intro h
    exact h.run Lexicon.consumes_strict (fuelFor cs) (Nat.le_refl _)

end Json
end HostLink
