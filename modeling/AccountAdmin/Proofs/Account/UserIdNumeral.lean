import AccountAdmin.Proofs.Account.UserIdText
import AccountAdmin.Service.Call
import Mathlib.Data.List.Induction
import Mathlib.Data.List.TakeWhile

/-!
# Numerals of user ids

Which texts are ids can be told without adding anything up: blanks, perhaps, around a `Numeral`,
which is one or more digits with at most one sign in front, of a number that has 64 bits.  There may
be any number of zeros in front, so an id has many numerals.  It has one `IsCanonical` numeral, and
that is its text.

Two of the three parts of the reader are easy to see through.  Trimming takes nothing off a numeral,
since there are no blanks in it, and the sign only decides which limit there is.  The digits are
added up with a check at each step against that limit, and the step that is refused is in general
not the last one; but a sum never gets smaller, so the checks say no more than the last of them
(`UserId.accumulate_eq_ok_iff`).

* `UserId.parse_eq_ok_iff`: the texts of an id.
* `Text.decimal_ofDigitChars`: digits without a zero in front are the decimal text of their value.
* `ids_of_numerals`: the texts of all ids, and the canonical ones among them.
-/

namespace AccountAdmin

namespace Text

/-! ## Trimming -/

/-- Blanks around a text without blanks are trimmed off, and nothing else is. -/
theorem trim_append {front s back : List Char} (hfront : ∀ c ∈ front, isBlank c = true)
    (hs : ∀ c ∈ s, isBlank c = false) (hback : ∀ c ∈ back, isBlank c = true) :
    trim (front ++ (s ++ back)) = s := by
  have hright : trimRight (s ++ back) = s := by
    have hreverse : ∀ c ∈ back.reverse, isBlank c = true :=
      fun c hc => hback c (List.mem_reverse.1 hc)
    rw [trimRight, List.reverse_append, List.dropWhile_append_of_pos hreverse,
      dropWhile_isBlank fun c hc => hs c (List.mem_reverse.1 hc), List.reverse_reverse]
  rw [trim, trimLeft, List.dropWhile_append_of_pos hfront]
  cases s with
  | nil =>
    rw [List.nil_append, List.dropWhile_eq_nil_iff.2 hback]
    rfl
  | cons c s =>
    have hc : ¬ isBlank c = true := Bool.eq_false_iff.1 (hs c List.mem_cons_self)
    rw [List.cons_append, List.dropWhile_cons_of_neg hc, ← List.cons_append, hright]

/-- A text is what is left of it when it is trimmed, and blanks around that. -/
theorem exists_trim (s : List Char) : ∃ front back, s = front ++ (trim s ++ back) ∧
    (∀ c ∈ front, isBlank c = true) ∧ ∀ c ∈ back, isBlank c = true := by
  refine ⟨s.takeWhile isBlank, ((trimLeft s).reverse.takeWhile isBlank).reverse, ?_,
    fun c hc => List.mem_takeWhile_imp hc,
    fun c hc => List.mem_takeWhile_imp (List.mem_reverse.1 hc)⟩
  rw [trim, trimRight, ← List.reverse_append, List.takeWhile_append_dropWhile,
    List.reverse_reverse, trimLeft, List.takeWhile_append_dropWhile]

/-! ## Digits -/

/-- The digits of radix ten are those of ASCII, and their value is their distance from zero. -/
theorem digitValue?_eq (c : Char) :
    digitValue? 10 c = if c.isDigit then some (c.toNat - '0'.toNat) else none := by
  have hiff : c.isDigit = true ↔ 48 ≤ c.toNat ∧ c.toNat ≤ 57 := by
    rw [Char.isDigit, Bool.and_eq_true, decide_eq_true_iff, decide_eq_true_iff]
    rfl
  by_cases h : 48 ≤ c.toNat ∧ c.toNat ≤ 57
  · have hvalue : hexValue? c = some (c.toNat - 48) := if_pos h
    have hlt : c.toNat - 48 < 10 := by omega
    rw [if_pos (hiff.2 h), digitValue?, hvalue]
    exact Option.filter_eq_some_iff.2 ⟨rfl, decide_eq_true hlt⟩
  · rw [if_neg fun hdigit => h (hiff.1 hdigit)]
    cases hvalue : digitValue? 10 c with
    | none => rfl
    | some d => exact absurd (toNat_of_isDigit (Option.isSome_iff_exists.2 ⟨d, hvalue⟩)) h

theorem isDigit_eq (c : Char) : isDigit 10 c = c.isDigit := by
  rw [isDigit, digitValue?_eq]
  cases c.isDigit <;> rfl

/-- A character that is a digit is the one that is written for its value. -/
theorem digitChar_of_isDigit {c : Char} (h : c.isDigit = true) :
    c.toNat - '0'.toNat < 10 ∧ digitChar (c.toNat - '0'.toNat) = c := by
  have hvalue : digitValue? 10 c = some (c.toNat - '0'.toNat) := by rw [digitValue?_eq, if_pos h]
  obtain ⟨hlow, hhigh⟩ := toNat_of_isDigit (Option.isSome_iff_exists.2 ⟨_, hvalue⟩)
  have hzero : '0'.toNat = 48 := rfl
  have hlt : c.toNat - '0'.toNat < 10 := by omega
  refine ⟨hlt, ?_⟩
  rw [digitChar, if_pos hlt, hzero, show 48 + (c.toNat - 48) = c.toNat by omega, Char.ofNat_toNat]

/-- Digits without a zero in front are the decimal text of their value. -/
theorem decimal_ofDigitChars {ds : List Char} (hne : ds ≠ []) (hds : ∀ c ∈ ds, c.isDigit = true)
    (hzero : ds.head? = some '0' → ds = ['0']) : decimal (Nat.ofDigitChars 10 ds 0) = ds := by
  induction ds using List.reverseRecOn with
  | nil => exact absurd rfl hne
  | append_singleton ds c ih =>
    obtain ⟨hlt, hchar⟩ := digitChar_of_isDigit (hds c (by simp))
    have hvalue : Nat.ofDigitChars 10 (ds ++ [c]) 0 =
        10 * Nat.ofDigitChars 10 ds 0 + (c.toNat - '0'.toNat) := by
      rw [Nat.ofDigitChars, Nat.ofDigitChars, List.foldl_append, List.foldl_cons, List.foldl_nil]
    by_cases hnil : ds = []
    · subst hnil
      rw [hvalue, Nat.ofDigitChars_nil, Nat.mul_zero, Nat.zero_add, decimal_of_lt hlt, hchar,
        List.nil_append]
    · -- the front has no zero in front either, and so its value is not zero
      have hfront : ds.head? ≠ some '0' := by
        intro hhead
        have hone := congrArg List.length (hzero (by rw [List.head?_append, hhead]; rfl))
        rw [List.length_append, List.length_singleton, List.length_singleton] at hone
        exact hnil (List.length_eq_zero_iff.1 (by omega))
      have hdecimal := ih hnil (fun d hd => hds d (List.mem_append_left _ hd))
        fun hhead => absurd hhead hfront
      have hpos : Nat.ofDigitChars 10 ds 0 ≠ 0 := by
        intro h
        rw [h, decimal_of_lt (by decide)] at hdecimal
        rw [← hdecimal] at hfront
        exact hfront rfl
      rw [hvalue, decimal_of_le (by omega), Nat.mul_add_div (by decide), Nat.div_eq_of_lt hlt,
        Nat.add_zero, hdecimal, Nat.mul_add_mod, Nat.mod_eq_of_lt hlt, hchar]

end Text

namespace UserId

open Text (isBlank isDigit decimal decimalInt)

/-! ## Numerals -/

/-- One or more digits. -/
structure Digits (ds : List Char) : Prop where
  ne_nil : ds ≠ []
  isDigit : ∀ c ∈ ds, c.isDigit = true

/-- One or more digits with at most one sign in front, and the number that they say. -/
inductive Numeral : List Char → Int → Prop where
  | unsigned {ds : List Char} (hds : Digits ds) : Numeral ds (Nat.ofDigitChars 10 ds 0)
  | positive {ds : List Char} (hds : Digits ds) : Numeral ('+' :: ds) (Nat.ofDigitChars 10 ds 0)
  | negative {ds : List Char} (hds : Digits ds) : Numeral ('-' :: ds) (-Nat.ofDigitChars 10 ds 0)

/-- There is no plus, no zero in front of a digit and no minus in front of zero. -/
structure IsCanonical (s : List Char) : Prop where
  plusless : s.head? ≠ some '+'
  zero : ∀ rest, s = '0' :: rest ∨ s = '-' :: '0' :: rest → s = ['0']

theorem Digits.isBlank {ds : List Char} (hds : Digits ds) : ∀ c ∈ ds, isBlank c = false :=
  fun c hc => Text.isBlank_of_isDigit ((Text.isDigit_eq c).trans (hds.isDigit c hc))

theorem Numeral.isBlank {s : List Char} {n : Int} (h : Numeral s n) :
    ∀ c ∈ s, isBlank c = false := by
  cases h with
  | unsigned hds => exact hds.isBlank
  | positive hds | negative hds => exact List.forall_mem_cons.2 ⟨rfl, hds.isBlank⟩

/-- Digits have no sign in front of them. -/
theorem Digits.ne_sign {c : Char} {ds : List Char} (hds : Digits (c :: ds)) :
    c ≠ '+' ∧ c ≠ '-' := by
  have hdigit : Text.isDigit 10 c = true :=
    (Text.isDigit_eq c).trans (hds.isDigit c List.mem_cons_self)
  exact ⟨Text.ne_of_isDigit hdigit rfl, Text.ne_of_isDigit hdigit rfl⟩

/-! ## Reading digits and a sign -/

theorem foldl_addDigit_eq {ds : List Char} (hds : ∀ c ∈ ds, c.isDigit = true) (sum : Nat) :
    ds.foldl addDigit sum = Nat.ofDigitChars 10 ds sum := by
  induction ds generalizing sum with
  | nil => rfl
  | cons c ds ih =>
    rw [List.foldl_cons, Nat.ofDigitChars_cons, ih fun d hd => hds d (List.mem_cons_of_mem c hd),
      addDigit, Text.digitValue?_eq, if_pos (hds c List.mem_cons_self), Option.getD_some,
      Nat.mul_comm]

/-- Digits are added up exactly if there is nothing but digits and the sum at the end is within the
limit. -/
theorem accumulate_eq_ok_iff {limit sum n : Nat} (hsum : sum ≤ limit) (overflow : Fault)
    (ds : List Char) : accumulate limit overflow sum ds = .ok n ↔
      (∀ c ∈ ds, c.isDigit = true) ∧ n = Nat.ofDigitChars 10 ds sum ∧ n ≤ limit := by
  induction ds generalizing sum with
  | nil =>
    rw [accumulate, Nat.ofDigitChars_nil, Except.ok.injEq]
    exact ⟨fun h => ⟨List.forall_mem_nil _, h.symm, h ▸ hsum⟩, fun h => h.2.1.symm⟩
  | cons c ds ih =>
    rw [accumulate, Text.digitValue?_eq, Nat.ofDigitChars_cons, List.forall_mem_cons,
      Nat.mul_comm 10]
    by_cases hc : c.isDigit = true
    · rw [if_pos hc]
      dsimp only
      split
      · next hnext => rw [ih hnext, and_iff_right hc]
      · next hnext =>
        -- the sum at the end would be out of range, too
        refine iff_of_false (by simp) ?_
        rintro ⟨⟨-, hds⟩, hn, hlimit⟩
        have hle := le_foldl_addDigit ds (sum * 10 + (c.toNat - '0'.toNat))
        rw [foldl_addDigit_eq hds, ← hn] at hle
        exact hnext (Nat.le_trans hle hlimit)
    · rw [if_neg hc]
      exact iff_of_false (by simp) fun h => hc h.1.1

/-- Digits with a sign that puts them into an integer by `f`. -/
theorem map_accumulate_eq_ok_iff {limit : Nat} {overflow : Fault} {ds : List Char} (f : Nat → Int)
    {n : Int} : (accumulate limit overflow 0 ds).map f = .ok n ↔
      (∀ c ∈ ds, c.isDigit = true) ∧ n = f (Nat.ofDigitChars 10 ds 0) ∧
        Nat.ofDigitChars 10 ds 0 ≤ limit := by
  have hsum (m : Nat) := accumulate_eq_ok_iff (n := m) (Nat.zero_le limit) overflow ds
  constructor
  · intro h
    cases hread : accumulate limit overflow 0 ds with
    | error fault =>
      rw [hread] at h
      cases h
    | ok m =>
      rw [hread] at h
      obtain ⟨hds, rfl, hlimit⟩ := (hsum m).1 hread
      exact ⟨hds, (Except.ok.inj h).symm, hlimit⟩
  · rintro ⟨hds, rfl, hlimit⟩
    rw [(hsum _).2 ⟨hds, rfl, hlimit⟩]
    rfl

theorem parseSigned_positive {ds : List Char} (hne : ds ≠ []) : parseSigned ('+' :: ds) =
    (accumulate 0x7FFFFFFFFFFFFFFF .tooLarge 0 ds).map fun n : Nat => (n : Int) := by
  rw [parseSigned]
  · cases accumulate 0x7FFFFFFFFFFFFFFF .tooLarge 0 ds <;> rfl
  · exact hne

theorem parseSigned_negative {ds : List Char} (hne : ds ≠ []) : parseSigned ('-' :: ds) =
    (accumulate 0x8000000000000000 .tooSmall 0 ds).map fun n : Nat => -(n : Int) := by
  rw [parseSigned]
  · cases accumulate 0x8000000000000000 .tooSmall 0 ds <;> rfl
  · exact hne

theorem parseSigned_unsigned {c : Char} (hplus : c ≠ '+') (hminus : c ≠ '-') (ds : List Char) :
    parseSigned (c :: ds) =
      (accumulate 0x7FFFFFFFFFFFFFFF .tooLarge 0 (c :: ds)).map fun n : Nat => (n : Int) := by
  rw [parseSigned]
  · cases accumulate 0x7FFFFFFFFFFFFFFF .tooLarge 0 (c :: ds) <;> rfl
  all_goals simp [hplus, hminus]

/-- A text without blanks around it is read exactly if it is the numeral of an integer of 64
bits. -/
theorem parseSigned_eq_ok_iff {s : List Char} {n : Int} : parseSigned s = .ok n ↔
    Numeral s n ∧ -0x8000000000000000 ≤ n ∧ n < 0x8000000000000000 := by
  constructor
  · intro h
    cases s with
    | nil => cases h
    | cons c ds =>
      by_cases hplus : c = '+'
      · subst hplus
        have hne : ds ≠ [] := by
          rintro rfl
          cases h
        rw [parseSigned_positive hne, map_accumulate_eq_ok_iff] at h
        obtain ⟨hds, rfl, hlimit⟩ := h
        exact ⟨.positive ⟨hne, hds⟩, by omega, by omega⟩
      by_cases hminus : c = '-'
      · subst hminus
        have hne : ds ≠ [] := by
          rintro rfl
          cases h
        rw [parseSigned_negative hne, map_accumulate_eq_ok_iff] at h
        obtain ⟨hds, rfl, hlimit⟩ := h
        exact ⟨.negative ⟨hne, hds⟩, by omega, by omega⟩
      rw [parseSigned_unsigned hplus hminus, map_accumulate_eq_ok_iff] at h
      obtain ⟨hds, rfl, hlimit⟩ := h
      exact ⟨.unsigned ⟨List.cons_ne_nil c ds, hds⟩, by omega, by omega⟩
  · rintro ⟨hs, hlower, hupper⟩
    cases hs with
    | unsigned hds =>
      obtain ⟨c, ds, rfl⟩ := List.exists_cons_of_ne_nil hds.ne_nil
      obtain ⟨hplus, hminus⟩ := hds.ne_sign
      rw [parseSigned_unsigned hplus hminus, map_accumulate_eq_ok_iff]
      exact ⟨hds.isDigit, rfl, by omega⟩
    | positive hds =>
      rw [parseSigned_positive hds.ne_nil, map_accumulate_eq_ok_iff]
      exact ⟨hds.isDigit, rfl, by omega⟩
    | negative hds =>
      rw [parseSigned_negative hds.ne_nil, map_accumulate_eq_ok_iff]
      exact ⟨hds.isDigit, rfl, by omega⟩

/-! ## Texts -/

theorem ofInt?_eq_some_iff {n : Int} {id : UserId} : ofInt? n = some id ↔ n = id.value := by
  constructor
  · intro h
    rw [ofInt?] at h
    split at h
    · exact congrArg value (Option.some.inj h)
    · cases h
  · rintro rfl
    exact ofInt?_value id

theorem parse_eq_ok_iff_parseSigned {s : String} {id : UserId} :
    parse s = .ok id ↔ parseSigned (Text.trim s.toList) = .ok id.value := by
  rw [parse]
  cases parseSigned (Text.trim s.toList) with
  | error fault => simp
  | ok n =>
    dsimp only
    rw [Except.ok.injEq, ← ofInt?_eq_some_iff]
    cases ofInt? n with
    | none => simp
    | some id' => rw [Except.ok.injEq, Option.some.injEq]

/-- A text is an id exactly if it is a numeral of the id with blanks around it. -/
theorem parse_eq_ok_iff {s : String} {id : UserId} : parse s = .ok id ↔
    ∃ front numeral back, s.toList = front ++ (numeral ++ back) ∧
      (∀ c ∈ front, isBlank c = true) ∧ (∀ c ∈ back, isBlank c = true) ∧
        Numeral numeral id.value := by
  rw [parse_eq_ok_iff_parseSigned, parseSigned_eq_ok_iff,
    and_iff_left ⟨id.lower, id.upper⟩]
  constructor
  · intro h
    obtain ⟨front, back, hs, hfront, hback⟩ := Text.exists_trim s.toList
    exact ⟨front, _, back, hs, hfront, hback, h⟩
  · rintro ⟨front, numeral, back, hs, hfront, hback, hnumeral⟩
    rwa [hs, Text.trim_append hfront hnumeral.isBlank hback]

/-! ## The canonical numeral -/

theorem numeral_text (id : UserId) : Numeral id.text.toList id.value := by
  rw [text, String.toList_ofList]
  exact (parseSigned_eq_ok_iff.1 (parseSigned_decimalInt id)).1

theorem isCanonical_decimalInt (n : Int) : IsCanonical (decimalInt n) := by
  cases n with
  | ofNat n =>
    obtain ⟨c, ds, hdecimal, hc, -⟩ := Text.decimal_eq_cons n
    have hplus : c ≠ '+' := Text.ne_of_isDigit hc rfl
    have hminus : c ≠ '-' := Text.ne_of_isDigit hc rfl
    rw [decimalInt]
    refine ⟨?_, fun rest hrest => Text.decimal_eq_zero ?_⟩
    · rw [hdecimal, List.head?_cons, ne_eq, Option.some.injEq]
      exact hplus
    · rcases hrest with hrest | hrest
      · rw [hrest, List.head?_cons]
      · rw [hdecimal] at hrest
        exact absurd (List.cons.inj hrest).1 hminus
  | negSucc n =>
    obtain ⟨c, ds, hdecimal, -, hzero⟩ := Text.decimal_eq_cons (n + 1)
    rw [decimalInt, hdecimal]
    refine ⟨fun h => absurd (Option.some.inj h) (by decide), fun rest hrest => ?_⟩
    rcases hrest with hrest | hrest
    · exact absurd (List.cons.inj hrest).1 (by decide)
    · exact absurd (hzero (List.cons.inj (List.cons.inj hrest).2).1) (Nat.succ_ne_zero n)

/-- A canonical numeral is the decimal text of what it says. -/
theorem decimalInt_of_isCanonical {s : List Char} {n : Int} (hs : IsCanonical s)
    (h : Numeral s n) : decimalInt n = s := by
  cases h with
  | unsigned hds =>
    refine Text.decimal_ofDigitChars hds.ne_nil hds.isDigit fun hhead => ?_
    obtain ⟨rest, hrest⟩ := List.head?_eq_some_iff.1 hhead
    exact hs.zero rest (.inl hrest)
  | positive hds => exact absurd rfl hs.plusless
  | @negative ds hds =>
    have hhead : ds.head? ≠ some '0' := by
      intro hhead
      obtain ⟨rest, rfl⟩ := List.head?_eq_some_iff.1 hhead
      exact absurd (List.cons.inj (hs.zero rest (.inr rfl))).1 (by decide)
    have hdecimal := Text.decimal_ofDigitChars hds.ne_nil hds.isDigit fun h => absurd h hhead
    cases hvalue : Nat.ofDigitChars 10 ds 0 with
    | zero =>
      rw [hvalue, Text.decimal_of_lt (by decide)] at hdecimal
      rw [← hdecimal] at hhead
      exact absurd rfl hhead
    | succ m =>
      rw [hvalue] at hdecimal
      show '-' :: decimal (m + 1) = '-' :: ds
      rw [hdecimal]

/-- The text of an id is its one canonical numeral. -/
theorem isCanonical_and_numeral_iff {id : UserId} {s : List Char} :
    IsCanonical s ∧ Numeral s id.value ↔ s = id.text.toList := by
  constructor
  · rintro ⟨hs, h⟩
    rw [text, String.toList_ofList, decimalInt_of_isCanonical hs h]
  · rintro rfl
    refine ⟨?_, id.numeral_text⟩
    rw [text, String.toList_ofList]
    exact isCanonical_decimalInt id.value

end UserId

/-- **User ids are the decimal texts of the integers of 64 bits.**  A text is read as the id with a
value exactly if it is a numeral of the value, blanks around it aside, and the value is in range.
So the text of an id is read as the id, with any blanks around it.  And whatever text an id was read
from, its own text is its one canonical numeral, which stands in the paths of the calls about it. -/
theorem ids_of_numerals :
    (∀ (s : String) (n : Int), (∃ id : UserId, UserId.parse s = .ok id ∧ id.value = n) ↔
      (∃ front numeral back, s.toList = front ++ (numeral ++ back) ∧
        (∀ c ∈ front, Text.isBlank c = true) ∧ (∀ c ∈ back, Text.isBlank c = true) ∧
          UserId.Numeral numeral n) ∧ -0x8000000000000000 ≤ n ∧ n < 0x8000000000000000) ∧
    (∀ (id : UserId) (front back : String), (∀ c ∈ front.toList, Text.isBlank c = true) →
      (∀ c ∈ back.toList, Text.isBlank c = true) →
        UserId.parse (front ++ id.text ++ back) = .ok id) ∧
    ∀ id : UserId, (∀ t, UserId.IsCanonical t ∧ UserId.Numeral t id.value ↔ t = id.text.toList) ∧
      (Call.get id).path = "/user/" ++ id.text ∧ (Call.delete id).path = "/user/" ++ id.text ∧
        (Call.resetPassword id).path = "/user/" ++ id.text ++ "/reset-password" := by
  refine ⟨fun s n => ⟨?_, ?_⟩, fun id front back hfront hback => ?_, fun id =>
    ⟨fun t => UserId.isCanonical_and_numeral_iff, rfl, rfl, rfl⟩⟩
  · rintro ⟨id, hparse, rfl⟩
    exact ⟨UserId.parse_eq_ok_iff.1 hparse, id.lower, id.upper⟩
  · rintro ⟨hnumeral, hlower, hupper⟩
    exact ⟨⟨n, hlower, hupper⟩, UserId.parse_eq_ok_iff.2 hnumeral, rfl⟩
  · refine UserId.parse_eq_ok_iff.2 ⟨front.toList, id.text.toList, back.toList, ?_, hfront, hback,
      id.numeral_text⟩
    rw [String.toList_append, String.toList_append, List.append_assoc]

/-- The text of -42 with an em space in front of it and a line feed behind it, and with two zeros in
front of its digits. -/
theorem ids_of_numerals_padded :
    UserId.parse "\u2003-42\n" = .ok { value := -42 } ∧
      (∃ id : UserId, UserId.parse "\u2003-0042\n" = .ok id ∧ id.value = -42) ∧
        (Call.get { value := -42 }).path = "/user/-42" := by
  have htext : UserId.text { value := -42 } = "-42" := by decide +kernel
  obtain ⟨hread, hsurrounded, hpath⟩ := ids_of_numerals
  have hspace : ∀ c ∈ ['\u2003'], Text.isBlank c = true := by
    rw [List.forall_mem_singleton]
    decide
  have hbreak : ∀ c ∈ ['\n'], Text.isBlank c = true := by
    rw [List.forall_mem_singleton]
    decide
  have hplain := hsurrounded { value := -42 } "\u2003" "\n" hspace hbreak
  have hnumeral : UserId.Numeral "-0042".toList (-42) :=
    .negative ⟨List.cons_ne_nil _ _, List.all_eq_true.1 rfl⟩
  refine ⟨by rwa [htext] at hplain, (hread _ _).2 ⟨⟨['\u2003'], "-0042".toList, ['\n'], rfl, hspace,
    hbreak, hnumeral⟩, by decide, by decide⟩, ?_⟩
  rw [(hpath _).2.1, htext]
  rfl

end AccountAdmin
