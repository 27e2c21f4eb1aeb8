import AccountAdmin.Account.UserId
import AccountAdmin.Proofs.Text.Encoding

/-!
# The text of a user id

The text of an id is read back as that id (`UserId.parse_text`), for every id there is: the digits
are added up without ever getting past the limit, and nothing is trimmed off.  Nothing but digits
and a sign is in that text (`UserId.notMem_text`).
-/

namespace AccountAdmin

namespace Text

theorem toNat_of_isDigit {c : Char} (h : isDigit 10 c = true) : 48 ≤ c.toNat ∧ c.toNat ≤ 57 := by
  obtain ⟨d, hd⟩ := Option.isSome_iff_exists.1 h
  obtain ⟨hvalue, hlt⟩ := Option.filter_eq_some_iff.1 hd
  have hten : d < 10 := of_decide_eq_true hlt
  unfold hexValue? at hvalue
  dsimp only at hvalue
  split at hvalue
  · assumption
  split at hvalue
  · have := Option.some.inj hvalue
    omega
  split at hvalue
  · have := Option.some.inj hvalue
    omega
  · cases hvalue

theorem isBlank_of_isDigit {c : Char} (h : isDigit 10 c = true) : isBlank c = false := by
  obtain ⟨hlow, hhigh⟩ := toNat_of_isDigit h
  simp only [isBlank, Bool.or_eq_false_iff, Bool.and_eq_false_iff, decide_eq_false_iff_not,
    beq_eq_false_iff_ne]
  omega

theorem dropWhile_isBlank {s : List Char} (h : ∀ c ∈ s, isBlank c = false) :
    s.dropWhile isBlank = s := by
  cases s with
  | nil => rfl
  | cons c s => exact List.dropWhile_cons_of_neg (by simp [h c List.mem_cons_self])

/-- There is nothing to trim where there is no blank. -/
theorem trim_eq_self {s : List Char} (h : ∀ c ∈ s, isBlank c = false) : trim s = s := by
  have hreverse : ∀ c ∈ s.reverse, isBlank c = false := fun c hc => h c (List.mem_reverse.1 hc)
  rw [trim, trimLeft, dropWhile_isBlank h, trimRight, dropWhile_isBlank hreverse,
    List.reverse_reverse]

theorem isBlank_of_mem_decimalInt {n : Int} {c : Char} (h : c ∈ decimalInt n) :
    isBlank c = false := by
  rcases of_mem_decimalInt h with rfl | hdigit
  · rfl
  · exact isBlank_of_isDigit hdigit

end Text

namespace UserId

open Text (natOfDigits isDigit digitValue? decimal decimalInt)

/-- A magnitude with one more digit. -/
def addDigit (sum : Nat) (c : Char) : Nat := sum * 10 + (digitValue? 10 c).getD 0

theorem natOfDigits_eq_foldl (ds : List Char) : natOfDigits 10 ds = ds.foldl addDigit 0 := rfl

theorem le_foldl_addDigit (ds : List Char) (sum : Nat) : sum ≤ ds.foldl addDigit sum := by
  induction ds generalizing sum with
  | nil => exact Nat.le_refl sum
  | cons c ds ih =>
    have hstep : sum ≤ addDigit sum c := by
      rw [addDigit]
      omega
    exact Nat.le_trans hstep (ih (addDigit sum c))

/-- Digits are added up as long as the sum at the end is within the limit. -/
theorem accumulate_digits {limit : Nat} (overflow : Fault) {ds : List Char} {sum : Nat}
    (hds : ∀ c ∈ ds, isDigit 10 c = true) (hlimit : ds.foldl addDigit sum ≤ limit) :
    accumulate limit overflow sum ds = .ok (ds.foldl addDigit sum) := by
  induction ds generalizing sum with
  | nil => rfl
  | cons c ds ih =>
    obtain ⟨d, hd⟩ := Option.isSome_iff_exists.1 (hds c List.mem_cons_self)
    have hstep : addDigit sum c = sum * 10 + d := by rw [addDigit, hd, Option.getD_some]
    rw [List.foldl_cons] at hlimit ⊢
    have hnext := Nat.le_trans (le_foldl_addDigit ds (addDigit sum c)) hlimit
    rw [hstep] at hnext
    rw [accumulate, hd]
    dsimp only
    rw [if_pos hnext, ← hstep]
    exact ih (fun e he => hds e (List.mem_cons_of_mem c he)) hlimit

theorem accumulate_decimal {limit n : Nat} (overflow : Fault) (h : n ≤ limit) :
    accumulate limit overflow 0 (decimal n) = .ok n := by
  have hvalue : (decimal n).foldl addDigit 0 = n := by
    rw [← natOfDigits_eq_foldl, Text.natOfDigits_decimal]
  have hsum := accumulate_digits overflow (fun c hc => Text.isDigit_of_mem_decimal hc)
    (hvalue.symm ▸ h)
  rw [hsum, hvalue]

/-- The decimal text of an integer in range is read as that integer. -/
theorem parseSigned_decimalInt (id : UserId) :
    parseSigned (decimalInt id.value) = .ok id.value := by
  obtain ⟨value, lower, upper⟩ := id
  cases value with
  | ofNat n =>
    have hn : n ≤ 0x7FFFFFFFFFFFFFFF := by
      have hupper : (n : Int) < 0x8000000000000000 := upper
      omega
    have hsum := accumulate_decimal .tooLarge hn
    obtain ⟨c, ds, hdecimal, hc, -⟩ := Text.decimal_eq_cons n
    have hplus : c ≠ '+' := Text.ne_of_isDigit hc rfl
    have hminus : c ≠ '-' := Text.ne_of_isDigit hc rfl
    rw [decimalInt]
    rw [hdecimal] at hsum ⊢
    rw [parseSigned, hsum]
    · rfl
    all_goals simp [hplus, hminus]
  | negSucc n =>
    have hn : n + 1 ≤ 0x8000000000000000 := by omega
    have hsum := accumulate_decimal .tooSmall hn
    obtain ⟨c, ds, hdecimal, -⟩ := Text.decimal_eq_cons (n + 1)
    rw [decimalInt]
    rw [hdecimal] at hsum ⊢
    rw [parseSigned, hsum]
    · rfl
    · exact List.cons_ne_nil c ds

/-- The text of an id is read back as that id. -/
theorem parse_text (id : UserId) : parse id.text = .ok id := by
  have htrim : Text.trim id.text.toList = decimalInt id.value := by
    rw [text, String.toList_ofList]
    exact Text.trim_eq_self fun c hc => Text.isBlank_of_mem_decimalInt hc
  rw [parse, htrim, parseSigned_decimalInt]
  dsimp only
  rw [ofInt?_value]

/-- A character that is neither a digit nor a sign is not in the text of an id. -/
theorem notMem_text (id : UserId) {c : Char} (hminus : c ≠ '-') (hdigit : isDigit 10 c = false) :
    c ∉ id.text.toList := by
  rw [text, String.toList_ofList]
  intro h
  rcases Text.of_mem_decimalInt h with hsign | hc
  · exact hminus hsign
  · exact Text.ne_of_isDigit hc hdigit rfl

theorem text_ne_list (id : UserId) : id.text ≠ "list" := by
  intro h
  have hnot : 's' ∉ id.text.toList := id.notMem_text (by decide) rfl
  rw [h] at hnot
  exact hnot (by decide)

end UserId

end AccountAdmin
