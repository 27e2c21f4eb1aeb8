import AccountAdmin.Text.Digits

/-!
# Digits and bytes

What this library writes is made of smaller things.  The decimal text of a number has only digits,
at least one, and a zero in front only if the number is zero.  The hexadecimal text of a control has
four digits, the first two of them zeros.  The bytes of a text stand for that text and no other.
-/

namespace AccountAdmin.Text

/-! ## Decimal digits -/

theorem isDigit_digitChar {n : Nat} (h : n < 10) : isDigit 10 (digitChar n) = true := by
  rw [isDigit, digitValue?_digitChar h]
  rfl

theorem isDigit_of_mem_decimal {n : Nat} {c : Char} (h : c ∈ decimal n) : isDigit 10 c = true := by
  induction n using Nat.strongRecOn with
  | ind n ih =>
    by_cases hn : n < 10
    · rw [decimal_of_lt hn, List.mem_singleton] at h
      rw [h]
      exact isDigit_digitChar hn
    · rw [decimal_of_le (by omega), List.mem_append, List.mem_singleton] at h
      rcases h with h | h
      · exact ih (n / 10) (by omega) h
      · rw [h]
        exact isDigit_digitChar (by omega)

/-- A number starts with a digit, and with a zero only if it is zero. -/
theorem decimal_eq_cons (n : Nat) :
    ∃ c ds, decimal n = c :: ds ∧ isDigit 10 c = true ∧ (c = '0' → n = 0) := by
  induction n using Nat.strongRecOn with
  | ind n ih =>
    by_cases hn : n < 10
    · refine ⟨digitChar n, [], decimal_of_lt hn, isDigit_digitChar hn, fun hzero => ?_⟩
      have hvalue := digitValue?_digitChar hn
      rw [hzero] at hvalue
      exact (Option.some.inj hvalue).symm
    · obtain ⟨c, ds, hdecimal, hdigit, hzero⟩ := ih (n / 10) (by omega)
      refine ⟨c, ds ++ [digitChar (n % 10)], ?_, hdigit, fun h => ?_⟩
      · rw [decimal_of_le (by omega), hdecimal]
        rfl
      · have := hzero h
        omega

theorem ne_of_isDigit {c d : Char} (hc : isDigit 10 c = true) (hd : isDigit 10 d = false) :
    c ≠ d := by
  rintro rfl
  rw [hc] at hd
  cases hd

theorem decimal_eq_zero {n : Nat} (h : (decimal n).head? = some '0') : decimal n = ['0'] := by
  obtain ⟨c, ds, hdecimal, -, hzero⟩ := decimal_eq_cons n
  rw [hdecimal] at h
  rw [hzero (Option.some.inj h)]
  exact decimal_of_lt (by omega)

/-- The text of an integer has only digits and a sign. -/
theorem of_mem_decimalInt {n : Int} {c : Char} (h : c ∈ decimalInt n) :
    c = '-' ∨ isDigit 10 c = true := by
  cases n with
  | ofNat n => exact .inr (isDigit_of_mem_decimal h)
  | negSucc n =>
    rcases List.mem_cons.1 h with hminus | h
    · exact .inl hminus
    · exact .inr (isDigit_of_mem_decimal h)

/-! ## Hexadecimal digits -/

theorem hex_of_lt {n : Nat} (h : n < 16) : hex n = [digitChar n] := by
  rw [hex, digits, if_pos (.inl h)]

theorem hex_of_le {n : Nat} (h : 16 ≤ n) : hex n = hex (n / 16) ++ [digitChar (n % 16)] := by
  rw [hex, digits, if_neg (by omega), hex]

/-- The numbers below 256 have two digits behind two zeros. -/
theorem hexPadded_four {n : Nat} (h : n < 256) :
    hexPadded 4 n = ['0', '0', digitChar (n / 16), digitChar (n % 16)] := by
  by_cases hn : n < 16
  · rw [hexPadded, hex_of_lt hn, Nat.div_eq_of_lt hn, Nat.mod_eq_of_lt hn]
    rfl
  · rw [hexPadded, hex_of_le (by omega), hex_of_lt (by omega)]
    rfl

/-! ## Bytes -/

theorem fromUTF8?_toUTF8 (s : String) : String.fromUTF8? s.toUTF8 = some s := by
  rw [String.fromUTF8?, String.toUTF8_eq_toByteArray, dif_pos s.isValidUTF8]
  rfl

theorem toUTF8_of_fromUTF8? {bytes : ByteArray} {s : String} (h : String.fromUTF8? bytes = some s) :
    s.toUTF8 = bytes := by
  unfold String.fromUTF8? at h
  split at h
  · obtain rfl := Option.some.inj h
    rfl
  · cases h

end AccountAdmin.Text
