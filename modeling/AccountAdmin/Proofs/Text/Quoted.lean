import AccountAdmin.Proofs.Text.Encoding
import AccountAdmin.Text.Quoted

/-!
# Quoted text tells the text

Nothing is lost when a text is quoted: what stands for a character is read back as that character
(`readEscape_escapeChar`), and no character is shown as the closing quote.  So a quoted text,
whatever comes behind it, is the quoted form of one text only (`quoted_append_inj`).
-/

namespace AccountAdmin.Text

/-! ## Hexadecimal numbers -/

theorem digitValue?_digitChar_hex : ∀ n < 16, digitValue? 16 (digitChar n) = some n := by decide

/-- The hexadecimal text of a number has that number as its value. -/
theorem natOfDigits_hex (n : Nat) : natOfDigits 16 (hex n) = n := by
  induction n using Nat.strongRecOn with
  | ind n ih =>
    by_cases h : n < 16
    · rw [hex_of_lt h]
      simp [natOfDigits, digitValue?_digitChar_hex n h]
    · have hlast := digitValue?_digitChar_hex (n % 16) (Nat.mod_lt n (by omega))
      rw [hex_of_le (by omega), natOfDigits_append_singleton, ih (n / 16) (by omega), hlast,
        Option.getD_some]
      omega

theorem isDigit_of_mem_hex {n : Nat} {c : Char} (h : c ∈ hex n) : isDigit 16 c = true := by
  have hdigit (d : Nat) (hd : d < 16) : isDigit 16 (digitChar d) = true := by
    rw [isDigit, digitValue?_digitChar_hex d hd]
    rfl
  induction n using Nat.strongRecOn with
  | ind n ih =>
    by_cases hn : n < 16
    · rw [hex_of_lt hn, List.mem_singleton] at h
      rw [h]
      exact hdigit n hn
    · rw [hex_of_le (by omega), List.mem_append, List.mem_singleton] at h
      rcases h with h | h
      · exact ih (n / 16) (by omega) h
      · rw [h]
        exact hdigit (n % 16) (Nat.mod_lt n (by omega))

/-! ## Escapes -/

/-- The character that a letter behind a backslash names. -/
def named? (letter : Char) : Option Char :=
  if letter = '0' then some (Char.ofNat 0)
  else if letter = 't' then some '\t'
  else if letter = 'r' then some '\r'
  else if letter = 'n' then some '\n'
  else if letter = '"' ∨ letter = '\\' then some letter
  else none

/-- The character at the front of a text with escapes, and the text behind it. -/
def readEscape : List Char → Option (Char × List Char)
  | '\\' :: 'u' :: '\x7b' :: s =>
    some (Char.ofNat (natOfDigits 16 (s.takeWhile (isDigit 16))), (s.dropWhile (isDigit 16)).drop 1)
  | '\\' :: letter :: s => (named? letter).map (·, s)
  | c :: s => some (c, s)
  | [] => none

theorem readEscape_named {letter c : Char} (h : named? letter = some c) (s : List Char) :
    readEscape ('\\' :: letter :: s) = some (c, s) := by
  unfold readEscape
  split
  · next heq =>
    -- the letter in front of a code names nothing
    obtain ⟨-, heq⟩ := List.cons.inj heq
    obtain ⟨rfl, -⟩ := List.cons.inj heq
    cases h
  · next heq =>
    obtain ⟨-, heq⟩ := List.cons.inj heq
    obtain ⟨rfl, rfl⟩ := List.cons.inj heq
    rw [h, Option.map_some]
  · next hshort heq =>
    obtain ⟨rfl, rfl⟩ := List.cons.inj heq
    exact absurd rfl (hshort letter s rfl)
  · next heq => cases heq

theorem readEscape_plain {c : Char} (hc : c ≠ '\\') (s : List Char) :
    readEscape (c :: s) = some (c, s) := by
  unfold readEscape
  split
  · next heq => exact absurd (List.cons.inj heq).1 hc
  · next heq => exact absurd (List.cons.inj heq).1 hc
  · next heq =>
    obtain ⟨rfl, rfl⟩ := List.cons.inj heq
    rfl
  · next heq => cases heq

theorem readEscape_escapeByCode (c : Char) (s : List Char) :
    readEscape (escapeByCode c ++ s) = some (c, s) := by
  have hdigits : ∀ d ∈ hex c.toNat, isDigit 16 d = true := fun d hd => isDigit_of_mem_hex hd
  have htake : (hex c.toNat ++ '\x7d' :: s).takeWhile (isDigit 16) = hex c.toNat := by
    rw [List.takeWhile_append_of_pos hdigits, List.takeWhile_cons_of_neg (by decide),
      List.append_nil]
  have hdrop : (hex c.toNat ++ '\x7d' :: s).dropWhile (isDigit 16) = '\x7d' :: s := by
    rw [List.dropWhile_append_of_pos hdigits, List.dropWhile_cons_of_neg (by decide)]
  have htext : escapeByCode c ++ s = '\\' :: 'u' :: '\x7b' :: (hex c.toNat ++ '\x7d' :: s) := by
    rw [escapeByCode, List.cons_append, List.cons_append, List.cons_append, List.append_assoc,
      List.singleton_append]
  rw [htext, readEscape, htake, hdrop, natOfDigits_hex, Char.ofNat_toNat]
  rfl

/-- What stands for a character between quotes: an escape, or the character itself, which is then
neither a quote nor a backslash. -/
theorem escapeChar_cases (c : Char) :
    (∃ letter, named? letter = some c ∧ escapeChar c = ['\\', letter]) ∨
      escapeChar c = escapeByCode c ∨ (c ≠ '"' ∧ c ≠ '\\' ∧ escapeChar c = [c]) := by
  unfold escapeChar
  split
  · next h => exact .inl ⟨'0', by rw [eq_of_beq h]; rfl, rfl⟩
  split
  · next h => exact .inl ⟨'t', by rw [eq_of_beq h]; rfl, rfl⟩
  split
  · next h => exact .inl ⟨'r', by rw [eq_of_beq h]; rfl, rfl⟩
  split
  · next h => exact .inl ⟨'n', by rw [eq_of_beq h]; rfl, rfl⟩
  split
  · next h => exact .inl ⟨'"', by rw [eq_of_beq h]; rfl, rfl⟩
  next hquote =>
  split
  · next h => exact .inl ⟨'\\', by rw [eq_of_beq h]; rfl, rfl⟩
  next hbackslash =>
  split
  · exact .inr (.inl rfl)
  split
  · exact .inr (.inr ⟨by simpa using hquote, by simpa using hbackslash, rfl⟩)
  · exact .inr (.inl rfl)

/-- What stands for a character is read back as that character. -/
theorem readEscape_escapeChar (c : Char) (s : List Char) :
    readEscape (escapeChar c ++ s) = some (c, s) := by
  rcases escapeChar_cases c with ⟨letter, hletter, h⟩ | h | ⟨-, hbackslash, h⟩
  · rw [h]
    exact readEscape_named hletter s
  · rw [h]
    exact readEscape_escapeByCode c s
  · rw [h]
    exact readEscape_plain hbackslash s

/-- No character is shown as the closing quote. -/
theorem escapeChar_append_ne_quote (c : Char) (s t : List Char) : escapeChar c ++ s ≠ '"' :: t := by
  intro heq
  rcases escapeChar_cases c with ⟨letter, -, h⟩ | h | ⟨hquote, -, h⟩
  · rw [h] at heq
    exact absurd (List.cons.inj heq).1 (by decide)
  · rw [h] at heq
    exact absurd (List.cons.inj heq).1 (by decide)
  · rw [h] at heq
    exact hquote (List.cons.inj heq).1

/-! ## Whole texts -/

theorem flatMap_escapeChar_inj {cs ds s t : List Char}
    (h : cs.flatMap escapeChar ++ '"' :: s = ds.flatMap escapeChar ++ '"' :: t) :
    cs = ds ∧ s = t := by
  induction cs generalizing ds with
  | nil =>
    cases ds with
    | nil => exact ⟨rfl, (List.cons.inj h).2⟩
    | cons d ds =>
      rw [List.flatMap_cons, List.append_assoc] at h
      exact absurd h.symm (escapeChar_append_ne_quote d _ s)
  | cons c cs ih =>
    rw [List.flatMap_cons, List.append_assoc] at h
    cases ds with
    | nil => exact absurd h (escapeChar_append_ne_quote c _ t)
    | cons d ds =>
      rw [List.flatMap_cons, List.append_assoc] at h
      have hread := congrArg readEscape h
      rw [readEscape_escapeChar, readEscape_escapeChar] at hread
      obtain ⟨rfl, hrest⟩ := Prod.mk.inj (Option.some.inj hread)
      obtain ⟨rfl, hst⟩ := ih hrest
      exact ⟨rfl, hst⟩

/-- A quoted text is the quoted form of one text only. -/
theorem quoted_append_inj {a b : String} {s t : List Char}
    (h : (quoted a).toList ++ s = (quoted b).toList ++ t) : a = b ∧ s = t := by
  simp only [quoted, String.toList_ofList, List.cons_append, List.append_assoc] at h
  obtain ⟨hchars, hrest⟩ := flatMap_escapeChar_inj (List.cons.inj h).2
  exact ⟨String.toList_inj.1 hchars, hrest⟩

end AccountAdmin.Text
