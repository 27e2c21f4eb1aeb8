import AccountAdmin.Proofs.Text.Encoding
import AccountAdmin.Toml.Printer
import AccountAdmin.Toml.Strings

/-!
# Escapes read back

What stands for a character between double quotes is an escape that names it, or the character as it
is (`escapeChar_cases`).  The reader takes either back, so a string on one line is read back
character by character, between double quotes with its escapes (`readOneLine_escapeFrom`) and
between single quotes as it is (`readOneLine_self`).

* `Names`: what an escape names.
-/

namespace AccountAdmin.Toml

open AccountAdmin.Text

/-! ## Escapes -/

/-- The code names the character behind a backslash, and does not continue a line. -/
def Names (code : List Char) (c : Char) : Prop :=
  ∀ rest, readEscape (code ++ rest) = some (c, rest) ∧ continueLine? (code ++ rest) = none

theorem continueLine?_cons_of_not_blank {c : Char} (hspace : isSpace c = false) (hline : c ≠ '\n')
    (hreturn : c ≠ '\r') (rest : List Char) : continueLine? (c :: rest) = none := by
  have h : newline? (c :: rest) = none := by
    unfold newline?
    split
    · next heq => exact absurd (List.cons.inj heq).1 hline
    · next heq => exact absurd (List.cons.inj heq).1 hreturn
    · rfl
  rw [continueLine?, skipSpaces, List.dropWhile_cons_of_neg (by rw [hspace]; decide), h]
  rfl

/-- The letters behind a backslash that name a character of their own. -/
theorem names_letter {d c : Char}
    (h : (d, c) ∈ [('b', Char.ofNat 8), ('t', '\t'), ('n', '\n'), ('f', Char.ofNat 12), ('r', '\r'),
      ('"', '"'), ('\\', '\\')]) : Names [d] c := by
  intro rest
  simp only [List.mem_cons, List.not_mem_nil, or_false, Prod.mk.injEq] at h
  rcases h with ⟨rfl, rfl⟩ | ⟨rfl, rfl⟩ | ⟨rfl, rfl⟩ | ⟨rfl, rfl⟩ | ⟨rfl, rfl⟩ | ⟨rfl, rfl⟩ |
    ⟨rfl, rfl⟩
  all_goals exact ⟨rfl, continueLine?_cons_of_not_blank rfl (by decide) (by decide) rest⟩

theorem digitValue?_toUpper_digitChar :
    ∀ n < 16, digitValue? 16 (digitChar n).toUpper = some n := by
  decide

theorem readCode_upperHex {n : Nat} (h : n < 128) (rest : List Char) :
    readCode 4 (upperHex (hexPadded 4 n) ++ rest) = some (Char.ofNat n, rest) := by
  have hhigh := digitValue?_toUpper_digitChar (n / 16) (by omega)
  have hlow := digitValue?_toUpper_digitChar (n % 16) (Nat.mod_lt n (by omega))
  have hzero : digitValue? 16 '0' = some 0 := rfl
  have htext : upperHex (hexPadded 4 n) =
      ['0', '0', (digitChar (n / 16)).toUpper, (digitChar (n % 16)).toUpper] := by
    rw [hexPadded_four (by omega)]
    rfl
  have hvalue : natOfDigits 16 (upperHex (hexPadded 4 n)) = n := by
    rw [htext]
    simp only [natOfDigits, List.foldl_cons, List.foldl_nil, hzero, hhigh, hlow, Option.getD_some]
    omega
  have hdigits : (upperHex (hexPadded 4 n)).all (isDigit 16) = true := by
    rw [htext]
    simp [isDigit, hzero, hhigh, hlow]
  have hlength : (upperHex (hexPadded 4 n)).length = 4 := by rw [htext]; rfl
  have hvalid : n.isValidChar := .inl (by omega)
  unfold readCode
  simp only [List.take_left' hlength, List.drop_left' hlength]
  rw [if_pos ⟨hlength, hdigits, by rw [hvalue]; exact hvalid⟩, hvalue]

/-- What stands for a character between double quotes: an escape, or the character as it is.  A line
feed may stay in a string on several lines. -/
theorem escapeChar_cases (long : Bool) (c : Char) :
    (escapeChar long c = [c] ∧ isPlain c = true ∧ c ≠ '\\') ∨
      (long = true ∧ c = '\n' ∧ escapeChar long c = ['\n']) ∨
      ∃ code, escapeChar long c = '\\' :: code ∧ Names code c := by
  have escaped (d : Char) (hnames : Names [d] c) :
      ∃ code, ['\\', d] = '\\' :: code ∧ Names code c := ⟨[d], rfl, hnames⟩
  unfold escapeChar
  split
  · next h => exact .inr (.inr (escaped 'b' (names_letter (by rw [h]; decide))))
  split
  · next h => exact .inr (.inr (escaped 't' (names_letter (by rw [h]; decide))))
  split
  · next h =>
    cases long with
    | true => exact .inr (.inl ⟨rfl, h, rfl⟩)
    | false => exact .inr (.inr (escaped 'n' (names_letter (by rw [h]; decide))))
  split
  · next h => exact .inr (.inr (escaped 'f' (names_letter (by rw [h]; decide))))
  split
  · next h => exact .inr (.inr (escaped 'r' (names_letter (by rw [h]; decide))))
  split
  · next h => exact .inr (.inr (escaped '\\' (names_letter (by rw [h]; decide))))
  next hbackslash =>
  split
  · next h =>
    refine .inr (.inr ⟨_, rfl, fun rest => ⟨?_, ?_⟩⟩)
    · have hcode := readCode_upperHex (n := c.toNat) (by omega) rest
      rw [Char.ofNat_toNat] at hcode
      exact hcode
    · exact continueLine?_cons_of_not_blank rfl (by decide) (by decide) _
  · next h =>
    refine .inl ⟨rfl, ?_, hbackslash⟩
    have hlow : 0x20 ≤ c.toNat := by omega
    have hdelete : c.toNat ≠ 0x7F := by omega
    simp [isPlain, hlow, hdelete]

theorem escapeFrom_cons_of_ne {long : Bool} {run : Nat} {c : Char} {s : List Char} (hc : c ≠ '"') :
    escapeFrom long run (c :: s) = escapeChar long c ++ escapeFrom long 0 s := by
  rw [escapeFrom]
  exact fun h => hc h

theorem names_quote : Names ['"'] '"' := names_letter (by decide)

/-! ## Strings on one line -/

theorem readOneLine_mark (mark : Char) (rest : List Char) :
    readOneLine mark (mark :: rest) = some ([], rest) := by
  rw [readOneLine, if_pos rfl]

theorem readOneLine_plain {mark c : Char} (hmark : c ≠ mark) (hescape : ¬(c = '\\' ∧ mark = '"'))
    (hplain : isPlain c = true) (rest : List Char) :
    readOneLine mark (c :: rest) = prepend c (readOneLine mark rest) := by
  rw [readOneLine, if_neg hmark, if_neg hescape, if_pos hplain]

theorem readOneLine_escape {code : List Char} {c : Char} (h : Names code c) (rest : List Char) :
    readOneLine '"' ('\\' :: (code ++ rest)) = prepend c (readOneLine '"' rest) := by
  rw [readOneLine, if_neg (by decide), if_pos ⟨rfl, rfl⟩]
  split
  · next hnone => rw [(h rest).1] at hnone; cases hnone
  · next hsome =>
    rw [(h rest).1, Option.some.injEq, Prod.mk.injEq] at hsome
    rw [hsome.1, hsome.2]

theorem readOneLine_escapeFrom (s rest : List Char) :
    readOneLine '"' (escapeFrom false 0 s ++ '"' :: rest) = some (s, rest) := by
  induction s with
  | nil => exact readOneLine_mark '"' rest
  | cons c s ih =>
    by_cases hquote : c = '"'
    · subst hquote
      have h : escapeFrom false 0 ('"' :: s) = '\\' :: (['"'] ++ escapeFrom false 0 s) := rfl
      rw [h, List.cons_append, List.append_assoc, readOneLine_escape names_quote, ih]
      rfl
    · rw [escapeFrom_cons_of_ne hquote, List.append_assoc]
      rcases escapeChar_cases false c with
        ⟨hself, hplain, hc⟩ | ⟨hlong, -, -⟩ | ⟨code, hcode, hnames⟩
      · rw [hself, List.singleton_append,
          readOneLine_plain hquote (fun hand => hc hand.1) hplain, ih]
        rfl
      · cases hlong
      · rw [hcode, List.cons_append, readOneLine_escape hnames, ih]
        rfl

theorem readOneLine_self {mark : Char} (hmark : mark ≠ '"') {s : List Char}
    (hs : ∀ c ∈ s, c ≠ mark ∧ isPlain c = true) (rest : List Char) :
    readOneLine mark (s ++ mark :: rest) = some (s, rest) := by
  induction s with
  | nil => exact readOneLine_mark mark rest
  | cons c s ih =>
    obtain ⟨hc, hplain⟩ := hs c List.mem_cons_self
    rw [List.cons_append, readOneLine_plain hc (fun hand => hmark hand.2) hplain,
      ih fun d hd => hs d (List.mem_cons_of_mem c hd)]
    rfl

end AccountAdmin.Toml
