import AccountAdmin.Proofs.Text.Encoding
import AccountAdmin.Toml.Reader

/-!
# Whole numbers read back

A number in decimal on its own in front of a line end is read as that number.  It is never taken for
a date or a time, since these need a mark behind their first digits (`readMoment_eq_none`), and the
digits are those of a signed 64-bit integer exactly when the number is small enough
(`readNumber_decimal`).
-/

namespace AccountAdmin.Toml

open AccountAdmin.Text

/-! ## Neither a date nor a time -/

theorem readFixed_digits {ds : List Char} (rest : List Char) {width n : Nat} {s : List Char}
    (h : readFixed width (ds ++ '\n' :: rest) = some (n, s)) :
    s = ds.drop width ++ '\n' :: rest := by
  unfold readFixed at h
  dsimp only at h
  split at h
  · next hall =>
    by_cases hwidth : width ≤ ds.length
    · rw [List.drop_append_of_le_length hwidth] at h
      exact (congrArg Prod.snd (Option.some.inj h)).symm
    · have hmem : '\n' ∈ (ds ++ '\n' :: rest).take width := by
        obtain ⟨more, hmore⟩ : ∃ more, width - ds.length = more + 1 :=
          ⟨width - ds.length - 1, by omega⟩
        rw [List.take_append, hmore, List.take_succ_cons]
        exact List.mem_append_right _ List.mem_cons_self
      have := List.all_eq_true.1 hall.2 '\n' hmem
      cases this
  · cases h

section Digits

variable {ds : List Char} (hds : ∀ c ∈ ds, isDigit 10 c = true) (rest : List Char)
include hds

theorem readMark_digits {mark : Char} (hmark : isDigit 10 mark = false) (hline : '\n' ≠ mark) :
    readMark mark (ds ++ '\n' :: rest) = none := by
  cases ds with
  | nil => exact if_neg hline
  | cons c ds => exact if_neg (ne_of_isDigit (hds c List.mem_cons_self) hmark)

theorem readMark_after_readFixed {width n : Nat} {s : List Char} (mark : Char)
    (h : readFixed width (ds ++ '\n' :: rest) = some (n, s)) (hmark : isDigit 10 mark = false)
    (hline : '\n' ≠ mark) : readMark mark s = none := by
  rw [readFixed_digits rest h]
  exact readMark_digits (fun c hc => hds c (List.mem_of_mem_drop hc)) rest hmark hline

theorem readDate_eq_none : readDate (ds ++ '\n' :: rest) = none := by
  rw [readDate]
  rcases h : readFixed 4 (ds ++ '\n' :: rest) with _ | ⟨year, s⟩
  · rfl
  · have hmark := readMark_after_readFixed hds rest '-' h rfl (by decide)
    simp [hmark]

theorem readTime_eq_none : readTime (ds ++ '\n' :: rest) = none := by
  rw [readTime, readPair]
  rcases h : readFixed 2 (ds ++ '\n' :: rest) with _ | ⟨hour, s⟩
  · rfl
  · have hmark := readMark_after_readFixed hds rest ':' h rfl (by decide)
    by_cases hbounds : hour ≤ 23
    · simp [Option.filter, hbounds, hmark]
    · simp [Option.filter, hbounds]

theorem readMoment_eq_none : readMoment (ds ++ '\n' :: rest) = none := by
  rw [readMoment, readDate_eq_none hds rest, readTime_eq_none hds rest]
  rfl

/-! ## The digits of a number -/

theorem readMoreDigits_digits :
    readMoreDigits 10 (ds ++ '\n' :: rest) = some (ds, '\n' :: rest) := by
  induction ds with
  | nil => rfl
  | cons c ds ih =>
    have hc := hds c List.mem_cons_self
    have hscore : c ≠ '_' := ne_of_isDigit hc rfl
    have ih := ih fun d hd => hds d (List.mem_cons_of_mem c hd)
    rw [List.cons_append, readMoreDigits]
    · rw [if_pos hc, ih]
      rfl
    · exact fun _ _ h => absurd h hscore
    · exact fun h => absurd h hscore

theorem readWhole_digits (hne : ds ≠ []) (hzero : ds.head? = some '0' → ds = ['0']) :
    readWhole (ds ++ '\n' :: rest) = some (ds, '\n' :: rest) := by
  cases ds with
  | nil => exact absurd rfl hne
  | cons c ds =>
    by_cases hc : c = '0'
    · subst hc
      rw [hzero rfl]
      rfl
    · have hdigit := hds c List.mem_cons_self
      rw [List.cons_append, readWhole, readDigits, if_pos hdigit]
      · exact readMoreDigits_digits hds rest
      · exact fun _ h => hc (List.cons.inj h).1

end Digits

theorem readDecimal_decimal {n : Nat} (h : n < 0x8000000000000000) (rest : List Char) :
    readDecimal false (decimal n ++ '\n' :: rest) = some (.integer n, '\n' :: rest) := by
  have hne : decimal n ≠ [] := by
    obtain ⟨c, ds, hdecimal, -, -⟩ := decimal_eq_cons n
    rw [hdecimal]
    exact List.cons_ne_nil c ds
  have hwhole := readWhole_digits (fun c hc => isDigit_of_mem_decimal hc) rest hne decimal_eq_zero
  have hvalue : ofParts? false (decimal n) none none = some (.integer n) := by
    have hrange : -0x8000000000000000 ≤ (n : Int) ∧ (n : Int) < 0x8000000000000000 := by omega
    rw [ofParts?, if_pos ⟨rfl, rfl⟩, natOfDigits_decimal]
    exact if_pos hrange
  have hfraction : readFraction ('\n' :: rest) = some (none, '\n' :: rest) := rfl
  have hexponent : readExponent ('\n' :: rest) = some (none, '\n' :: rest) := rfl
  simp only [readDecimal, hwhole, hfraction, hexponent, hvalue, Option.map_some]

/-- A digit is neither a sign nor the start of a word. -/
theorem readNumber_of_isDigit {c : Char} (hdigit : isDigit 10 c = true) (s : List Char)
    (hradix : c = '0' → s.head? ≠ some 'x' ∧ s.head? ≠ some 'o' ∧ s.head? ≠ some 'b') :
    readNumber (c :: s) = readDecimal false (c :: s) := by
  have hsign : readSign (c :: s) = (false, c :: s) := by
    unfold readSign
    split
    · next heq => exact absurd (List.cons.inj heq).1 (ne_of_isDigit hdigit rfl)
    · next heq => exact absurd (List.cons.inj heq).1 (ne_of_isDigit hdigit rfl)
    · rfl
  unfold readNumber
  split
  · next heq =>
    obtain ⟨hc, rfl⟩ := List.cons.inj heq
    exact absurd rfl (hradix hc).1
  · next heq =>
    obtain ⟨hc, rfl⟩ := List.cons.inj heq
    exact absurd rfl (hradix hc).2.1
  · next heq =>
    obtain ⟨hc, rfl⟩ := List.cons.inj heq
    exact absurd rfl (hradix hc).2.2
  · rw [hsign]
    split
    · next heq =>
      rw [Prod.mk.injEq, List.cons.injEq] at heq
      exact absurd heq.2.1 (ne_of_isDigit hdigit rfl)
    · next heq =>
      rw [Prod.mk.injEq, List.cons.injEq] at heq
      exact absurd heq.2.1 (ne_of_isDigit hdigit rfl)
    · next heq =>
      rw [Prod.mk.injEq] at heq
      rw [← heq.1, ← heq.2]

/-- A number in decimal is read back; a zero stands alone, so that no mark of a radix follows it. -/
theorem readNumber_decimal {n : Nat} (h : n < 0x8000000000000000) (rest : List Char) :
    readNumber (decimal n ++ '\n' :: rest) = some (.integer n, '\n' :: rest) := by
  have hread := readDecimal_decimal h rest
  obtain ⟨c, ds, hdecimal, hdigit, -⟩ := decimal_eq_cons n
  have hzero : c = '0' → ds = [] := by
    intro hc
    have halone := decimal_eq_zero (n := n) (by rw [hdecimal, hc]; rfl)
    rw [hdecimal] at halone
    exact (List.cons.inj halone).2
  rw [hdecimal, List.cons_append] at hread ⊢
  rw [readNumber_of_isDigit hdigit, hread]
  intro hc
  rw [hzero hc]
  have hline (d : Char) (hd : '\n' ≠ d) : ([] ++ '\n' :: rest).head? ≠ some d :=
    fun h => hd (Option.some.inj h)
  exact ⟨hline 'x' (by decide), hline 'o' (by decide), hline 'b' (by decide)⟩

end AccountAdmin.Toml
