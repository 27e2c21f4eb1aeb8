import AccountAdmin.Proofs.Toml.Escape

/-!
# Quoted texts read back

Whatever form `styleOf` picks for a text, the reader of strings finds that text and stops right
behind it (`readString?_quoted`).

On one line the two directions agree character by character.  On several lines they do not: what a
quote means there depends on how many quotes stand around it.  The relation `Stands` sits between
the two directions.  It says which inner parts stand for which texts behind a number of quotes that
are not decided yet.  The writer only produces inner parts of that kind (`stands_escapeFrom`,
`stands_self`), and the reader takes each of them back (`Stands.readManyLines_eq`).

* `Piece`, `Stands`: the inner parts of strings on several lines.
-/

namespace AccountAdmin.Toml

open AccountAdmin.Text

/-! ## Strings on several lines -/

/-- A character other than the mark with what follows it, which the reader takes for one character
of the text. -/
def Piece (mark : Char) (piece : List Char) (c : Char) : Prop :=
  ∃ d code, piece = d :: code ∧ d ≠ mark ∧
    ∀ rest, readManyLines mark (d :: (code ++ rest)) = prepend c (readManyLines mark rest)

theorem readManyLines_of_ne {mark c : Char} (hmark : c ≠ mark) (rest : List Char) :
    readManyLines mark (c :: rest) =
      if c = '\\' ∧ mark = '"' then
        match continueLine? rest with
        | some rest => readManyLines mark rest
        | none =>
          match readEscape rest with
          | none => none
          | some (e, rest) => prepend e (readManyLines mark rest)
      else
        match newline? (c :: rest) with
        | some rest => prepend '\n' (readManyLines mark rest)
        | none => if isPlain c then prepend c (readManyLines mark rest) else none := by
  rw [readManyLines.eq_def]
  dsimp only
  rw [if_neg hmark]
  split
  · split
    · next h => rw [h]
    · next h =>
      rw [h]
      split
      · next he => rw [he]
      · next he => rw [he]
  · split
    · next h => rw [h]
    · next h => rw [h]

theorem piece_plain {mark c : Char} (hmark : c ≠ mark) (hescape : ¬(c = '\\' ∧ mark = '"'))
    (hplain : isPlain c = true) : Piece mark [c] c := by
  refine ⟨c, [], rfl, hmark, fun rest => ?_⟩
  have hnewline : newline? (c :: rest) = none := by
    unfold newline?
    split
    · next heq => rw [(List.cons.inj heq).1] at hplain; cases hplain
    · next heq => rw [(List.cons.inj heq).1] at hplain; cases hplain
    · rfl
  rw [List.nil_append, readManyLines_of_ne hmark, if_neg hescape, hnewline]
  exact if_pos hplain

theorem piece_lineFeed {mark : Char} (hmark : '\n' ≠ mark) : Piece mark ['\n'] '\n' := by
  refine ⟨'\n', [], rfl, hmark, fun rest => ?_⟩
  rw [List.nil_append, readManyLines_of_ne hmark, if_neg fun hand => absurd hand.1 (by decide)]
  rfl

theorem piece_escape {code : List Char} {c : Char} (h : Names code c) :
    Piece '"' ('\\' :: code) c := by
  refine ⟨'\\', code, rfl, by decide, fun rest => ?_⟩
  rw [readManyLines_of_ne (by decide), if_pos ⟨rfl, rfl⟩, (h rest).2, (h rest).1]

/-- `Stands mark run inner s`: behind `run` marks that are not decided yet, the inner part `inner`
stands for the text `s`. -/
inductive Stands (mark : Char) : Nat → List Char → List Char → Prop where
  | nil {run : Nat} (hrun : run ≤ 2) : Stands mark run [] []
  | mark {run : Nat} {inner s : List Char} (hrun : run < 2) (h : Stands mark (run + 1) inner s) :
    Stands mark run (mark :: inner) (mark :: s)
  | piece {run : Nat} {inner s piece : List Char} {c : Char} (hrun : run ≤ 2)
    (hpiece : Piece mark piece c) (h : Stands mark 0 inner s) :
    Stands mark run (piece ++ inner) (c :: s)

/-- The marks that belong to the text at its end are told from the closing ones by their number. -/
theorem readManyLines_close {mark : Char} {run : Nat} (hrun : run ≤ 2) {rest : List Char}
    (hrest : rest.head? ≠ some mark) :
    readManyLines mark (List.replicate run mark ++ (mark :: mark :: mark :: rest)) =
      some (List.replicate run mark, rest) := by
  have hend : rest.takeWhile (· == mark) = [] := by
    cases rest with
    | nil => rfl
    | cons c rest =>
      have hc : c ≠ mark := fun h => hrest (congrArg some h)
      rw [List.takeWhile_cons_of_neg (by simpa using hc)]
  have hmarks : List.replicate run mark ++ (mark :: mark :: mark :: rest) =
      mark :: mark :: mark :: (List.replicate run mark ++ rest) := by
    have : mark :: mark :: mark :: rest = List.replicate 3 mark ++ rest := rfl
    rw [this, ← List.append_assoc, List.replicate_append_replicate, Nat.add_comm,
      ← List.replicate_append_replicate, List.append_assoc]
    rfl
  have htake :
      (List.replicate run mark ++ rest).takeWhile (· == mark) = List.replicate run mark := by
    rw [List.takeWhile_append_of_pos fun c hc => by simp [List.eq_of_mem_replicate hc], hend,
      List.append_nil]
  rw [hmarks, readManyLines, if_pos rfl]
  simp only [and_self, if_true, htake, List.length_replicate, Nat.min_eq_right hrun]
  rw [List.drop_left' List.length_replicate]

/-- Up to two marks before another character belong to the text. -/
theorem readManyLines_marks {mark x y : Char} {run : Nat} (hrun : run ≤ 2) (hx : x ≠ mark)
    (rest : List Char) :
    readManyLines mark (List.replicate run mark ++ (x :: y :: rest)) =
      (readManyLines mark (x :: y :: rest)).map fun read =>
        (List.replicate run mark ++ read.1, read.2) := by
  have hone (z w : Char) (more : List Char) (hzw : ¬(z = mark ∧ w = mark)) :
      readManyLines mark (mark :: z :: w :: more) =
        prepend mark (readManyLines mark (z :: w :: more)) := by
    rw [readManyLines, if_pos rfl]
    exact if_neg hzw
  have hcases : run = 0 ∨ run = 1 ∨ run = 2 := by omega
  rcases hcases with rfl | rfl | rfl
  · simp
  · exact hone x y rest fun h => hx h.1
  · have hsecond := hone mark x (y :: rest) fun h => hx h.2
    have hfirst := hone x y rest fun h => hx h.1
    simp only [List.replicate_succ, List.replicate_zero, List.cons_append, List.nil_append]
    rw [hsecond, hfirst]
    simp [prepend, Function.comp_def]

theorem Stands.readManyLines_eq {mark : Char} {run : Nat} {inner s : List Char}
    (h : Stands mark run inner s) (rest : List Char) (hrest : rest.head? ≠ some mark) :
    readManyLines mark (List.replicate run mark ++ (inner ++ mark :: mark :: mark :: rest)) =
      some (List.replicate run mark ++ s, rest) := by
  induction h with
  | nil hrun => rw [List.nil_append, List.append_nil, readManyLines_close hrun hrest]
  | @mark run inner s _ _ ih =>
    rw [List.replicate_succ', List.append_assoc, List.append_assoc] at ih
    exact ih
  | @piece run inner s piece c hrun hpiece _ ih =>
    obtain ⟨d, code, hd, hmark, hread⟩ := hpiece
    rw [List.replicate_zero, List.nil_append, List.nil_append] at ih
    obtain ⟨y, more, hmore⟩ : ∃ y more,
        code ++ (inner ++ mark :: mark :: mark :: rest) = y :: more := by
      rcases hcode : code ++ (inner ++ mark :: mark :: mark :: rest) with _ | ⟨y, more⟩
      · simp at hcode
      · exact ⟨y, more, rfl⟩
    have hpiece := hread (inner ++ mark :: mark :: mark :: rest)
    rw [hmore, ih] at hpiece
    rw [hd, List.append_assoc, List.cons_append, hmore, readManyLines_marks hrun hmark, hpiece]
    rfl

/-- What is written between three double quotes stands for the text. -/
theorem stands_escapeFrom (s : List Char) :
    ∀ run ≤ 2, Stands '"' run (escapeFrom true run s) s := by
  induction s with
  | nil => exact fun run hrun => .nil hrun
  | cons c s ih =>
    intro run hrun
    by_cases hquote : c = '"'
    · subst hquote
      rw [escapeFrom, if_pos rfl]
      by_cases hlt : run < 2
      · rw [if_pos hlt]
        exact .mark hlt (ih (run + 1) hlt)
      · rw [if_neg hlt]
        exact .piece hrun (piece_escape names_quote) (ih 0 (by omega))
    · rw [escapeFrom_cons_of_ne hquote]
      refine .piece hrun ?_ (ih 0 (by omega))
      rcases escapeChar_cases true c with
        ⟨hself, hplain, hc⟩ | ⟨-, rfl, hline⟩ | ⟨code, hcode, hnames⟩
      · rw [hself]
        exact piece_plain hquote (fun hand => hc hand.1) hplain
      · rw [hline]
        exact piece_lineFeed (by decide)
      · rw [hcode]
        exact piece_escape hnames

/-! ## Runs of quotes -/

theorem le_longestRunFrom (mark : Char) (s : List Char) :
    ∀ run, run ≤ longestRunFrom mark run s := by
  induction s with
  | nil => exact fun run => Nat.le_refl run
  | cons c s ih =>
    intro run
    rw [longestRunFrom]
    split
    · exact Nat.le_of_succ_le (ih (run + 1))
    · exact Nat.le_max_left _ _

theorem longestRunFrom_pos {mark : Char} {s : List Char} (h : mark ∈ s) :
    ∀ run, 0 < longestRunFrom mark run s := by
  induction s with
  | nil => cases h
  | cons c s ih =>
    intro run
    rw [longestRunFrom]
    split
    · exact Nat.lt_of_lt_of_le (Nat.succ_pos run) (le_longestRunFrom mark s (run + 1))
    · next hc =>
      have hmem : mark ∈ s := (List.mem_cons.1 h).resolve_left fun heq => hc heq.symm
      exact Nat.lt_of_lt_of_le (ih hmem 0) (Nat.le_max_right _ _)

theorem ne_of_isPlain {c : Char} (h : isPlain c = true) : c ≠ '\n' ∧ c ≠ '\r' := by
  constructor
  · rintro rfl
    cases h
  · rintro rfl
    cases h

theorem isPlain_of_not_isControl {c : Char} (hcontrol : isControl c = false) (hline : c ≠ '\n') :
    isPlain c = true := by
  by_cases htab : c = '\t'
  · rw [htab]
    rfl
  · simp only [isControl, Bool.or_eq_false_iff, Bool.and_eq_false_iff, decide_eq_false_iff_not,
      bne_eq_false_iff_eq, beq_eq_false_iff_ne] at hcontrol
    have hlow : 0x20 ≤ c.toNat := by
      rcases hcontrol.1 with (h | h) | h
      · exact Nat.le_of_not_lt h
      · exact absurd h htab
      · exact absurd h hline
    simp [isPlain, hlow, hcontrol.2]

/-- A text without controls and long runs of single quotes stands for itself. -/
theorem stands_self (mark : Char) (hmark : mark ≠ '"') (hline : '\n' ≠ mark) {s : List Char}
    (hcontrol : ∀ c ∈ s, isControl c = false) :
    ∀ run, longestRunFrom mark run s ≤ 2 → Stands mark run s s := by
  induction s with
  | nil => exact fun run hrun => .nil hrun
  | cons c s ih =>
    intro run hrun
    have ih := ih fun d hd => hcontrol d (List.mem_cons_of_mem c hd)
    rw [longestRunFrom] at hrun
    by_cases hc : c = mark
    · rw [if_pos hc] at hrun
      rw [hc]
      have hlt : run + 1 ≤ 2 := Nat.le_trans (le_longestRunFrom mark s (run + 1)) hrun
      exact .mark hlt (ih (run + 1) hrun)
    · rw [if_neg hc] at hrun
      have hpiece : Piece mark [c] c := by
        by_cases hfeed : c = '\n'
        · rw [hfeed]
          exact piece_lineFeed hline
        · have hplain := isPlain_of_not_isControl (hcontrol c List.mem_cons_self) hfeed
          exact piece_plain hc (fun hand => hmark hand.2) hplain
      have hbehind : Stands mark 0 s s := ih 0 (by omega)
      exact .piece (by omega) hpiece hbehind

/-! ## Strings of any form -/

theorem readString?_of_ne {mark c : Char} (hc : c ≠ mark) (rest : List Char) :
    readString? (mark :: c :: rest) = readQuoted? (mark :: c :: rest) := by
  unfold readString?
  split
  · next h =>
    simp only [List.cons.injEq] at h
    exact absurd (h.2.1.trans h.1.symm) hc
  · next h =>
    simp only [List.cons.injEq] at h
    exact absurd (h.2.1.trans h.1.symm) hc
  · rfl

/-- Two quotes are an empty string when no third one follows. -/
theorem readString?_empty {mark c : Char} (hc : c ≠ mark) (rest : List Char) :
    readString? (mark :: mark :: c :: rest) = readQuoted? (mark :: mark :: c :: rest) := by
  unfold readString?
  split
  · next h =>
    simp only [List.cons.injEq] at h
    exact absurd (h.2.2.1.trans h.1.symm) hc
  · next h =>
    simp only [List.cons.injEq] at h
    exact absurd (h.2.2.1.trans h.1.symm) hc
  · rfl

/-- A string on one line is not taken for one on several, whatever its inner part. -/
theorem readString?_one_line {mark : Char} (hline : '\n' ≠ mark) {inner : List Char}
    (hinner : inner.head? ≠ some mark) (rest : List Char) :
    readString? (mark :: (inner ++ mark :: '\n' :: rest)) =
      readQuoted? (mark :: (inner ++ mark :: '\n' :: rest)) := by
  cases inner with
  | nil => exact readString?_empty hline rest
  | cons c inner => exact readString?_of_ne (fun h => hinner (congrArg some h)) _

/-- An inner part with escapes starts with an escape, or as its text does. -/
theorem head?_escapeFrom {long : Bool} {s : List Char} {d : Char}
    (h : (escapeFrom long 0 s).head? = some d) :
    d = '\\' ∨ (d ∈ s ∧ d ≠ '\r' ∧ (d = '"' → long = true)) := by
  cases s with
  | nil => cases h
  | cons c s =>
    by_cases hquote : c = '"'
    · subst hquote
      cases long with
      | true =>
        have hd : '"' = d := Option.some.inj h
        exact .inr ⟨hd ▸ List.mem_cons_self, hd ▸ by decide, fun _ => rfl⟩
      | false => exact .inl (Option.some.inj h).symm
    · rw [escapeFrom_cons_of_ne hquote] at h
      rcases escapeChar_cases long c with ⟨hself, hplain, -⟩ | ⟨-, rfl, hline⟩ | ⟨code, hcode, -⟩
      · rw [hself] at h
        have hd : c = d := Option.some.inj h
        subst hd
        exact .inr ⟨List.mem_cons_self, (ne_of_isPlain hplain).2, fun heq => absurd heq hquote⟩
      · rw [hline] at h
        have hd : '\n' = d := Option.some.inj h
        subst hd
        exact .inr ⟨List.mem_cons_self, by decide, fun heq => absurd heq hquote⟩
      · rw [hcode] at h
        exact .inl (Option.some.inj h).symm

theorem readString?_basic (s rest : List Char) :
    readString? (quotedAs s .basic ++ '\n' :: rest) = some (s, '\n' :: rest) := by
  have hhead : (escapeFrom false 0 s).head? ≠ some '"' := by
    intro h
    rcases head?_escapeFrom h with hback | ⟨-, -, hlong⟩
    · cases hback
    · cases hlong rfl
  have htext : quotedAs s .basic ++ '\n' :: rest =
      '"' :: (escapeFrom false 0 s ++ '"' :: '\n' :: rest) := by
    simp [quotedAs]
  rw [htext, readString?_one_line (by decide) hhead]
  exact readOneLine_escapeFrom s ('\n' :: rest)

theorem readString?_literal {s : List Char} (hs : ∀ c ∈ s, c ≠ '\'' ∧ isPlain c = true)
    (rest : List Char) :
    readString? (quotedAs s .literal ++ '\n' :: rest) = some (s, '\n' :: rest) := by
  have hhead : s.head? ≠ some '\'' := fun h =>
    (hs '\'' (List.mem_of_mem_head? h)).1 rfl
  have htext : quotedAs s .literal ++ '\n' :: rest = '\'' :: (s ++ '\'' :: '\n' :: rest) := by
    simp [quotedAs]
  rw [htext, readString?_one_line (by decide) hhead]
  exact readOneLine_self (by decide) hs ('\n' :: rest)

theorem newline?_eq_none {s : List Char} (hline : s.head? ≠ some '\n')
    (hreturn : s.head? ≠ some '\r') : newline? s = none := by
  unfold newline?
  split
  · exact absurd rfl hline
  · exact absurd rfl hreturn
  · rfl

/-- Only the line feed behind the opening quotes is lost, and it is there for that purpose. -/
theorem readString?_between {mark : Char} (hmark : mark = '"' ∨ mark = '\'') {s inner : List Char}
    (hstands : Stands mark 0 inner s)
    (hhead : '\n' ∉ s → inner.head? ≠ some '\n' ∧ inner.head? ≠ some '\r') (rest : List Char) :
    readString? (between mark s inner ++ '\n' :: rest) = some (s, '\n' :: rest) := by
  have hfeed : '\n' ≠ mark := by rcases hmark with rfl | rfl <;> decide
  have hreturn : '\r' ≠ mark := by rcases hmark with rfl | rfl <;> decide
  have hbody := hstands.readManyLines_eq ('\n' :: rest) fun h => hfeed (Option.some.inj h)
  rw [List.replicate_zero, List.nil_append, List.nil_append] at hbody
  have hopen (more : List Char) : readString? (mark :: mark :: mark :: more) =
      readManyLines mark ((newline? more).getD more) := by
    rcases hmark with rfl | rfl <;> rfl
  have htext : between mark s inner ++ '\n' :: rest =
      mark :: mark :: mark :: ((if s.contains '\n' then ['\n'] else []) ++
        (inner ++ mark :: mark :: mark :: '\n' :: rest)) := by
    simp [between]
  rw [htext, hopen]
  by_cases hline : '\n' ∈ s
  · rw [if_pos (List.contains_iff_mem.2 hline)]
    exact hbody
  · have hnone : newline? (inner ++ mark :: mark :: mark :: '\n' :: rest) = none := by
      cases inner with
      | nil =>
        exact newline?_eq_none (fun h => hfeed (Option.some.inj h).symm)
          fun h => hreturn (Option.some.inj h).symm
      | cons c inner => exact newline?_eq_none (hhead hline).1 (hhead hline).2
    rw [if_neg fun hcontains => hline (List.contains_iff_mem.1 hcontains), List.nil_append, hnone]
    exact hbody

theorem readString?_longBasic (s rest : List Char) :
    readString? (quotedAs s .longBasic ++ '\n' :: rest) = some (s, '\n' :: rest) := by
  refine readString?_between (.inl rfl) (stands_escapeFrom s 0 (by omega)) (fun hline => ?_) rest
  constructor
  · intro h
    rcases head?_escapeFrom h with hback | ⟨hmem, -, -⟩
    · cases hback
    · exact hline hmem
  · intro h
    rcases head?_escapeFrom h with hback | ⟨-, hreturn, -⟩
    · cases hback
    · exact hreturn rfl

theorem readString?_longLiteral {s : List Char} (hcontrol : ∀ c ∈ s, isControl c = false)
    (hrun : longestRun '\'' s ≤ 2) (rest : List Char) :
    readString? (quotedAs s .longLiteral ++ '\n' :: rest) = some (s, '\n' :: rest) := by
  have hstands := stands_self '\'' (by decide) (by decide) hcontrol 0 hrun
  refine readString?_between (.inr rfl) hstands (fun hline => ?_) rest
  constructor
  · exact fun h => hline (List.mem_of_mem_head? h)
  · exact fun h => absurd (hcontrol '\r' (List.mem_of_mem_head? h)) (by decide)

/-- A text is read back from the form that was picked for it. -/
theorem readString?_quoted (s : String) (rest : List Char) :
    readString? (quoted s ++ '\n' :: rest) = some (s.toList, '\n' :: rest) := by
  have hplain (hcontrols : s.toList.any isControl = false) :
      ∀ c ∈ s.toList, isControl c = false := by
    intro c hc
    exact Bool.eq_false_iff.2 fun h => by
      rw [List.any_eq_false] at hcontrols
      exact hcontrols c hc h
  unfold quoted styleOf
  dsimp only
  split
  · exact readString?_basic s.toList rest
  split
  · next h =>
    simp only [Bool.and_eq_true, Bool.not_eq_true', beq_iff_eq] at h
    obtain ⟨⟨hcontrols, hlines⟩, hsingle⟩ := h
    refine readString?_literal (fun c hc => ⟨?_, ?_⟩) rest
    · rintro rfl
      have := longestRunFrom_pos hc 0
      rw [longestRun] at hsingle
      omega
    · refine isPlain_of_not_isControl (hplain hcontrols c hc) ?_
      rintro rfl
      rw [List.contains_iff_mem.2 hc] at hlines
      cases hlines
  split
  · exact readString?_longBasic s.toList rest
  split
  · next h =>
    simp only [Bool.and_eq_true, Bool.not_eq_true', decide_eq_true_eq] at h
    exact readString?_longLiteral (hplain h.1) h.2 rest
  split
  · exact readString?_longBasic s.toList rest
  · exact readString?_basic s.toList rest

end AccountAdmin.Toml
