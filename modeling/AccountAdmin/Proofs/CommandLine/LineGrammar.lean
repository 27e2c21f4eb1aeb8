import AccountAdmin.CommandLine.Words

/-!
# The grammar of a line

What a line says can be told without going through it character by character.  A line is a row of
words with blanks between them, and perhaps before the first and behind the last; a word is a row of
parts without a gap; and a part is either a character that is neither a blank nor a quote, or a run
between two quotes of one kind, in which everything but that kind of quote may stand.  `Part`,
`Written`, `Row` and `Reads` are these four levels, from the inside to the outside.  A run may be
empty, so a word may be too, but it cannot be without a part.

## Both directions

That the grammar is followed is one lemma for each level: a part in front of any text adds its
content to the word (`inside_part`), so does a row of parts (`inside_parts`), and a word in front of
any text is complete as soon as the text begins with a blank or is over (`between_written`).

That nothing else is accepted goes by the length of the text.  From inside of a word the text
continues with parts and then with something that may follow a word, which is `Follows`: nothing but
blanks, or at least one blank and more words.  A quoted run takes several characters at once, so the
recursion is not on the text itself.

* `between_eq_some_iff`: outside of words exactly what has a reading is accepted, and what is found
  are the words of the reading.
-/

namespace AccountAdmin

namespace Words

/-! ## Parts and words -/

/-- A part of a word: a character as it stands, or a run between two quotes of one kind. -/
inductive Part where
  | bare (c : Char) (hblank : Text.isBlank c = false) (hquote : isQuote c = false)
  | run (mark : Char) (cs : List Char) (hmark : isQuote mark = true) (hcs : mark ∉ cs)

/-- The part as it is typed. -/
def Part.text : Part → List Char
  | bare c _ _ => [c]
  | run mark cs _ _ => mark :: (cs ++ [mark])

/-- What the part adds to the word. -/
def Part.content : Part → List Char
  | bare c _ _ => [c]
  | run _ cs _ _ => cs

/-- A word as it is typed: parts without a gap between them, at least one. -/
@[ext] structure Written where
  parts : List Part
  ne_nil : parts ≠ []

/-- The word as it is typed. -/
def Written.text (w : Written) : List Char := w.parts.flatMap Part.text

/-- The word itself. -/
def Written.content (w : Written) : List Char := w.parts.flatMap Part.content

/-! ## Lines -/

/-- Nothing but blanks. -/
def Blanks (s : List Char) : Prop := ∀ c ∈ s, Text.isBlank c = true

/-- Words, at least one, with at least one blank between two of them. -/
inductive Row : List Written → List Char → Prop where
  | last (w : Written) : Row [w] w.text
  | more (w : Written) {gap text : List Char} {ws : List Written} (hgap : Blanks gap)
      (hne : gap ≠ []) (hrest : Row ws text) : Row (w :: ws) (w.text ++ (gap ++ text))

/-- The line says these words: there are none in it, or there are blanks around a row of them. -/
inductive Reads : List Written → List Char → Prop where
  | blank {gap : List Char} (hgap : Blanks gap) : Reads [] gap
  | row {lead text trail : List Char} {ws : List Written} (hlead : Blanks lead)
      (hrow : Row ws text) (htrail : Blanks trail) : Reads ws (lead ++ (text ++ trail))

/-- The text says these words, and it may stand behind another word. -/
inductive Follows : List Written → List Char → Prop where
  | blank {gap : List Char} (hgap : Blanks gap) : Follows [] gap
  | row {lead text trail : List Char} {ws : List Written} (hlead : Blanks lead) (hne : lead ≠ [])
      (hrow : Row ws text) (htrail : Blanks trail) : Follows ws (lead ++ (text ++ trail))

theorem blanks_nil : Blanks [] := fun _ h => nomatch h

theorem Blanks.cons {c : Char} {s : List Char} (hc : Text.isBlank c = true) (hs : Blanks s) :
    Blanks (c :: s) :=
  List.forall_mem_cons.2 ⟨hc, hs⟩

theorem isQuote_of_isBlank {c : Char} (hc : Text.isBlank c = true) : isQuote c = false := by
  cases hquote : isQuote c with
  | false => rfl
  | true =>
    rw [isQuote, Bool.or_eq_true, beq_iff_eq, beq_iff_eq] at hquote
    rcases hquote with rfl | rfl
    · exact absurd hc (by decide)
    · exact absurd hc (by decide)

/-! ## What is grammatical is accepted -/

/-- Puts some characters in front of the rest of a word. -/
def extend (cs : List Char) (r : List Char × List (List Char)) : List Char × List (List Char) :=
  (cs ++ r.1, r.2)

theorem map_extend_extend (cs ds : List Char) (o : Option (List Char × List (List Char))) :
    (o.map (extend ds)).map (extend cs) = o.map (extend (cs ++ ds)) := by
  rw [Option.map_map]
  congr 1
  funext r
  rw [Function.comp_apply, extend, extend, extend, List.append_assoc]

theorem quoted_run {mark : Char} {cs : List Char} (hcs : mark ∉ cs) (rest : List Char) :
    quoted mark (cs ++ mark :: rest) = (inside rest).map (extend cs) := by
  induction cs with
  | nil =>
    rw [List.nil_append, quoted, if_pos rfl]
    exact Option.map_id'.symm
  | cons c cs ih =>
    rw [List.mem_cons, not_or] at hcs
    rw [List.cons_append, quoted, if_neg (Ne.symm hcs.1), ih hcs.2]
    exact map_extend_extend [c] cs (inside rest)

theorem inside_part (p : Part) (rest : List Char) :
    inside (p.text ++ rest) = (inside rest).map (extend p.content) := by
  cases p with
  | bare c hblank hquote =>
    rw [Part.text, List.singleton_append, inside, if_neg (by simp [hquote]),
      if_neg (by simp [hblank])]
    rfl
  | run mark cs hmark hcs =>
    rw [Part.text, List.cons_append, List.append_assoc, List.singleton_append, inside, if_pos hmark,
      quoted_run hcs]
    rfl

theorem inside_parts (ps : List Part) (rest : List Char) :
    inside (ps.flatMap Part.text ++ rest) =
      (inside rest).map (extend (ps.flatMap Part.content)) := by
  induction ps with
  | nil => exact Option.map_id'.symm
  | cons p ps ih =>
    rw [List.flatMap_cons, List.flatMap_cons, List.append_assoc, inside_part, ih,
      map_extend_extend]

/-- Outside of a word a character that is no blank is read like inside, and the word is complete
where it ends. -/
theorem between_cons {c : Char} (hblank : Text.isBlank c = false) (s : List Char) :
    between (c :: s) = (inside (c :: s)).map close := by
  have hblank' : ¬ Text.isBlank c = true := by simp [hblank]
  rw [between, inside, if_neg hblank', if_neg hblank']
  by_cases hquote : isQuote c = true
  · rw [if_pos hquote, if_pos hquote]
  · rw [if_neg hquote, if_neg hquote, Option.map_map]
    rfl

/-- A part begins with a character that is no blank. -/
theorem Part.text_eq_cons (p : Part) : ∃ c s, p.text = c :: s ∧ Text.isBlank c = false := by
  cases p with
  | bare c hblank _ => exact ⟨c, [], rfl, hblank⟩
  | run mark cs hmark hcs =>
    refine ⟨mark, cs ++ [mark], rfl, ?_⟩
    cases hblank : Text.isBlank mark with
    | false => rfl
    | true =>
      rw [isQuote_of_isBlank hblank] at hmark
      cases hmark

theorem between_written (w : Written) (rest : List Char) :
    between (w.text ++ rest) = (inside rest).map fun r => (w.content ++ r.1) :: r.2 := by
  obtain ⟨parts, hne⟩ := w
  obtain ⟨p, ps, rfl⟩ := List.exists_cons_of_ne_nil hne
  obtain ⟨c, t, htext, hblank⟩ := p.text_eq_cons
  have hinside := inside_parts (p :: ps) rest
  rw [List.flatMap_cons, htext, List.append_assoc, List.cons_append] at hinside
  rw [Written.text, Written.content, List.flatMap_cons, htext, List.append_assoc, List.cons_append,
    between_cons hblank, hinside, Option.map_map]
  rfl

theorem between_blanks {gap : List Char} (hgap : Blanks gap) (rest : List Char) :
    between (gap ++ rest) = between rest := by
  induction gap with
  | nil => rfl
  | cons c gap ih =>
    obtain ⟨hc, hgap⟩ := List.forall_mem_cons.1 hgap
    rw [List.cons_append, between, if_neg (by simp [isQuote_of_isBlank hc]), if_pos hc, ih hgap]

/-- A blank ends the word. -/
theorem inside_blanks {gap : List Char} (hgap : Blanks gap) (hne : gap ≠ []) (rest : List Char) :
    inside (gap ++ rest) = (between rest).map fun words => ([], words) := by
  obtain ⟨c, gap, rfl⟩ := List.exists_cons_of_ne_nil hne
  obtain ⟨hc, hgap⟩ := List.forall_mem_cons.1 hgap
  rw [List.cons_append, inside, if_neg (by simp [isQuote_of_isBlank hc]), if_pos hc,
    between_blanks hgap]

theorem between_of_blanks {gap : List Char} (hgap : Blanks gap) : between gap = some [] := by
  have h := between_blanks hgap []
  rw [List.append_nil] at h
  exact h

theorem inside_of_blanks {gap : List Char} (hgap : Blanks gap) : inside gap = some ([], []) := by
  by_cases hne : gap = []
  · rw [hne]
    rfl
  · have h := inside_blanks hgap hne []
    rw [List.append_nil] at h
    rw [h]
    rfl

theorem between_row {ws : List Written} {text : List Char} (h : Row ws text) {trail : List Char}
    (htrail : Blanks trail) : between (text ++ trail) = some (ws.map Written.content) := by
  induction h with
  | last w =>
    rw [between_written, inside_of_blanks htrail, Option.map_some, List.append_nil]
    rfl
  | more w hgap hne _ ih =>
    rw [List.append_assoc, List.append_assoc, between_written, inside_blanks hgap hne, ih,
      Option.map_some, Option.map_some, List.append_nil]
    rfl

theorem between_of_reads {ws : List Written} {s : List Char} (h : Reads ws s) :
    between s = some (ws.map Written.content) := by
  cases h with
  | blank hgap => exact between_of_blanks hgap
  | row hlead hrow htrail => rw [between_blanks hlead, between_row hrow htrail]

/-! ## Nothing else is accepted -/

theorem Follows.reads {ws : List Written} {s : List Char} (h : Follows ws s) : Reads ws s := by
  cases h with
  | blank hgap => exact .blank hgap
  | row hlead _ hrow htrail => exact .row hlead hrow htrail

theorem Reads.blank_cons {ws : List Written} {s : List Char} (h : Reads ws s) {c : Char}
    (hc : Text.isBlank c = true) : Follows ws (c :: s) := by
  cases h with
  | blank hgap => exact .blank (hgap.cons hc)
  | @row lead text trail _ hlead hrow htrail =>
    have hassoc : c :: (lead ++ (text ++ trail)) = (c :: lead) ++ (text ++ trail) := rfl
    rw [hassoc]
    exact .row (hlead.cons hc) (List.cons_ne_nil c lead) hrow htrail

/-- A word in front of what may follow it. -/
theorem Follows.word {ws : List Written} {s : List Char} (h : Follows ws s) (w : Written) :
    Reads (w :: ws) (w.text ++ s) := by
  cases h with
  | blank hgap => exact .row blanks_nil (.last w) hgap
  | @row lead text trail _ hlead hne hrow htrail =>
    have hassoc : w.text ++ (lead ++ (text ++ trail)) = w.text ++ (lead ++ text) ++ trail := by
      simp only [List.append_assoc]
    rw [hassoc]
    exact .row blanks_nil (.more w hlead hne hrow) htrail

/-- From inside of quotes on, there is a run up to the closing quote, and the word goes on. -/
theorem quoted_eq_some {mark : Char} {s : List Char} {r : List Char × List (List Char)}
    (h : quoted mark s = some r) :
    ∃ cs rest r',
      s = cs ++ mark :: rest ∧ mark ∉ cs ∧ inside rest = some r' ∧ r = extend cs r' := by
  induction s generalizing r with
  | nil => cases h
  | cons c s ih =>
    rw [quoted] at h
    by_cases hc : c = mark
    · rw [if_pos hc] at h
      exact ⟨[], s, r, by rw [hc]; rfl, List.not_mem_nil, h, rfl⟩
    · rw [if_neg hc, Option.map_eq_some_iff] at h
      obtain ⟨r₁, hr₁, rfl⟩ := h
      obtain ⟨cs, rest, r', rfl, hcs, hr', rfl⟩ := ih hr₁
      refine ⟨c :: cs, rest, r', rfl, ?_, hr', rfl⟩
      rw [List.mem_cons, not_or]
      exact ⟨Ne.symm hc, hcs⟩

/-- What is read from inside of a word: the parts of its rest, and the words that follow. -/
structure Continues (s : List Char) (r : List Char × List (List Char)) (ps : List Part)
    (ws : List Written) : Prop where
  text : ∃ rest, s = ps.flatMap Part.text ++ rest ∧ Follows ws rest
  content : r = (ps.flatMap Part.content, ws.map Written.content)

theorem Continues.part {s : List Char} {r : List Char × List (List Char)} {ps : List Part}
    {ws : List Written} (h : Continues s r ps ws) (p : Part) :
    Continues (p.text ++ s) (extend p.content r) (p :: ps) ws := by
  obtain ⟨⟨rest, rfl, hrest⟩, rfl⟩ := h
  exact ⟨⟨rest, by rw [List.flatMap_cons, List.append_assoc], hrest⟩, rfl⟩

/-- Parts, at least one, and the words that follow make up a line. -/
theorem Continues.reads {s : List Char} {r : List Char × List (List Char)} {p : Part}
    {ps : List Part} {ws : List Written} (h : Continues s r (p :: ps) ws) :
    ∃ ws, Reads ws s ∧ ws.map Written.content = close r := by
  obtain ⟨⟨rest, rfl, hrest⟩, rfl⟩ := h
  exact ⟨⟨p :: ps, List.cons_ne_nil p ps⟩ :: ws, hrest.word _, rfl⟩

/-- Inside of a word a character that is no blank begins a part. -/
theorem exists_part {c : Char} {s : List Char} {r : List Char × List (List Char)}
    (hblank : Text.isBlank c = false) (h : inside (c :: s) = some r) :
    ∃ (p : Part) (rest : List Char) (r' : List Char × List (List Char)),
      c :: s = p.text ++ rest ∧ rest.length < (c :: s).length ∧ inside rest = some r' ∧
      r = extend p.content r' := by
  rw [inside] at h
  by_cases hquote : isQuote c = true
  · rw [if_pos hquote] at h
    obtain ⟨cs, rest, r', rfl, hcs, hr', rfl⟩ := quoted_eq_some h
    refine ⟨.run c cs hquote hcs, rest, r', ?_, ?_, hr', rfl⟩
    · rw [Part.text, List.cons_append, List.append_assoc, List.singleton_append]
    · rw [List.length_cons, List.length_append, List.length_cons]
      omega
  · rw [if_neg hquote, if_neg (by simp [hblank]), Option.map_eq_some_iff] at h
    obtain ⟨r', hr', rfl⟩ := h
    refine ⟨.bare c hblank (by simpa using hquote), s, r', rfl, ?_, hr', rfl⟩
    rw [List.length_cons]
    omega

mutual

/-- What is read from inside of a word is grammatical. -/
theorem continues_of_inside {s : List Char} {r : List Char × List (List Char)}
    (h : inside s = some r) : ∃ ps ws, Continues s r ps ws := by
  cases s with
  | nil =>
    cases h
    exact ⟨[], [], ⟨[], rfl, .blank blanks_nil⟩, rfl⟩
  | cons c s =>
    cases hblank : Text.isBlank c with
    | true =>
      have hend := inside_blanks (blanks_nil.cons hblank) (List.cons_ne_nil c []) s
      rw [List.singleton_append, h] at hend
      obtain ⟨words, hwords, rfl⟩ := Option.map_eq_some_iff.1 hend.symm
      obtain ⟨ws, hws, rfl⟩ := reads_of_between hwords
      exact ⟨[], ws, ⟨c :: s, rfl, hws.blank_cons hblank⟩, rfl⟩
    | false =>
      obtain ⟨p, rest, r', hs, hlength, hr', rfl⟩ := exists_part hblank h
      obtain ⟨ps, ws, hps⟩ := continues_of_inside hr'
      rw [hs]
      exact ⟨p :: ps, ws, hps.part p⟩
termination_by s.length

/-- What is read from outside of a word is grammatical. -/
theorem reads_of_between {s : List Char} {words : List (List Char)} (h : between s = some words) :
    ∃ ws, Reads ws s ∧ ws.map Written.content = words := by
  cases s with
  | nil =>
    cases h
    exact ⟨[], .blank blanks_nil, rfl⟩
  | cons c s =>
    cases hblank : Text.isBlank c with
    | true =>
      have hskip := between_blanks (blanks_nil.cons hblank) s
      rw [List.singleton_append, h] at hskip
      obtain ⟨ws, hws, hwords⟩ := reads_of_between hskip.symm
      exact ⟨ws, (hws.blank_cons hblank).reads, hwords⟩
    | false =>
      rw [between_cons hblank, Option.map_eq_some_iff] at h
      obtain ⟨r, hr, rfl⟩ := h
      obtain ⟨p, rest, r', hs, hlength, hr', rfl⟩ := exists_part hblank hr
      obtain ⟨ps, ws, hps⟩ := continues_of_inside hr'
      rw [hs]
      exact (hps.part p).reads
termination_by s.length

end

/-- Outside of words exactly what is grammatical is accepted. -/
theorem between_eq_some_iff {s : List Char} {words : List (List Char)} :
    between s = some words ↔ ∃ ws, Reads ws s ∧ ws.map Written.content = words := by
  constructor
  · exact reads_of_between
  · rintro ⟨ws, hws, rfl⟩
    exact between_of_reads hws

end Words

end AccountAdmin
