import AccountAdmin.Proofs.CommandLine.LineGrammar

/-!
# A line has one reading

No part of a word is the beginning of another part.  So two rows of parts with the same text are the
same, if each of them ends where a blank follows or nothing does; and blanks end where a word
begins, so that two readings of a line agree from one end to the other (`Words.Reads.unique`).  This
is so for the parts and not only for the words they make.

* `line_grammar`: a line is split exactly as the grammar says, and is refused exactly if the grammar
  does not have it.
-/

namespace AccountAdmin

namespace Words

/-- The text does not go on with a word: it is over, or a blank comes next. -/
def Stops (s : List Char) : Prop := ∀ c ∈ s.head?, Text.isBlank c = true

theorem Blanks.stops {s : List Char} (h : Blanks s) : Stops s :=
  fun c hc => h c (List.mem_of_mem_head? hc)

theorem stops_gap {gap : List Char} (hgap : Blanks gap) (hne : gap ≠ []) (s : List Char) :
    Stops (gap ++ s) := by
  obtain ⟨c, gap, rfl⟩ := List.exists_cons_of_ne_nil hne
  exact hgap.stops

theorem not_stops_part (p : Part) (s : List Char) : ¬ Stops (p.text ++ s) := by
  obtain ⟨c, t, htext, hblank⟩ := p.text_eq_cons
  intro h
  rw [htext] at h
  rw [h c rfl] at hblank
  cases hblank

theorem not_stops_row {ws : List Written} {text : List Char} (h : Row ws text) (s : List Char) :
    ¬ Stops (text ++ s) := by
  have hword (w : Written) (t : List Char) : ¬ Stops (w.text ++ t) := by
    obtain ⟨parts, hne⟩ := w
    obtain ⟨p, ps, rfl⟩ := List.exists_cons_of_ne_nil hne
    rw [Written.text, List.flatMap_cons, List.append_assoc]
    exact not_stops_part p _
  cases h with
  | last w => exact hword w s
  | more w _ _ _ =>
    rw [List.append_assoc]
    exact hword w _

/-- A run ends at the first mark. -/
theorem run_append_inj {mark : Char} {cs ds : List Char} (hcs : mark ∉ cs) (hds : mark ∉ ds)
    {s t : List Char} (h : cs ++ mark :: s = ds ++ mark :: t) : cs = ds ∧ s = t := by
  induction cs generalizing ds with
  | nil =>
    cases ds with
    | nil => exact ⟨rfl, (List.cons.inj h).2⟩
    | cons d ds => exact absurd (List.mem_cons.2 (.inl (List.cons.inj h).1)) hds
  | cons c cs ih =>
    cases ds with
    | nil => exact absurd (List.mem_cons.2 (.inl (List.cons.inj h).1.symm)) hcs
    | cons d ds =>
      rw [List.mem_cons, not_or] at hcs hds
      obtain ⟨rfl, htail⟩ := List.cons.inj h
      obtain ⟨rfl, rfl⟩ := ih hcs.2 hds.2 htail
      exact ⟨rfl, rfl⟩

/-- No part is the beginning of another one. -/
theorem Part.text_append_inj {p q : Part} {s t : List Char} (h : p.text ++ s = q.text ++ t) :
    p = q ∧ s = t := by
  cases p with
  | bare c hblank hquote =>
    cases q with
    | bare d _ _ =>
      obtain ⟨rfl, rfl⟩ := List.cons.inj h
      exact ⟨rfl, rfl⟩
    | run mark ds hmark _ =>
      obtain ⟨rfl, -⟩ := List.cons.inj h
      rw [hquote] at hmark
      cases hmark
  | run mark cs hmark hcs =>
    cases q with
    | bare d _ hquote =>
      obtain ⟨rfl, -⟩ := List.cons.inj h
      rw [hquote] at hmark
      cases hmark
    | run mark' ds _ hds =>
      rw [text, text, List.cons_append, List.cons_append, List.append_assoc, List.append_assoc] at h
      obtain ⟨rfl, htail⟩ := List.cons.inj h
      obtain ⟨rfl, rfl⟩ := run_append_inj hcs hds htail
      exact ⟨rfl, rfl⟩

theorem parts_append_inj {ps qs : List Part} {s t : List Char} (hs : Stops s) (ht : Stops t)
    (h : ps.flatMap Part.text ++ s = qs.flatMap Part.text ++ t) : ps = qs ∧ s = t := by
  induction ps generalizing qs with
  | nil =>
    cases qs with
    | nil => exact ⟨rfl, h⟩
    | cons q qs =>
      rw [List.flatMap_nil, List.nil_append, List.flatMap_cons, List.append_assoc] at h
      rw [h] at hs
      exact absurd hs (not_stops_part q _)
  | cons p ps ih =>
    cases qs with
    | nil =>
      rw [List.flatMap_nil, List.nil_append, List.flatMap_cons, List.append_assoc] at h
      rw [← h] at ht
      exact absurd ht (not_stops_part p _)
    | cons q qs =>
      rw [List.flatMap_cons, List.flatMap_cons, List.append_assoc, List.append_assoc] at h
      obtain ⟨rfl, htail⟩ := Part.text_append_inj h
      obtain ⟨rfl, rfl⟩ := ih htail
      exact ⟨rfl, rfl⟩

theorem Written.text_append_inj {v w : Written} {s t : List Char} (hs : Stops s) (ht : Stops t)
    (h : v.text ++ s = w.text ++ t) : v = w ∧ s = t := by
  obtain ⟨hparts, hst⟩ := parts_append_inj hs ht h
  exact ⟨Written.ext hparts, hst⟩

/-- Blanks end where a word begins. -/
theorem blanks_append_inj {gap gap' : List Char} (hgap : Blanks gap) (hgap' : Blanks gap')
    {s t : List Char} (hs : ¬ Stops s) (ht : ¬ Stops t) (h : gap ++ s = gap' ++ t) :
    gap = gap' ∧ s = t := by
  induction gap generalizing gap' with
  | nil =>
    cases gap' with
    | nil => exact ⟨rfl, h⟩
    | cons c gap' =>
      rw [List.nil_append] at h
      rw [h] at hs
      exact absurd (stops_gap hgap' (List.cons_ne_nil c gap') t) hs
  | cons c gap ih =>
    cases gap' with
    | nil =>
      rw [List.nil_append] at h
      rw [← h] at ht
      exact absurd (stops_gap hgap (List.cons_ne_nil c gap) s) ht
    | cons d gap' =>
      obtain ⟨rfl, htail⟩ := List.cons.inj h
      obtain ⟨rfl, rfl⟩ :=
        ih (List.forall_mem_cons.1 hgap).2 (List.forall_mem_cons.1 hgap').2 htail
      exact ⟨rfl, rfl⟩

/-- Nothing but blanks is not blanks and a row of words. -/
theorem blanks_ne_row {gap lead text trail : List Char} {ws : List Written} (hgap : Blanks gap)
    (hrow : Row ws text) : gap ≠ lead ++ (text ++ trail) := by
  rintro rfl
  exact not_stops_row hrow trail fun c hc =>
    hgap c (List.mem_append_right lead (List.mem_of_mem_head? hc))

theorem Row.unique {ws ws' : List Written} {text text' : List Char} (h : Row ws text)
    (h' : Row ws' text') {trail trail' : List Char} (htrail : Blanks trail)
    (htrail' : Blanks trail') (heq : text ++ trail = text' ++ trail') : ws = ws' := by
  induction h generalizing ws' text' with
  | last w =>
    cases h' with
    | last w' =>
      obtain ⟨rfl, -⟩ := Written.text_append_inj htrail.stops htrail'.stops heq
      rfl
    | more w' hgap' hne' hrest' =>
      rw [List.append_assoc, List.append_assoc] at heq
      obtain ⟨-, hgap⟩ := Written.text_append_inj htrail.stops (stops_gap hgap' hne' _) heq
      exact absurd hgap (blanks_ne_row htrail hrest')
  | more w hgap hne hrest ih =>
    rw [List.append_assoc, List.append_assoc] at heq
    cases h' with
    | last w' =>
      obtain ⟨-, hgap'⟩ := Written.text_append_inj (stops_gap hgap hne _) htrail'.stops heq
      exact absurd hgap'.symm (blanks_ne_row htrail' hrest)
    | more w' hgap' hne' hrest' =>
      rw [List.append_assoc, List.append_assoc] at heq
      obtain ⟨rfl, htail⟩ :=
        Written.text_append_inj (stops_gap hgap hne _) (stops_gap hgap' hne' _) heq
      obtain ⟨-, hrow⟩ := blanks_append_inj hgap hgap' (not_stops_row hrest _)
        (not_stops_row hrest' _) htail
      rw [ih hrest' hrow]

/-- A line has at most one reading. -/
theorem Reads.unique {ws ws' : List Written} {s : List Char} (h : Reads ws s) (h' : Reads ws' s) :
    ws = ws' := by
  cases h with
  | blank hgap =>
    generalize hs : s = t at h'
    cases h' with
    | blank _ => rfl
    | row _ hrow' _ => exact absurd hs (blanks_ne_row hgap hrow')
  | @row lead text trail _ hlead hrow htrail =>
    generalize hs : lead ++ (text ++ trail) = t at h'
    cases h' with
    | blank hgap' => exact absurd hs.symm (blanks_ne_row hgap' hrow)
    | row hlead' hrow' htrail' =>
      obtain ⟨-, htext⟩ :=
        blanks_append_inj hlead hlead' (not_stops_row hrow _) (not_stops_row hrow' _) hs
      exact hrow.unique hrow' htrail htrail' htext

/-- Splitting gives the words of a reading. -/
theorem ofLine_eq_ok_iff {line : String} {words : List String} :
    ofLine line = .ok words ↔
      ∃ ws, Reads ws line.toList ∧ words = ws.map fun w => String.ofList w.content := by
  have hmap (ws : List Written) : (ws.map Written.content).map String.ofList =
      ws.map fun w => String.ofList w.content := List.map_map
  rw [ofLine]
  cases hbetween : between line.toList with
  | none =>
    constructor
    · intro h
      cases h
    · rintro ⟨ws, hws, -⟩
      rw [between_of_reads hws] at hbetween
      cases hbetween
  | some contents =>
    obtain ⟨ws, hws, rfl⟩ := reads_of_between hbetween
    constructor
    · intro h
      exact ⟨ws, hws, (Except.ok.inj h).symm.trans (hmap ws)⟩
    · rintro ⟨ws', hws', rfl⟩
      rw [hws.unique hws']
      exact congrArg Except.ok (hmap ws')

end Words

/-- **The grammar of a line.**  A line is split into some words exactly if it has a reading with
these words, each of them the contents of its parts put together; a line has no two readings; and it
is refused for a quote that is not closed exactly if it has none. -/
theorem line_grammar (line : String) :
    (∀ words, Words.ofLine line = .ok words ↔
      ∃ ws, Words.Reads ws line.toList ∧ words = ws.map fun w => String.ofList w.content) ∧
    (∀ ws ws', Words.Reads ws line.toList → Words.Reads ws' line.toList → ws = ws') ∧
    (Words.ofLine line = .error {} ↔ ¬ ∃ ws, Words.Reads ws line.toList) := by
  refine ⟨fun words => Words.ofLine_eq_ok_iff, fun ws ws' => Words.Reads.unique, ?_⟩
  constructor
  · rintro herror ⟨ws, hws⟩
    have hok := Words.ofLine_eq_ok_iff.2 ⟨ws, hws, rfl⟩
    rw [herror] at hok
    cases hok
  · intro hnone
    cases hline : Words.ofLine line with
    | error fault => rfl
    | ok words =>
      obtain ⟨ws, hws, -⟩ := Words.ofLine_eq_ok_iff.1 hline
      exact absurd ⟨ws, hws⟩ hnone

/-- Parts without a gap are one word, and two quotes with nothing between them are a word too. -/
example : Words.ofLine " x \"\"  a'b \"c'd " = .ok ["x", "", "ab \"cd"] := rfl

end AccountAdmin
