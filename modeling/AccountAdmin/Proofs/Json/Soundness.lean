import AccountAdmin.Proofs.Json.Grammar

/-!
# What the reader accepts is grammatical

Whatever a reader of JSON takes off the front of a text is a text of the grammar, and the value it
gives is the canonical form of what that text says.  There is one lemma for each reader, in the
order in which the readers call each other.  The readers of items and of members are handed the
reader of values, so their lemmas are about any such reader that is sound (`SoundFor`), and the
recursion is closed once, on the depth, in `soundFor_readValue`.
-/

namespace AccountAdmin.Json

open AccountAdmin.Text

/-! ## Gaps and words -/

/-- A text is a gap and what is left of it. -/
theorem exists_gap (s : List Char) : ∃ g, Gap g ∧ s = g ++ skipGap s :=
  ⟨s.takeWhile isGap, fun _ hc => List.all_eq_true.1 List.all_takeWhile _ hc,
    List.takeWhile_append_dropWhile.symm⟩

theorem eq_append_of_readWord {word s rest : List Char} (h : readWord word s = some rest) :
    s = word ++ rest := by
  induction word generalizing s with
  | nil => exact Option.some.inj h
  | cons w word ih =>
    cases s with
    | nil => cases h
    | cons c s =>
      rw [readWord] at h
      by_cases hc : c = w
      · rw [if_pos hc] at h
        rw [hc, ih h]
        rfl
      · rw [if_neg hc] at h
        cases h

/-! ## Strings -/

theorem prepend_eq_some {c : Char} {r : Option (List Char × List Char)} {cs rest : List Char}
    (h : prepend c r = some (cs, rest)) : ∃ ds, r = some (ds, rest) ∧ cs = c :: ds := by
  obtain ⟨⟨ds, rest'⟩, hr, heq⟩ := Option.map_eq_some_iff.1 h
  obtain ⟨rfl, rfl⟩ := Prod.mk.inj heq
  exact ⟨ds, hr, rfl⟩

theorem spelled_of_readChars {s cs rest : List Char} (h : readChars s = some (cs, rest)) :
    ∃ t, s = t ++ '"' :: rest ∧ Spelled t cs := by
  fun_induction readChars s generalizing cs with
  | case1 => cases h
  | case2 rest' =>
    obtain ⟨rfl, rfl⟩ := Prod.mk.inj (Option.some.inj h)
    exact ⟨[], rfl, .nil⟩
  | case3 => cases h
  | case4 a b c d rest' high hhigh hsingle ih =>
    obtain ⟨ds, hds, rfl⟩ := prepend_eq_some h
    obtain ⟨t, rfl, ht⟩ := ih hds
    exact ⟨_, rfl, .unit hhigh hsingle ht⟩
  | case5 => cases h
  | case6 => cases h
  | case7 a b c d high hhigh hsurrogate hfirst a' b' c' d' rest' low hlow hsecond ih =>
    obtain ⟨ds, hds, rfl⟩ := prepend_eq_some h
    obtain ⟨t, rfl, ht⟩ := ih hds
    exact ⟨_, rfl, .pair hhigh hlow ⟨by omega, by omega⟩ hsecond ht⟩
  | case8 => cases h
  | case9 => cases h
  | case10 => cases h
  | case11 c rest' hunit e he ih =>
    obtain ⟨ds, hds, rfl⟩ := prepend_eq_some h
    obtain ⟨t, rfl, ht⟩ := ih hds
    exact ⟨_, rfl, .short he ht⟩
  | case12 => cases h
  | case13 c rest' hquote hunit hshort hcontrol ih =>
    obtain ⟨ds, hds, rfl⟩ := prepend_eq_some h
    obtain ⟨t, ht, hspelled⟩ := ih hds
    have hescape : c ≠ '\\' := by
      rintro rfl
      -- a backslash at the end of the text escapes nothing
      cases rest' with
      | nil => cases hds
      | cons e rest' => exact hshort e rest' rfl rfl
    rw [ht]
    exact ⟨c :: t, rfl, .plain hquote hescape (by omega) hspelled⟩

/-! ## Numbers -/

theorem digits_of_readDigits {s ds rest : List Char} (h : readDigits s = some (ds, rest)) :
    s = ds ++ rest ∧ Digits ds := by
  rw [readDigits] at h
  split at h
  · cases h
  · next ds' hds =>
    obtain ⟨rfl, rfl⟩ := Prod.mk.inj (Option.some.inj h)
    refine ⟨List.takeWhile_append_dropWhile.symm, hds, fun c hc => ?_⟩
    exact List.all_eq_true.1 List.all_takeWhile c hc

theorem whole_of_readWhole {s ds rest : List Char} (h : readWhole s = some (ds, rest)) :
    s = ds ++ rest ∧ Whole ds := by
  rw [readWhole] at h
  split at h
  · cases h
  · next hzero =>
    obtain ⟨hs, hds⟩ := digits_of_readDigits h
    refine ⟨hs, hds, fun hhead => ?_⟩
    match ds with
    | [c] =>
      obtain rfl := Option.some.inj hhead
      rfl
    | c :: d :: ds =>
      obtain rfl := Option.some.inj hhead
      exact absurd h (hzero d ds rest)

theorem fraction_of_readFraction {s rest : List Char} {fraction : Option (List Char)}
    (h : readFraction s = some (fraction, rest)) : ∃ f, s = f ++ rest ∧ Fraction fraction f := by
  unfold readFraction at h
  split at h
  · next s' =>
    obtain ⟨⟨ds, rest'⟩, hds, heq⟩ := Option.map_eq_some_iff.1 h
    obtain ⟨rfl, rfl⟩ := Prod.mk.inj heq
    obtain ⟨rfl, hdigits⟩ := digits_of_readDigits hds
    exact ⟨'.' :: ds, rfl, .point hdigits⟩
  · obtain ⟨rfl, rfl⟩ := Prod.mk.inj (Option.some.inj h)
    exact ⟨[], rfl, .absent⟩

theorem exponent_of_readExponent {s rest : List Char} {exponent : Option (Bool × List Char)}
    (h : readExponent s = some (exponent, rest)) : ∃ e, s = e ++ rest ∧ Exponent exponent e := by
  unfold readExponent at h
  split at h
  · next c s' =>
    by_cases hc : c = 'e' ∨ c = 'E'
    · rw [if_pos hc] at h
      dsimp only at h
      obtain ⟨⟨ds, rest'⟩, hds, heq⟩ := Option.map_eq_some_iff.1 h
      obtain ⟨rfl, rfl⟩ := Prod.mk.inj heq
      obtain ⟨hs, hdigits⟩ := digits_of_readDigits hds
      split at hs
      · subst hs
        exact ⟨c :: '+' :: ds, rfl, .positive hc hdigits⟩
      · subst hs
        exact ⟨c :: '-' :: ds, rfl, .negative hc hdigits⟩
      · subst hs
        exact ⟨c :: ds, rfl, .unsigned hc hdigits⟩
    · rw [if_neg hc] at h
      obtain ⟨rfl, rfl⟩ := Prod.mk.inj (Option.some.inj h)
      exact ⟨[], rfl, .absent⟩
  · obtain ⟨rfl, rfl⟩ := Prod.mk.inj (Option.some.inj h)
    exact ⟨[], rfl, .absent⟩

theorem written_of_readNumeral {s rest : List Char} {n : Numeral}
    (h : readNumeral s = some (n, rest)) : ∃ t, s = t ++ rest ∧ n.Written t := by
  unfold readNumeral at h
  split at h
  next negative s' hsign =>
  have hs : s = signText negative ++ s' := by
    split at hsign
    · obtain ⟨rfl, rfl⟩ := Prod.mk.inj hsign
      rfl
    · obtain ⟨rfl, rfl⟩ := Prod.mk.inj hsign
      rfl
  split at h
  · cases h
  · next whole s₁ hwhole =>
    split at h
    · cases h
    · next fraction s₂ hfraction =>
      split at h
      · cases h
      · next exponent s₃ hexponent =>
        obtain ⟨rfl, rfl⟩ := Prod.mk.inj (Option.some.inj h)
        obtain ⟨hs₁, hwhole⟩ := whole_of_readWhole hwhole
        obtain ⟨f, hs₂, hfraction⟩ := fraction_of_readFraction hfraction
        obtain ⟨e, hs₃, hexponent⟩ := exponent_of_readExponent hexponent
        refine ⟨_, ?_, .parts hwhole hfraction hexponent⟩
        rw [hs, hs₁, hs₂, hs₃]
        simp only [List.append_assoc]

theorem scalar_of_readNumber {s rest : List Char} {v : Json}
    (h : readNumber s = some (v, rest)) : ∃ t, s = t ++ rest ∧ Scalar v t := by
  unfold readNumber at h
  split at h
  · cases h
  · next n rest' hn =>
    obtain ⟨w, hw, heq⟩ := Option.map_eq_some_iff.1 h
    obtain ⟨rfl, rfl⟩ := Prod.mk.inj heq
    obtain ⟨t, hs, ht⟩ := written_of_readNumeral hn
    exact ⟨t, hs, .number ht hw⟩

/-- A number is an integer or a double, and so is canonical. -/
theorem canonical_of_value? {n : Numeral} {v : Json} (h : n.value? = some v) : v.canonical = v := by
  rw [Numeral.value?] at h
  generalize (if n.negative = true then -(natOfDigits 10 n.whole : Int) else _) = integer at h
  split at h
  · obtain rfl := Option.some.inj h
    rfl
  · obtain ⟨d, -, rfl⟩ := Option.map_eq_some_iff.1 h
    rfl

theorem Scalar.canonical_eq {v : Json} {t : List Char} (h : Scalar v t) : v.canonical = v := by
  cases h with
  | number hn hv => exact canonical_of_value? hv
  | _ => rfl

/-! ## Items and members -/

/-- What a reader of values takes off a text is, behind a gap, the text of a value of which it gives
the canonical form. -/
def SoundFor (W : Json → List Char → Prop) (read : List Char → Option (Json × List Char)) : Prop :=
  ∀ s v rest, read s = some (v, rest) →
    ∃ g raw t, Gap g ∧ s = g ++ (t ++ rest) ∧ W raw t ∧ raw.canonical = v

section

variable {W : Json → List Char → Prop} {read : List Char → Option (Json × List Char)}

/-- A value with the gap behind it. -/
theorem SoundFor.padded (hread : SoundFor W read) {s rest : List Char} {v : Json}
    (h : read s = some (v, rest)) :
    ∃ raw t, s = t ++ skipGap rest ∧ Padded W raw t ∧ raw.canonical = v := by
  obtain ⟨g, raw, t, hg, rfl, ht, hraw⟩ := hread s v rest h
  obtain ⟨g', hg', hrest⟩ := exists_gap rest
  refine ⟨raw, _, ?_, .mk hg ht hg', hraw⟩
  rw [List.append_assoc, List.append_assoc, ← hrest]

theorem listed_of_readItems (hread : SoundFor W read) {s rest : List Char} {vs : List Json}
    (h : readItems read s = some (vs, rest)) :
    ∃ items t, s = t ++ ']' :: rest ∧ Listed (Padded W) items t ∧ canonicalItems items = vs := by
  fun_induction readItems read s generalizing vs with
  | case1 => cases h
  | case2 s v rest' hv rest'' hgap =>
    obtain ⟨rfl, rfl⟩ := Prod.mk.inj (Option.some.inj h)
    obtain ⟨raw, t, hs, ht, rfl⟩ := hread.padded hv
    rw [hgap] at hs
    exact ⟨[raw], t, hs, .last ht, rfl⟩
  | case3 s v rest' hv rest'' hgap hlength ih =>
    obtain ⟨⟨ws, last⟩, hws, heq⟩ := Option.map_eq_some_iff.1 h
    obtain ⟨rfl, rfl⟩ := Prod.mk.inj heq
    obtain ⟨raw, t, hs, ht, rfl⟩ := hread.padded hv
    obtain ⟨items, u, rfl, hu, rfl⟩ := ih hws
    refine ⟨raw :: items, t ++ ',' :: u, ?_, .more ht hu, rfl⟩
    rw [hs, hgap, List.append_assoc, List.cons_append]
  | case4 => cases h
  | case5 => cases h

theorem member_of_readField (hread : SoundFor W read) {s rest : List Char} {key : String} {v : Json}
    (h : readField read s = some ((key, v), rest)) :
    ∃ raw t, s = t ++ skipGap rest ∧ Member W (key, raw) t ∧ raw.canonical = v := by
  obtain ⟨g, hg, hs⟩ := exists_gap s
  rw [readField] at h
  split at h
  · next s' hquote =>
    split at h
    · cases h
    · next chars s'' hchars =>
      split at h
      · next s₃ hcolon =>
        obtain ⟨⟨w, last⟩, hw, heq⟩ := Option.map_eq_some_iff.1 h
        simp only [Prod.mk.injEq] at heq
        obtain ⟨⟨rfl, rfl⟩, rfl⟩ := heq
        obtain ⟨k, rfl, hk⟩ := spelled_of_readChars hchars
        obtain ⟨g', hg', hs''⟩ := exists_gap s''
        obtain ⟨raw, t, ht, hpadded, hraw⟩ := hread.padded hw
        refine ⟨raw, _, ?_, .mk hg hk hg' hpadded, hraw⟩
        rw [hs, hquote, hs'', hcolon, ht]
        simp only [List.append_assoc, List.cons_append]
      · cases h
  · cases h

theorem listed_of_readFields (hread : SoundFor W read) {s rest : List Char}
    {fs : List (String × Json)} (h : readFields read s = some (fs, rest)) :
    ∃ fields t, s = t ++ '\x7d' :: rest ∧ Listed (Member W) fields t ∧
      canonicalFields fields = fs := by
  fun_induction readFields read s generalizing fs with
  | case1 => cases h
  | case2 s field rest' hfield rest'' hgap =>
    obtain ⟨key, v⟩ := field
    obtain ⟨rfl, rfl⟩ := Prod.mk.inj (Option.some.inj h)
    obtain ⟨raw, t, hs, ht, rfl⟩ := member_of_readField hread hfield
    rw [hgap] at hs
    exact ⟨[(key, raw)], t, hs, .last ht, rfl⟩
  | case3 s field rest' hfield rest'' hgap hlength ih =>
    obtain ⟨key, v⟩ := field
    obtain ⟨⟨gs, last⟩, hgs, heq⟩ := Option.map_eq_some_iff.1 h
    obtain ⟨rfl, rfl⟩ := Prod.mk.inj heq
    obtain ⟨raw, t, hs, ht, rfl⟩ := member_of_readField hread hfield
    obtain ⟨fields, u, rfl, hu, rfl⟩ := ih hgs
    refine ⟨(key, raw) :: fields, t ++ ',' :: u, ?_, .more ht hu, rfl⟩
    rw [hs, hgap, List.append_assoc, List.cons_append]
  | case4 => cases h
  | case5 => cases h

end

/-! ## Values -/

/-- One level of the reader of values is sound if the level below it is. -/
theorem soundFor_step (depth : Nat)
    (hbelow : ∀ d, depth = d + 1 → SoundFor (Written d) (readValue d)) :
    SoundFor (Written depth) (readValue depth) := by
  intro s v rest h
  obtain ⟨g, hg, hs⟩ := exists_gap s
  -- whatever is read is read behind the gap
  suffices hread : ∃ raw t, skipGap s = t ++ rest ∧ Written depth raw t ∧ raw.canonical = v by
    obtain ⟨raw, t, ht, hwritten, hraw⟩ := hread
    rw [ht] at hs
    exact ⟨g, raw, t, hg, hs, hwritten, hraw⟩
  have hword {word s' : List Char} {w : Json} (c : Char) (hw : Scalar w (c :: word))
      (h : (readWord word s').map (w, ·) = some (v, rest)) :
      ∃ raw t, c :: s' = t ++ rest ∧ Written depth raw t ∧ raw.canonical = v := by
    obtain ⟨rest', hrest, heq⟩ := Option.map_eq_some_iff.1 h
    obtain ⟨rfl, rfl⟩ := Prod.mk.inj heq
    rw [eq_append_of_readWord hrest]
    exact ⟨w, _, rfl, hw.written depth, hw.canonical_eq⟩
  unfold readValue at h
  clear hs
  generalize skipGap s = token at h ⊢
  split at h
  · cases h
  · exact hword 'n' .null h
  · exact hword 't' .yes h
  · exact hword 'f' .no h
  · next s' =>
    obtain ⟨⟨cs, rest'⟩, hcs, heq⟩ := Option.map_eq_some_iff.1 h
    obtain ⟨rfl, rfl⟩ := Prod.mk.inj heq
    obtain ⟨t, rfl, ht⟩ := spelled_of_readChars hcs
    exact ⟨_, '"' :: (t ++ ['"']), by simp, (Scalar.string ht).written depth, rfl⟩
  · next s' =>
    split at h
    · cases h
    · next d =>
      split at h
      · next rest' hclose =>
        obtain ⟨rfl, rfl⟩ := Prod.mk.inj (Option.some.inj h)
        obtain ⟨g', hg', hs'⟩ := exists_gap s'
        refine ⟨_, _, ?_, .inr (.emptyArray hg'), rfl⟩
        rw [hs', hclose]
        simp
      · obtain ⟨⟨vs, rest'⟩, hvs, heq⟩ := Option.map_eq_some_iff.1 h
        obtain ⟨rfl, rfl⟩ := Prod.mk.inj heq
        obtain ⟨items, t, rfl, ht, rfl⟩ := listed_of_readItems (hbelow d rfl) hvs
        exact ⟨.array items, '[' :: (t ++ [']']), by simp, .inr (.array ht), rfl⟩
  · next s' =>
    split at h
    · cases h
    · next d =>
      split at h
      · next rest' hclose =>
        obtain ⟨rfl, rfl⟩ := Prod.mk.inj (Option.some.inj h)
        obtain ⟨g', hg', hs'⟩ := exists_gap s'
        refine ⟨_, _, ?_, .inr (.emptyObject hg'), rfl⟩
        rw [hs', hclose]
        simp
      · obtain ⟨⟨fs, rest'⟩, hfs, heq⟩ := Option.map_eq_some_iff.1 h
        obtain ⟨rfl, rfl⟩ := Prod.mk.inj heq
        obtain ⟨fields, t, rfl, ht, rfl⟩ := listed_of_readFields (hbelow d rfl) hfs
        exact ⟨.object fields, '\x7b' :: (t ++ ['\x7d']), by simp, .inr (.object ht), rfl⟩
  · split at h
    · obtain ⟨t, ht, hscalar⟩ := scalar_of_readNumber h
      exact ⟨v, t, ht, hscalar.written depth, hscalar.canonical_eq⟩
    · cases h

theorem soundFor_readValue (depth : Nat) : SoundFor (Written depth) (readValue depth) := by
  induction depth with
  | zero => exact soundFor_step 0 fun d hd => nomatch hd
  | succ depth ih => exact soundFor_step (depth + 1) fun d hd => Nat.succ.inj hd ▸ ih

/-- A text that is read as a value is a document, and the value is its canonical form. -/
theorem document_of_readText {s : List Char} {v : Json} (h : readText s = some v) :
    ∃ raw, Document raw s ∧ raw.canonical = v := by
  rw [readText] at h
  split at h
  · cases h
  · next w rest hw =>
    split at h
    · next hend =>
      obtain rfl := Option.some.inj h
      obtain ⟨raw, t, hs, ht, hraw⟩ := (soundFor_readValue maxDepth).padded hw
      rw [hend, List.append_nil] at hs
      rw [hs]
      exact ⟨raw, ht, hraw⟩
    · cases h

end AccountAdmin.Json
