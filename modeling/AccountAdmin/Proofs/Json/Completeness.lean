import AccountAdmin.Proofs.Json.Soundness
import AccountAdmin.Proofs.Text.Encoding

/-!
# What is grammatical is accepted

A reader takes the text of the grammar off the front of whatever text it stands in, and gives the
canonical form of what it says.  Most readers know from the text alone where to stop.  The readers
of numbers take as much as they can, so their lemmas ask that what follows does not continue a
number (`Ends`); behind a value there is a gap, a comma, a closing bracket or nothing, and none of
these does.

* `readText_eq_some_iff`, `ofBytes_eq_some_iff`: a text is read as a value exactly if it is a
  document with that canonical form.
* `readText_brackets`: what is nested deeper than a document may be is not read.
-/

namespace AccountAdmin.Json

open AccountAdmin.Text

/-! ## Gaps and words -/

theorem skipGap_append {g : List Char} (hg : Gap g) (s : List Char) :
    skipGap (g ++ s) = skipGap s := by
  rw [skipGap, List.dropWhile_append_of_pos hg, skipGap]

theorem skipGap_cons {c : Char} (hc : isGap c = false) (s : List Char) :
    skipGap (c :: s) = c :: s := by
  rw [skipGap, List.dropWhile_cons_of_neg (by simp [hc])]

theorem readWord_append (word rest : List Char) : readWord word (word ++ rest) = some rest := by
  induction word with
  | nil => rfl
  | cons w word ih => rw [List.cons_append, readWord, if_pos rfl, ih]

/-! ## Strings -/

theorem readChars_of_spelled {t cs : List Char} (h : Spelled t cs) (rest : List Char) :
    readChars (t ++ '"' :: rest) = some (cs, rest) := by
  induction h with
  | nil => rfl
  | @plain c t cs hquote hescape hcontrol _ ih =>
    rw [List.cons_append, readChars, if_neg (by omega), ih]
    · rfl
    · exact hquote
    · exact fun _ _ _ _ _ hc _ => hescape hc
    · exact fun _ _ hc _ => hescape hc
  | @short c e t cs he _ ih =>
    rw [List.cons_append, List.cons_append, readChars, he]
    · dsimp only
      rw [ih]
      rfl
    · rintro a b c d s rfl -
      -- the letter of a numbered escape is not that of a short one
      cases he
  | @unit a b c d n t cs hn hsingle _ ih =>
    simp only [List.cons_append]
    rw [readChars, hn]
    dsimp only
    rw [if_pos hsingle, ih]
    rfl
  | @pair a b c d a' b' c' d' high low t cs hhigh hlow hfirst hsecond _ ih =>
    simp only [List.cons_append]
    rw [readChars, hhigh]
    dsimp only
    rw [if_neg (by omega), if_neg (by omega)]
    simp only [hlow]
    rw [if_pos hsecond, ih]
    rfl

/-! ## Numbers -/

/-- A text does not continue a number in front of it. -/
def Ends (rest : List Char) : Prop :=
  ∀ c s, rest = c :: s → isDigit 10 c = false ∧ c ≠ '.' ∧ ¬ ExponentMark c

theorem ends_nil : Ends [] := fun _ _ h => nomatch h

theorem ends_cons {c : Char} (hdigit : isDigit 10 c = false) (hpoint : c ≠ '.')
    (hmark : ¬ ExponentMark c) (s : List Char) : Ends (c :: s) := by
  rintro c' s' h
  obtain ⟨rfl, -⟩ := List.cons.inj h
  exact ⟨hdigit, hpoint, hmark⟩

theorem ends_comma (s : List Char) : Ends (',' :: s) := ends_cons rfl (by decide) (by decide) s

theorem ends_bracket (s : List Char) : Ends (']' :: s) := ends_cons rfl (by decide) (by decide) s

theorem ends_brace (s : List Char) : Ends ('\x7d' :: s) := ends_cons rfl (by decide) (by decide) s

/-- A gap ends a number. -/
theorem Ends.gap {g rest : List Char} (hg : Gap g) (h : Ends rest) : Ends (g ++ rest) := by
  cases g with
  | nil => exact h
  | cons c g =>
    have hc : c = ' ' ∨ c = '\t' ∨ c = '\n' ∨ c = '\r' := by
      simpa [isGap, or_assoc] using hg c List.mem_cons_self
    rcases hc with rfl | rfl | rfl | rfl <;> exact ends_cons rfl (by decide) (by decide) _

/-- A text does not start with a digit. -/
def NoDigit (rest : List Char) : Prop := ∀ c s, rest = c :: s → isDigit 10 c = false

theorem noDigit_cons {c : Char} (h : isDigit 10 c = false) (s : List Char) : NoDigit (c :: s) := by
  rintro c' s' heq
  obtain ⟨rfl, -⟩ := List.cons.inj heq
  exact h

theorem Ends.noDigit {rest : List Char} (h : Ends rest) : NoDigit rest :=
  fun c s hrest => (h c s hrest).1

theorem readDigits_append {ds rest : List Char} (hds : Digits ds) (hrest : NoDigit rest) :
    readDigits (ds ++ rest) = some (ds, rest) := by
  have hstop : rest.takeWhile (isDigit 10) = [] ∧ rest.dropWhile (isDigit 10) = rest := by
    cases rest with
    | nil => exact ⟨rfl, rfl⟩
    | cons c s =>
      have hc : ¬ isDigit 10 c = true := by simp [hrest c s rfl]
      exact ⟨List.takeWhile_cons_of_neg hc, List.dropWhile_cons_of_neg hc⟩
  rw [readDigits, List.takeWhile_append_of_pos hds.isDigit,
    List.dropWhile_append_of_pos hds.isDigit,
    hstop.1, hstop.2, List.append_nil]
  cases ds with
  | nil => exact absurd rfl hds.ne_nil
  | cons c ds => rfl

theorem readWhole_append {ds rest : List Char} (hds : Whole ds) (hrest : NoDigit rest) :
    readWhole (ds ++ rest) = some (ds, rest) := by
  rw [readWhole, readDigits_append hds.digits hrest]
  split
  · next h =>
    obtain ⟨rfl, -⟩ := Prod.mk.inj (Option.some.inj h)
    cases hds.zero rfl
  · rfl

theorem readFraction_append {fraction : Option (List Char)} {f rest : List Char}
    (hf : Fraction fraction f) (hrest : NoDigit rest) (hpoint : ∀ s, rest ≠ '.' :: s) :
    readFraction (f ++ rest) = some (fraction, rest) := by
  cases hf with
  | absent =>
    rw [List.nil_append, readFraction]
    exact hpoint
  | point hds => rw [List.cons_append, readFraction, readDigits_append hds hrest, Option.map_some]

/-- An exponent that goes on with a digit has no sign. -/
theorem readExponent_digit {c d : Char} (hc : ExponentMark c) (hd : isDigit 10 d = true)
    (s : List Char) :
    readExponent (c :: d :: s) =
      (readDigits (d :: s)).map fun (ds, rest) => (some (false, ds), rest) := by
  unfold readExponent
  refine (if_pos hc).trans ?_
  split
  next negative rest hsign =>
  split at hsign
  · next h => exact absurd (List.cons.inj h).1 (ne_of_isDigit hd rfl)
  · next h => exact absurd (List.cons.inj h).1 (ne_of_isDigit hd rfl)
  · obtain ⟨rfl, rfl⟩ := Prod.mk.inj hsign
    rfl

theorem readExponent_append {exponent : Option (Bool × List Char)} {e rest : List Char}
    (he : Exponent exponent e) (hrest : Ends rest) :
    readExponent (e ++ rest) = some (exponent, rest) := by
  cases he with
  | absent =>
    cases rest with
    | nil => rfl
    | cons c s => exact if_neg (hrest c s rfl).2.2
  | @unsigned c ds hc hds =>
    have hread := readDigits_append hds hrest.noDigit
    cases ds with
    | nil => exact absurd rfl hds.ne_nil
    | cons d ds =>
      rw [List.cons_append, List.cons_append,
        readExponent_digit hc (hds.isDigit d List.mem_cons_self),
        ← List.cons_append, hread, Option.map_some]
  | @positive c ds hc hds =>
    have hsign : readExponent (c :: '+' :: (ds ++ rest)) =
        (readDigits (ds ++ rest)).map fun (ds, rest) => (some (false, ds), rest) := if_pos hc
    rw [List.cons_append, List.cons_append, hsign, readDigits_append hds hrest.noDigit,
      Option.map_some]
  | @negative c ds hc hds =>
    have hsign : readExponent (c :: '-' :: (ds ++ rest)) =
        (readDigits (ds ++ rest)).map fun (ds, rest) => (some (true, ds), rest) := if_pos hc
    rw [List.cons_append, List.cons_append, hsign, readDigits_append hds hrest.noDigit,
      Option.map_some]

/-- What starts with a point or an exponent, or ends a number, does not start with a digit. -/
theorem Exponent.noDigit_append {exponent : Option (Bool × List Char)} {e rest : List Char}
    (he : Exponent exponent e) (hrest : Ends rest) : NoDigit (e ++ rest) := by
  have hmark {c : Char} (hc : ExponentMark c) : isDigit 10 c = false := by
    rcases hc with rfl | rfl <;> rfl
  cases he with
  | absent => exact hrest.noDigit
  | unsigned hc _ => exact noDigit_cons (hmark hc) _
  | positive hc _ => exact noDigit_cons (hmark hc) _
  | negative hc _ => exact noDigit_cons (hmark hc) _

theorem Exponent.append_ne_point {exponent : Option (Bool × List Char)} {e rest : List Char}
    (he : Exponent exponent e) (hrest : Ends rest) (s : List Char) : e ++ rest ≠ '.' :: s := by
  intro h
  have hmark {c : Char} (hc : ExponentMark c) : c ≠ '.' := by
    rcases hc with rfl | rfl <;> decide
  cases he with
  | absent => exact (hrest _ s h).2.1 rfl
  | unsigned hc _ => exact hmark hc (List.cons.inj h).1
  | positive hc _ => exact hmark hc (List.cons.inj h).1
  | negative hc _ => exact hmark hc (List.cons.inj h).1

theorem Fraction.noDigit_append {fraction : Option (List Char)} {f rest : List Char}
    (hf : Fraction fraction f) (hrest : NoDigit rest) : NoDigit (f ++ rest) := by
  cases hf with
  | absent => exact hrest
  | point _ => exact noDigit_cons rfl _

/-- The first character of a number. -/
def NumberMark (c : Char) : Prop := c = '-' ∨ isDigit 10 c = true

theorem Numeral.Written.eq_cons {n : Numeral} {t : List Char} (h : n.Written t) :
    ∃ c s, t = c :: s ∧ NumberMark c := by
  obtain ⟨hwhole, -, -⟩ := h
  rename_i negative whole _ _ _ _
  cases negative with
  | true => exact ⟨'-', _, rfl, .inl rfl⟩
  | false =>
    cases whole with
    | nil => exact absurd rfl hwhole.digits.ne_nil
    | cons c ds => exact ⟨c, _, rfl, .inr (hwhole.digits.isDigit c List.mem_cons_self)⟩

theorem readNumeral_append {n : Numeral} {t rest : List Char} (h : n.Written t)
    (hrest : Ends rest) :
    readNumeral (t ++ rest) = some (n, rest) := by
  obtain ⟨hwhole, hfraction, hexponent⟩ := h
  rename_i negative whole fraction exponent f e
  have hafter := hexponent.noDigit_append hrest
  have hread₁ := readWhole_append hwhole (hfraction.noDigit_append hafter)
  have hread₂ := readFraction_append hfraction hafter (hexponent.append_ne_point hrest)
  have hread₃ := readExponent_append hexponent hrest
  rw [List.append_assoc, List.append_assoc, List.append_assoc]
  unfold readNumeral
  split
  next negative' s hsign =>
  have hs : negative' = negative ∧ s = whole ++ (f ++ (e ++ rest)) := by
    cases negative with
    | true =>
      obtain ⟨rfl, rfl⟩ := Prod.mk.inj hsign
      exact ⟨rfl, rfl⟩
    | false =>
      split at hsign
      · next h =>
        -- the first of the digits is no sign
        obtain ⟨c, ds, rfl⟩ := List.exists_cons_of_ne_nil hwhole.digits.ne_nil
        have hc := hwhole.digits.isDigit c List.mem_cons_self
        exact absurd (List.cons.inj h).1 (ne_of_isDigit hc rfl)
      · obtain ⟨rfl, rfl⟩ := Prod.mk.inj hsign
        exact ⟨rfl, rfl⟩
  obtain ⟨rfl, rfl⟩ := hs
  simp only [hread₁, hread₂, hread₃]

theorem isGap_of_numberMark {c : Char} (hc : NumberMark c) : isGap c = false := by
  rcases hc with rfl | hc
  · rfl
  · have hspace : c ≠ ' ' := ne_of_isDigit hc rfl
    have htab : c ≠ '\t' := ne_of_isDigit hc rfl
    have hline : c ≠ '\n' := ne_of_isDigit hc rfl
    have hreturn : c ≠ '\r' := ne_of_isDigit hc rfl
    simp [isGap, hspace, htab, hline, hreturn]

theorem readValue_numberMark {c : Char} (hc : NumberMark c) (depth : Nat) (s : List Char) :
    readValue depth (c :: s) = readNumber (c :: s) := by
  have hne (d : Char) (hd : d ≠ '-') (hdigit : isDigit 10 d = false) : c ≠ d := by
    rintro rfl
    rcases hc with rfl | hc
    · exact hd rfl
    · exact ne_of_isDigit hc hdigit rfl
  rw [readValue, skipGap_cons (isGap_of_numberMark hc)]
  split
  case h_8 c' s' _ _ _ _ _ _ heq =>
    obtain ⟨rfl, rfl⟩ := List.cons.inj heq
    exact if_pos hc
  case h_1 heq => cases heq
  all_goals
    next heq => exact absurd (List.cons.inj heq).1 (hne _ (by decide) rfl)

/-! ## Values that hold no others -/

theorem readValue_gap {g : List Char} (hg : Gap g) (depth : Nat) (s : List Char) :
    readValue depth (g ++ s) = readValue depth s := by
  rw [readValue, skipGap_append hg, readValue]

theorem readValue_word {v : Json} (word : List Char) {t : List Char} (depth : Nat)
    (hword : ∀ s, readValue depth (t ++ s) = (readWord word (word ++ s)).map (v, ·))
    (rest : List Char) : readValue depth (t ++ rest) = some (v, rest) := by
  rw [hword, readWord_append, Option.map_some]

theorem readValue_scalar {v : Json} {t rest : List Char} (h : Scalar v t) (hrest : Ends rest)
    (depth : Nat) : readValue depth (t ++ rest) = some (v, rest) := by
  cases h with
  | null => exact readValue_word ['u', 'l', 'l'] depth (fun s => by rw [readValue]; rfl) rest
  | yes => exact readValue_word ['r', 'u', 'e'] depth (fun s => by rw [readValue]; rfl) rest
  | no => exact readValue_word ['a', 'l', 's', 'e'] depth (fun s => by rw [readValue]; rfl) rest
  | number hn hv =>
    obtain ⟨c, s, rfl, hc⟩ := hn.eq_cons
    rw [List.cons_append, readValue_numberMark hc, readNumber, ← List.cons_append,
      readNumeral_append hn hrest]
    dsimp only
    rw [hv, Option.map_some]
  | string h =>
    rw [List.cons_append, List.append_assoc, readValue_quote, List.singleton_append,
      readChars_of_spelled h, Option.map_some]

/-! ## Items and members -/

/-- A reader of values takes the text of a value off the front of a text, with the gap in front of
it, and gives the canonical form of the value. -/
def CompleteFor (W : Json → List Char → Prop)
    (read : List Char → Option (Json × List Char)) : Prop :=
  ∀ v g t rest, W v t → Gap g → Ends rest → read (g ++ (t ++ rest)) = some (v.canonical, rest)

section

variable {W : Json → List Char → Prop} {read : List Char → Option (Json × List Char)}

/-- Behind a value with the gaps around it, the gap behind it is left. -/
theorem CompleteFor.padded (hread : CompleteFor W read) {v : Json} {t rest : List Char}
    (h : Padded W v t) (hrest : Ends rest) :
    ∃ left, read (t ++ rest) = some (v.canonical, left) ∧ skipGap left = skipGap rest := by
  obtain ⟨hg, hv, hg'⟩ := h
  rename_i g t g'
  refine ⟨g' ++ rest, ?_, skipGap_append hg' rest⟩
  rw [List.append_assoc, List.append_assoc]
  exact hread _ g t _ hv hg (hrest.gap hg')

theorem readItems_append (hread : CompleteFor W read) {items : List Json} {t : List Char}
    (h : Listed (Padded W) items t) (rest : List Char) :
    readItems read (t ++ ']' :: rest) = some (canonicalItems items, rest) := by
  induction h with
  | @last v t h =>
    obtain ⟨left, hleft, hskip⟩ := hread.padded h (ends_bracket rest)
    rw [skipGap_cons rfl] at hskip
    rw [readItems, hleft]
    simp only [hskip]
    rfl
  | @more v items t u h _ ih =>
    obtain ⟨left, hleft, hskip⟩ := hread.padded h (ends_comma (u ++ ']' :: rest))
    rw [skipGap_cons rfl] at hskip
    have hlength : (u ++ ']' :: rest).length < (t ++ ',' :: (u ++ ']' :: rest)).length := by
      simp only [List.length_append, List.length_cons]
      omega
    rw [List.append_assoc, List.cons_append, readItems, hleft]
    simp only [hskip, if_pos hlength, ih]
    rfl

theorem readField_append (hread : CompleteFor W read) {key : String} {v : Json} {t rest : List Char}
    (h : Member W (key, v) t) (hrest : Ends rest) :
    ∃ left, readField read (t ++ rest) = some ((key, v.canonical), left) ∧
      skipGap left = skipGap rest := by
  obtain ⟨hg, hk, hg', hv⟩ := h
  rename_i g k cs g' t
  obtain ⟨left, hleft, hskip⟩ := hread.padded hv hrest
  refine ⟨left, ?_, hskip⟩
  have htext : g ++ '"' :: (k ++ '"' :: (g' ++ ':' :: t)) ++ rest =
      g ++ '"' :: (k ++ '"' :: (g' ++ ':' :: (t ++ rest))) := by
    simp only [List.append_assoc, List.cons_append]
  have hquote := skipGap_append hg ('"' :: (k ++ '"' :: (g' ++ ':' :: (t ++ rest))))
  have hcolon := skipGap_append hg' (':' :: (t ++ rest))
  rw [skipGap_cons rfl] at hquote hcolon
  rw [htext, readField]
  simp only [hquote, readChars_of_spelled hk, hcolon, hleft, Option.map_some]

theorem readFields_append (hread : CompleteFor W read) {fields : List (String × Json)}
    {t : List Char}
    (h : Listed (Member W) fields t) (rest : List Char) :
    readFields read (t ++ '\x7d' :: rest) = some (canonicalFields fields, rest) := by
  induction h with
  | @last field t h =>
    obtain ⟨left, hleft, hskip⟩ := readField_append hread h (ends_brace rest)
    rw [skipGap_cons rfl] at hskip
    rw [readFields, hleft]
    simp only [hskip]
    rfl
  | @more field fields t u h _ ih =>
    obtain ⟨left, hleft, hskip⟩ := readField_append hread h (ends_comma (u ++ '\x7d' :: rest))
    rw [skipGap_cons rfl] at hskip
    have hlength : (u ++ '\x7d' :: rest).length < (t ++ ',' :: (u ++ '\x7d' :: rest)).length := by
      simp only [List.length_append, List.length_cons]
      omega
    rw [List.append_assoc, List.cons_append, readFields, hleft]
    simp only [hskip, if_pos hlength, ih]
    rfl

end

/-! ## Values -/

/-- No value starts with the closing bracket of an array. -/
theorem readItems_bracket {s rest : List Char} (h : skipGap s = ']' :: rest) (depth : Nat) :
    readItems (readValue depth) s = none := by
  have hvalue : readValue depth s = none := by
    rw [readValue, h]
    rfl
  rw [readItems, hvalue]

/-- No member starts with the closing brace of an object. -/
theorem readFields_brace {s rest : List Char} (h : skipGap s = '\x7d' :: rest) (depth : Nat) :
    readFields (readValue depth) s = none := by
  have hfield : readField (readValue depth) s = none := by
    rw [readField, h]
    rfl
  rw [readFields, hfield]

theorem readValue_array {depth : Nat} {s rest : List Char} {vs : List Json}
    (h : readItems (readValue depth) s = some (vs, rest)) :
    readValue (depth + 1) ('[' :: s) = some (.array vs, rest) := by
  rw [readValue, skipGap_cons rfl]
  simp only [h, Option.map_some]
  split
  · next hclose =>
    rw [readItems_bracket hclose] at h
    cases h
  · rfl

theorem readValue_object {depth : Nat} {s rest : List Char} {fs : List (String × Json)}
    (h : readFields (readValue depth) s = some (fs, rest)) :
    readValue (depth + 1) ('\x7b' :: s) = some (.object (sortFields fs), rest) := by
  rw [readValue, skipGap_cons rfl]
  simp only [h, Option.map_some]
  split
  · next hclose =>
    rw [readFields_brace hclose] at h
    cases h
  · rfl

theorem readValue_nested {depth : Nat} (hbelow : CompleteFor (Written depth) (readValue depth))
    {v : Json} {t : List Char} (h : Nested (Written depth) v t) (rest : List Char) :
    readValue (depth + 1) (t ++ rest) = some (v.canonical, rest) := by
  cases h with
  | emptyArray hg =>
    have hclose := skipGap_append hg (']' :: rest)
    rw [skipGap_cons rfl] at hclose
    rw [List.cons_append, List.append_assoc, List.singleton_append, readValue, skipGap_cons rfl]
    simp only [hclose]
    rfl
  | array h =>
    rw [List.cons_append, List.append_assoc, List.singleton_append,
      readValue_array (readItems_append hbelow h rest)]
    rfl
  | emptyObject hg =>
    have hclose := skipGap_append hg ('\x7d' :: rest)
    rw [skipGap_cons rfl] at hclose
    rw [List.cons_append, List.append_assoc, List.singleton_append, readValue, skipGap_cons rfl]
    simp only [hclose]
    rfl
  | object h =>
    rw [List.cons_append, List.append_assoc, List.singleton_append,
      readValue_object (readFields_append hbelow h rest)]
    rfl

theorem completeFor_readValue (depth : Nat) : CompleteFor (Written depth) (readValue depth) := by
  induction depth with
  | zero =>
    intro v g t rest h hg hrest
    have hscalar : Scalar v t := h
    rw [readValue_gap hg, readValue_scalar hscalar hrest, hscalar.canonical_eq]
  | succ depth ih =>
    intro v g t rest h hg hrest
    rw [readValue_gap hg]
    rcases h with hscalar | hnested
    · rw [readValue_scalar hscalar hrest, hscalar.canonical_eq]
    · exact readValue_nested ih hnested rest

/-! ## Documents -/

/-- A document is read as the canonical form of what it says. -/
theorem readText_document {v : Json} {s : List Char} (h : Document v s) :
    readText s = some v.canonical := by
  obtain ⟨left, hleft, hskip⟩ := (completeFor_readValue maxDepth).padded h ends_nil
  rw [List.append_nil] at hleft
  rw [readText, hleft]
  exact if_pos hskip

/-- A text is read as a value exactly if it is a document that says it. -/
theorem readText_eq_some_iff {s : List Char} {v : Json} :
    readText s = some v ↔ ∃ raw, Document raw s ∧ raw.canonical = v := by
  refine ⟨document_of_readText, ?_⟩
  rintro ⟨raw, hdocument, rfl⟩
  exact readText_document hdocument

/-- Bytes are read as a value exactly if they are a document that says it. -/
theorem ofBytes_eq_some_iff {bytes : ByteArray} {v : Json} :
    ofBytes bytes = some v ↔ ∃ raw, BodyDocument raw bytes ∧ raw.canonical = v := by
  constructor
  · intro h
    unfold ofBytes at h
    split at h
    · cases h
    · next s hs =>
      obtain ⟨raw, hdocument, hraw⟩ := document_of_readText h
      exact ⟨raw, ⟨s, toUTF8_of_fromUTF8? hs, hdocument⟩, hraw⟩
  · rintro ⟨raw, ⟨s, rfl, hdocument⟩, rfl⟩
    rw [ofBytes, fromUTF8?_toUTF8]
    exact readText_document hdocument

/-! ## The limit on nesting -/

/-- An empty array inside of as many others. -/
def nestedArrays : Nat → Json
  | 0 => .array []
  | n + 1 => .array [nestedArrays n]

/-- The text of an empty array inside of as many others. -/
def brackets : Nat → List Char
  | 0 => ['[', ']']
  | n + 1 => '[' :: (brackets n ++ [']'])

theorem written_nestedArrays (n : Nat) : Written (n + 1) (nestedArrays n) (brackets n) := by
  induction n with
  | zero => exact .inr (.emptyArray gap_nil)
  | succ n ih =>
    have hitem : Padded (Written (n + 1)) (nestedArrays n) (brackets n) := by
      have h := Padded.mk gap_nil ih gap_nil
      rwa [List.nil_append, List.append_nil] at h
    exact .inr (.array (.last hitem))

theorem brackets_eq_cons (n : Nat) : ∃ s, brackets n = '[' :: s := by
  cases n with
  | zero => exact ⟨_, rfl⟩
  | succ n => exact ⟨_, rfl⟩

/-- Nothing is read of a text in which more arrays are nested than may be. -/
theorem readValue_brackets {depth n : Nat} (h : depth ≤ n) (rest : List Char) :
    readValue depth (brackets n ++ rest) = none := by
  induction depth generalizing n rest with
  | zero =>
    obtain ⟨s, hs⟩ := brackets_eq_cons n
    rw [hs, List.cons_append, readValue, skipGap_cons rfl]
    rfl
  | succ depth ih =>
    obtain ⟨n, rfl⟩ : ∃ m, n = m + 1 := ⟨n - 1, by omega⟩
    obtain ⟨s, hs⟩ := brackets_eq_cons n
    have hvalue := ih (n := n) (by omega) (']' :: rest)
    have hitems : readItems (readValue depth) (brackets n ++ ']' :: rest) = none := by
      rw [readItems, hvalue]
    rw [brackets, List.cons_append, List.append_assoc, List.singleton_append, readValue,
      skipGap_cons rfl]
    simp only [hitems]
    rw [hs]
    rfl

theorem readText_brackets {n : Nat} (h : maxDepth ≤ n) : readText (brackets n) = none := by
  have hvalue := readValue_brackets h []
  rw [List.append_nil] at hvalue
  rw [readText, hvalue]

end AccountAdmin.Json
