import AccountAdmin.Proofs.CommandLine.LineGrammar

/-!
# Any words can be typed

There are no escapes in a line, and still every word can be typed: in single quotes, where each
single quote of its own is replaced by five characters.  The first of them closes the quotes, the
next three are a single quote in double quotes, and the last opens single quotes again, so that the
word goes on as if nothing had happened (`Words.quoted_escaped`).

A word that is typed like this is over only when a blank comes or the line ends.  With a blank
behind it the rest of the line is read as a line of its own, whatever it is, and that is why words
compose with any line.

* `Words.quote`, `Words.typed`: a word in quotes, and words in quotes with a blank between two.
* `quoted_words_compose`: the words come back, and so does a line behind them.
-/

namespace AccountAdmin

namespace Words

/-- A character as it is typed inside of single quotes. -/
def escaped (c : Char) : List Char := if c = '\'' then ['\'', '"', '\'', '"', '\''] else [c]

/-- A word in single quotes. -/
def quote (word : String) : String :=
  String.ofList ('\'' :: (word.toList.flatMap escaped ++ ['\'']))

/-- Words in single quotes with a blank between two of them. -/
def typed (words : List String) : String := " ".intercalate (words.map quote)

/-! ## One word -/

/-- Inside of single quotes the word is found up to the quote that closes it. -/
theorem quoted_escaped (w rest : List Char) :
    quoted '\'' (w.flatMap escaped ++ '\'' :: rest) = (inside rest).map (extend w) := by
  induction w with
  | nil => exact quoted_run List.not_mem_nil rest
  | cons c w ih =>
    rw [List.flatMap_cons, List.append_assoc, escaped]
    by_cases hc : c = '\''
    · subst hc
      -- the quotes are closed, and behind a quote in the other ones they are open again
      have hmark : '"' ∉ ['\''] := by decide
      have hopen : inside ('\'' :: (w.flatMap escaped ++ '\'' :: rest)) =
          (inside rest).map (extend w) := by
        rw [inside, if_pos (by decide), ih]
      have hdouble : inside ('"' :: '\'' :: '"' :: '\'' :: (w.flatMap escaped ++ '\'' :: rest)) =
          (inside ('\'' :: (w.flatMap escaped ++ '\'' :: rest))).map (extend ['\'']) := by
        rw [inside, if_pos (by decide)]
        exact quoted_run hmark _
      rw [if_pos rfl]
      simp only [List.cons_append, List.nil_append]
      rw [quoted, if_pos rfl, hdouble, hopen, map_extend_extend]
      rfl
    · rw [if_neg hc, List.singleton_append, quoted, if_neg hc, ih]
      exact map_extend_extend [c] w (inside rest)

theorem between_quote (word : String) (rest : List Char) :
    between ((quote word).toList ++ rest) =
      (inside rest).map fun r => (word.toList ++ r.1) :: r.2 := by
  rw [quote, String.toList_ofList, List.cons_append, List.append_assoc, List.singleton_append,
    between, if_pos (by decide), quoted_escaped, Option.map_map]
  rfl

/-- Behind a word and a blank a line begins. -/
theorem between_quote_blank (word : String) (line : List Char) :
    between ((quote word).toList ++ ' ' :: line) = (between line).map (word.toList :: ·) := by
  have hblank : Blanks [' '] := blanks_nil.cons (by decide)
  have hinside := inside_blanks hblank (List.cons_ne_nil ' ' []) line
  rw [List.singleton_append] at hinside
  rw [between_quote, hinside, Option.map_map]
  congr 1
  funext words
  rw [Function.comp_apply, List.append_nil]

/-! ## Words and a line behind them -/

theorem toList_typed_cons_cons (v w : String) (ws : List String) :
    (typed (v :: w :: ws)).toList = (quote v).toList ++ ' ' :: (typed (w :: ws)).toList := by
  rw [typed, typed, List.map_cons, List.map_cons, String.intercalate_cons_cons,
    String.toList_append, String.toList_append, List.append_assoc]
  rfl

theorem between_typed (ws : List String) :
    between (typed ws).toList = some (ws.map String.toList) := by
  induction ws with
  | nil => rfl
  | cons v ws ih =>
    cases ws with
    | nil =>
      have hquote := between_quote v []
      rw [List.append_nil] at hquote
      rw [typed, List.map_cons, List.map_nil, String.intercalate_singleton, hquote, inside,
        Option.map_some, List.append_nil]
      rfl
    | cons w ws =>
      rw [toList_typed_cons_cons, between_quote_blank, ih]
      rfl

theorem between_typed_blank (ws : List String) (line : List Char) :
    between ((typed ws).toList ++ ' ' :: line) =
      (between line).map (ws.map String.toList ++ ·) := by
  induction ws with
  | nil =>
    have hskip := between_blanks (blanks_nil.cons (c := ' ') (by decide)) line
    exact hskip.trans Option.map_id'.symm
  | cons v ws ih =>
    cases ws with
    | nil =>
      rw [typed, List.map_cons, List.map_nil, String.intercalate_singleton, between_quote_blank]
      rfl
    | cons w ws =>
      rw [toList_typed_cons_cons, List.append_assoc, List.cons_append, between_quote_blank, ih,
        Option.map_map]
      rfl

end Words

/-- **Any words can be typed, and lines compose.**  Words in quotes with a blank between two of them
are split into these words.  A line behind them and a blank is split as if it stood alone: its words
follow the others, and if it is refused alone it is refused there for the same reason. -/
theorem quoted_words_compose (words : List String) (line : String) :
    Words.ofLine (Words.typed words) = .ok words ∧
      Words.ofLine (Words.typed words ++ " " ++ line) = (Words.ofLine line).map (words ++ ·) := by
  have hwords : (words.map String.toList).map String.ofList = words := by
    have hid : String.ofList ∘ String.toList = id := funext fun _ => String.ofList_toList
    rw [List.map_map, hid, List.map_id]
  have htext : (Words.typed words ++ " " ++ line).toList =
      (Words.typed words).toList ++ ' ' :: line.toList := by
    rw [String.toList_append, String.toList_append, List.append_assoc]
    rfl
  constructor
  · rw [Words.ofLine, Words.between_typed]
    exact congrArg Except.ok hwords
  · rw [Words.ofLine, Words.ofLine, htext, Words.between_typed_blank]
    cases Words.between line.toList with
    | none => rfl
    | some more =>
      rw [Option.map_some]
      dsimp only
      rw [List.map_append, hwords]
      rfl

/-- An apostrophe, and a word without characters. -/
example : Words.typed ["it's", ""] = "'it'\"'\"'s' ''" := by decide

end AccountAdmin
