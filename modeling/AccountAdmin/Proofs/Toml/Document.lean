import AccountAdmin.Proofs.Toml.QuotedText
import AccountAdmin.Proofs.Toml.WholeNumber

/-!
# Documents read back

A document that is written from sections is read as their tables, in order (`read_document`).  The
names of the sections and the keys in each of them have to be different and must need no quotes, and
the numbers must fit into signed 64-bit integers (`Section.WellFormed`).

The proof follows the text line by line.  Every line has a lemma that says what the reader has read
when it is behind that line: `readLine_header`, `readLine_entry`, and an empty line between two
sections.  A section is then one induction over its entries (`readLines_section`), and a document
one over its sections.
-/

namespace AccountAdmin.Toml

open AccountAdmin.Text

/-! ## What a written document holds -/

/-- The value that is written. -/
def Scalar.value : Scalar → Value
  | text s => .text s
  | count n => .integer n

/-- Whether a number fits into a signed 64-bit integer. -/
def Scalar.InRange : Scalar → Prop
  | text _ => True
  | count n => n < 0x8000000000000000

/-- A key that needs no quotes. -/
def IsBareKey (key : String) : Prop := key.toList ≠ [] ∧ key.toList.all isBare = true

instance (key : String) : Decidable (IsBareKey key) :=
  inferInstanceAs (Decidable (key.toList ≠ [] ∧ key.toList.all isBare = true))

/-- A section that can be read back. -/
structure Section.WellFormed (s : Section) : Prop where
  name : IsBareKey s.name
  keys : ∀ entry ∈ s.entries, IsBareKey entry.1
  nodup : (s.entries.map Prod.fst).Nodup
  inRange : ∀ entry ∈ s.entries, entry.2.InRange

/-- The entries of a section as values. -/
def Section.values (s : Section) : Entries := s.entries.map fun entry => (entry.1, entry.2.value)

/-- The table of a section under its name. -/
def Section.table (s : Section) : String × Value := (s.name, .table .header s.values)

/-! ## Keys -/

theorem ne_of_isBare {c d : Char} (hc : isBare c = true) (hd : isBare d = false) : c ≠ d := by
  rintro rfl
  rw [hc] at hd
  cases hd

theorem isSpace_of_isBare {c : Char} (hc : isBare c = true) : isSpace c = false := by
  have hspace : c ≠ ' ' := ne_of_isBare hc (by decide)
  have htab : c ≠ '\t' := ne_of_isBare hc (by decide)
  simp [isSpace, hspace, htab]

theorem IsBareKey.exists_cons {key : String} (h : IsBareKey key) :
    ∃ c cs, key.toList = c :: cs ∧ isBare c = true := by
  rcases hkey : key.toList with _ | ⟨c, cs⟩
  · exact absurd hkey h.1
  · have hall := h.2
    rw [hkey, List.all_cons, Bool.and_eq_true] at hall
    exact ⟨c, cs, rfl, hall.1⟩

theorem skipSpaces_of_not_space {c : Char} (hc : isSpace c = false) (rest : List Char) :
    skipSpaces (c :: rest) = c :: rest := by
  rw [skipSpaces, List.dropWhile_cons_of_neg (by rw [hc]; decide)]

theorem IsBareKey.skipSpaces {key : String} (h : IsBareKey key) (rest : List Char) :
    skipSpaces (key.toList ++ rest) = key.toList ++ rest := by
  obtain ⟨c, cs, hkey, hc⟩ := h.exists_cons
  rw [hkey]
  exact skipSpaces_of_not_space (isSpace_of_isBare hc) _

theorem IsBareKey.readKeyPart {key : String} (h : IsBareKey key) {d : Char} (hd : isBare d = false)
    (rest : List Char) : readKeyPart (key.toList ++ d :: rest) = some (key, d :: rest) := by
  have hall : ∀ c ∈ key.toList, isBare c = true := List.all_eq_true.1 h.2
  have hstop : (d :: rest).takeWhile isBare = [] :=
    List.takeWhile_cons_of_neg (by rw [hd]; decide)
  have hgo : (d :: rest).dropWhile isBare = d :: rest :=
    List.dropWhile_cons_of_neg (by rw [hd]; decide)
  have htake : (key.toList ++ d :: rest).takeWhile isBare = key.toList := by
    rw [List.takeWhile_append_of_pos hall, hstop, List.append_nil]
  have hdrop : (key.toList ++ d :: rest).dropWhile isBare = d :: rest := by
    rw [List.dropWhile_append_of_pos hall, hgo]
  unfold Toml.readKeyPart
  rw [htake, hdrop]
  split
  · next hnil => exact absurd hnil h.1
  · rw [String.ofList_toList]

/-- A key without dots, up to the next character that is no space. -/
theorem IsBareKey.readKey {key : String} (h : IsBareKey key) {d e : Char} (rest : List Char)
    {more : List Char} (hd : isBare d = false) (hmore : Toml.skipSpaces (d :: rest) = e :: more)
    (he : e ≠ '.') :
    readKey (key.toList ++ d :: rest) = some (⟨[], key⟩, e :: more) := by
  have hparts : readKeyParts (key.toList ++ d :: rest) = some ([key], e :: more) := by
    rw [readKeyParts, h.skipSpaces, h.readKeyPart hd]
    dsimp only
    rw [hmore]
    split
    · next heq => exact absurd (List.cons.inj heq).1 he
    · rfl
  rw [Toml.readKey, hparts]
  rfl

/-! ## Entries -/

theorem quoted_eq_cons (s : String) :
    ∃ mark inner, quoted s = mark :: inner ∧ (mark = '"' ∨ mark = '\'') := by
  unfold quoted
  cases styleOf s.toList with
  | basic => exact ⟨'"', _, rfl, .inl rfl⟩
  | literal => exact ⟨'\'', _, rfl, .inr rfl⟩
  | longBasic => exact ⟨'"', _, rfl, .inl rfl⟩
  | longLiteral => exact ⟨'\'', _, rfl, .inr rfl⟩

theorem readValue_quoted (depth : Nat) (s : String) (rest : List Char) :
    readValue depth (quoted s ++ '\n' :: rest) = some (.text s, '\n' :: rest) := by
  have hread := readString?_quoted s rest
  obtain ⟨mark, inner, hquoted, hmark⟩ := quoted_eq_cons s
  rw [hquoted, List.cons_append] at hread ⊢
  rcases hmark with rfl | rfl
  all_goals
    rw [readValue]
    · rw [if_pos (by decide), hread, Option.map_some]
      dsimp only
      rw [String.ofList_toList]
    all_goals decide

theorem readValue_decimal (depth : Nat) {n : Nat} (h : n < 0x8000000000000000) (rest : List Char) :
    readValue depth (decimal n ++ '\n' :: rest) = some (.integer n, '\n' :: rest) := by
  have hnumber := readNumber_decimal h rest
  have hmoment := readMoment_eq_none (fun c hc => isDigit_of_mem_decimal (n := n) hc) rest
  obtain ⟨c, ds, hdecimal, hc, -⟩ := decimal_eq_cons n
  rw [hdecimal, List.cons_append] at hnumber hmoment ⊢
  rw [readValue]
  · rw [if_neg fun h => h.elim (ne_of_isDigit hc rfl) (ne_of_isDigit hc rfl), hmoment]
    exact hnumber
  all_goals exact fun h => absurd h (ne_of_isDigit hc rfl)

/-- A value in front of a line end is read back. -/
theorem readValue_written (depth : Nat) {v : Scalar} (h : v.InRange) (rest : List Char) :
    readValue depth (v.written ++ '\n' :: rest) = some (v.value, '\n' :: rest) := by
  cases v with
  | text s => exact readValue_quoted depth s rest
  | count n => exact readValue_decimal depth h rest

theorem skipSpaces_written (v : Scalar) (rest : List Char) :
    skipSpaces (' ' :: (v.written ++ rest)) = v.written ++ rest := by
  have hstart : ∃ c more, v.written = c :: more ∧ isSpace c = false := by
    cases v with
    | text s =>
      obtain ⟨mark, inner, hquoted, hmark⟩ := quoted_eq_cons s
      refine ⟨mark, inner, hquoted, ?_⟩
      rcases hmark with rfl | rfl <;> rfl
    | count n =>
      obtain ⟨c, ds, hdecimal, hc, -⟩ := decimal_eq_cons n
      have hspace : c ≠ ' ' := ne_of_isDigit hc rfl
      have htab : c ≠ '\t' := ne_of_isDigit hc rfl
      exact ⟨c, ds, hdecimal, by simp [isSpace, hspace, htab]⟩
  obtain ⟨c, more, hwritten, hc⟩ := hstart
  rw [hwritten]
  exact skipSpaces_of_not_space hc _

theorem readEntry_entryLine {key : String} {v : Scalar} (hkey : IsBareKey key) (hv : v.InRange)
    (rest : List Char) :
    readEntry (readValue maxDepth) (entryLine (key, v) ++ rest) =
      some ((⟨[], key⟩, v.value), '\n' :: rest) := by
  have htext : entryLine (key, v) ++ rest =
      key.toList ++ ' ' :: ('=' :: ' ' :: (v.written ++ '\n' :: rest)) := by
    simp [entryLine]
  have hread := hkey.readKey (d := ' ') ('=' :: ' ' :: (v.written ++ '\n' :: rest))
    (by decide) rfl (by decide)
  rw [htext, readEntry, hread]
  show (readValue maxDepth (skipSpaces (' ' :: (v.written ++ '\n' :: rest)))).map _ = _
  rw [skipSpaces_written, readValue_written maxDepth hv]
  rfl

/-! ## Tables that grow at their end -/

theorem Entries.alter?_append {key : String} (change : Option Value → Option Value) {done : Entries}
    (h : key ∉ done.map Prod.fst) (more : Entries) :
    Entries.alter? key change (done ++ more) =
      (Entries.alter? key change more).map (done ++ ·) := by
  induction done with
  | nil => simp
  | cons entry done ih =>
    obtain ⟨k, v⟩ := entry
    rw [List.map_cons, List.mem_cons, not_or] at h
    have hne : ¬k = key := fun heq => h.1 heq.symm
    rw [List.cons_append, Entries.alter?, if_neg hne, ih h.2, Option.map_map]
    rfl

theorem Entries.alter?_new {key : String} {change : Option Value → Option Value} {done : Entries}
    (h : key ∉ done.map Prod.fst) {v : Value} (hv : change none = some v) :
    Entries.alter? key change done = some (done ++ [(key, v)]) := by
  have happend := Entries.alter?_append change h []
  rw [List.append_nil, Entries.alter?, hv] at happend
  exact happend

/-- A header adds an empty table. -/
theorem Entries.open?_new {name : String} {done : Entries} (h : name ∉ done.map Prod.fst) :
    Entries.open? [] name done = some (done ++ [(name, .table .header [])]) :=
  Entries.alter?_new h rfl

/-- A key adds a value to the table opened last. -/
theorem Entries.putBelow?_new {name key : String} {done inner : Entries} (v : Value)
    (hname : name ∉ done.map Prod.fst) (hkey : key ∉ inner.map Prod.fst) :
    Entries.putBelow? [name] [] key v (done ++ [(name, .table .header inner)]) =
      some (done ++ [(name, .table .header (inner ++ [(key, v)]))]) := by
  have hput : Entries.put? [] key v inner = some (inner ++ [(key, v)]) := by
    rw [Entries.put?, Entries.enter?, if_neg (by decide)]
    exact Entries.alter?_new hkey rfl
  rw [Entries.putBelow?, Entries.enter?, Entries.alter?_append _ hname, Entries.alter?, if_pos rfl]
  simp [Entries.enter?, hput]

/-! ## Lines -/

theorem readLines_step {p p' : Progress} {line rest : List Char} (hline : line ≠ [])
    (h : readLine p (line ++ rest) = some (p', rest)) :
    readLines p (line ++ rest) = readLines p' rest := by
  have hne : (line ++ rest).isEmpty = false := by
    rw [List.isEmpty_eq_false_iff, Ne, List.append_eq_nil_iff]
    exact fun hnil => hline hnil.1
  have hlt : rest.length < (line ++ rest).length := by
    have := List.length_pos_iff.2 hline
    rw [List.length_append]
    omega
  rw [readLines, hne, if_neg (by decide), h]
  exact if_pos hlt

theorem readLine_blank (p : Progress) (rest : List Char) :
    readLine p ('\n' :: rest) = some (p, rest) := rfl

theorem readLine_header {name : String} {done : Entries} (opened : List String)
    (hname : IsBareKey name) (hnew : name ∉ done.map Prod.fst) (rest : List Char) :
    readLine ⟨done, opened⟩ ('[' :: (name.toList ++ ']' :: '\n' :: rest)) =
      some (⟨done ++ [(name, .table .header [])], [name]⟩, rest) := by
  have hread := hname.readKey (d := ']') ('\n' :: rest) (by decide) rfl (by decide)
  have hline : readLine ⟨done, opened⟩ ('[' :: (name.toList ++ ']' :: '\n' :: rest)) =
      readHeader ⟨done, opened⟩ (name.toList ++ ']' :: '\n' :: rest) := rfl
  obtain ⟨c, cs, hcons, hc⟩ := hname.exists_cons
  rw [hline]
  unfold readHeader
  split
  · next heq =>
    rw [hcons, List.cons_append] at heq
    exact absurd (List.cons.inj heq).1 (ne_of_isBare hc (by decide))
  · have hopen := Entries.open?_new hnew
    rw [hread]
    split
    · next heq =>
      cases heq
      rw [hopen]
      rfl
    · next hother => exact absurd rfl (hother ⟨[], name⟩ ('\n' :: rest))

theorem readLine_entry {name key : String} {v : Scalar} {done inner : Entries}
    (hname : name ∉ done.map Prod.fst) (hkey : IsBareKey key) (hnew : key ∉ inner.map Prod.fst)
    (hv : v.InRange) (rest : List Char) :
    readLine ⟨done ++ [(name, .table .header inner)], [name]⟩ (entryLine (key, v) ++ rest) =
      some (⟨done ++ [(name, .table .header (inner ++ [(key, v.value)]))], [name]⟩, rest) := by
  have hread := readEntry_entryLine hkey hv rest
  obtain ⟨c, cs, hcons, hc⟩ := hkey.exists_cons
  obtain ⟨more, hmore⟩ : ∃ more, entryLine (key, v) ++ rest = c :: more :=
    ⟨_, by rw [entryLine, hcons]; rfl⟩
  rw [hmore] at hread ⊢
  rw [readLine, skipSpaces_of_not_space (isSpace_of_isBare hc)]
  split
  · next heq => cases heq
  · next heq => exact absurd (List.cons.inj heq).1 (ne_of_isBare hc (by decide))
  · next heq =>
    obtain ⟨rfl, rfl⟩ := List.cons.inj heq
    have hline : ¬(c = '#' ∨ c = '\n' ∨ c = '\r') := by
      rintro (h | h | h)
      all_goals exact ne_of_isBare hc (by decide) h
    rw [if_neg hline, readAssignment, hread]
    dsimp only
    rw [Entries.putBelow?_new v.value hname hnew]
    rfl

/-! ## Sections and documents -/

/-- The entries of a section fill the table that its header has opened. -/
theorem readLines_entries {name : String} {done : Entries} (hname : name ∉ done.map Prod.fst)
    (entries : List (String × Scalar)) (rest : List Char) :
    ∀ inner : Entries, (∀ entry ∈ entries, IsBareKey entry.1 ∧ entry.2.InRange) →
      (inner.map Prod.fst ++ entries.map Prod.fst).Nodup →
      readLines ⟨done ++ [(name, .table .header inner)], [name]⟩
          (entries.flatMap entryLine ++ rest) =
        readLines ⟨done ++ [(name, .table .header
          (inner ++ entries.map fun entry => (entry.1, entry.2.value)))], [name]⟩ rest := by
  induction entries with
  | nil =>
    intro inner _ _
    rw [List.flatMap_nil, List.nil_append, List.map_nil, List.append_nil]
  | cons entry entries ih =>
    intro inner hall hnodup
    obtain ⟨key, v⟩ := entry
    obtain ⟨hkey, hv⟩ := hall (key, v) List.mem_cons_self
    have hnew : key ∉ inner.map Prod.fst := by
      intro hmem
      exact (List.nodup_append.1 hnodup).2.2 key hmem key List.mem_cons_self rfl
    have hline := readLine_entry hname hkey hnew hv (entries.flatMap entryLine ++ rest)
    have hnodup' : ((inner ++ [(key, v.value)]).map Prod.fst ++ entries.map Prod.fst).Nodup := by
      rw [List.map_append, List.append_assoc]
      exact hnodup
    rw [List.flatMap_cons, List.append_assoc,
      readLines_step (by simp [entryLine]) hline,
      ih _ (fun e he => hall e (List.mem_cons_of_mem _ he)) hnodup', List.append_assoc]
    rfl

theorem readLines_section {s : Section} (hs : s.WellFormed) {done : Entries}
    (hname : s.name ∉ done.map Prod.fst) (opened : List String) (rest : List Char) :
    readLines ⟨done, opened⟩ (s.lines ++ rest) = readLines ⟨done ++ [s.table], [s.name]⟩ rest := by
  have htext : s.lines ++ rest =
      ('[' :: (s.name.toList ++ [']', '\n'])) ++ (s.entries.flatMap entryLine ++ rest) := by
    simp [Section.lines]
  have hheader := readLine_header opened hs.name hname (s.entries.flatMap entryLine ++ rest)
  have hentries := readLines_entries hname s.entries rest []
    (fun entry hentry => ⟨hs.keys entry hentry, hs.inRange entry hentry⟩) hs.nodup
  rw [htext, readLines_step (by simp) (by simpa using hheader), hentries]
  rfl

theorem readLines_sections (sections : List Section) :
    ∀ (done : Entries) (opened : List String), (∀ s ∈ sections, s.WellFormed) →
      (done.map Prod.fst ++ sections.map Section.name).Nodup →
      readLines ⟨done, opened⟩ (sections.flatMap fun s => '\n' :: s.lines) =
        some (done ++ sections.map Section.table) := by
  induction sections with
  | nil =>
    intro done opened _ _
    rw [List.flatMap_nil, readLines, List.map_nil, List.append_nil]
    rfl
  | cons s sections ih =>
    intro done opened hall hnodup
    have hs := hall s List.mem_cons_self
    have hname : s.name ∉ done.map Prod.fst := by
      intro hmem
      exact (List.nodup_append.1 hnodup).2.2 s.name hmem s.name List.mem_cons_self rfl
    have hnodup' : ((done ++ [s.table]).map Prod.fst ++ sections.map Section.name).Nodup := by
      rw [List.map_append, List.append_assoc]
      exact hnodup
    have hblank := readLine_blank ⟨done, opened⟩
      (s.lines ++ sections.flatMap fun s => '\n' :: s.lines)
    rw [List.flatMap_cons, List.cons_append, ← List.singleton_append,
      readLines_step (List.cons_ne_nil _ _) hblank, readLines_section hs hname,
      ih _ _ (fun t ht => hall t (List.mem_cons_of_mem s ht)) hnodup', List.append_assoc]
    rfl

theorem intercalate_cons {α : Type} (x : α) (first : List α) (more : List (List α)) :
    [x].intercalate (first :: more) = first ++ more.flatMap (x :: ·) := by
  induction more generalizing first with
  | nil => simp
  | cons second more ih =>
    have h := ih second
    rw [List.intercalate_cons_cons, h]
    simp

/-- A document that is written from sections is read as their tables. -/
theorem read_document {sections : List Section} (hall : ∀ s ∈ sections, s.WellFormed)
    (hnodup : (sections.map Section.name).Nodup) :
    read (document sections) = some (sections.map Section.table) := by
  rw [read, document, String.toList_ofList]
  cases sections with
  | nil =>
    show readLines {} [] = some []
    rw [readLines]
    rfl
  | cons s sections =>
    have hs := hall s List.mem_cons_self
    have htext : ['\n'].intercalate ((s :: sections).map Section.lines) =
        s.lines ++ sections.flatMap fun s => '\n' :: s.lines := by
      rw [List.map_cons, intercalate_cons, List.flatMap_map]
    have hmark : skipMark (s.lines ++ sections.flatMap fun s => '\n' :: s.lines) =
        s.lines ++ sections.flatMap fun s => '\n' :: s.lines := rfl
    have hrest := readLines_sections sections [s.table] [s.name]
      (fun t ht => hall t (List.mem_cons_of_mem s ht)) hnodup
    rw [htext, hmark, readLines_section hs List.not_mem_nil, List.nil_append, hrest]
    rfl

end AccountAdmin.Toml
