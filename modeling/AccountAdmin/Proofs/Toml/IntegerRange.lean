import AccountAdmin.Toml.Reader

/-!
# The range of integers

Every integer of a document that has been read is a signed 64-bit integer (`read_bounded`), however
deep it stands in it.  What has been read can therefore be written again.

The property is about whole values (`Value.Bounded`), and each step that builds a document keeps it:
the changes of tables, the readers of items and entries, and the lines.
-/

namespace AccountAdmin.Toml

/-- All integers in the value are below the bound of signed 64-bit integers. -/
inductive Value.Bounded : Value → Prop where
  | text (s : String) : Bounded (.text s)
  | integer {n : Int} (h : n < 0x8000000000000000) : Bounded (.integer n)
  | float (d : Double) : Bounded (.float d)
  | boolean (b : Bool) : Bounded (.boolean b)
  | moment (m : Moment) : Bounded (.moment m)
  | array {items : List Value} (h : ∀ v ∈ items, Bounded v) : Bounded (.array items)
  | table {origin : Origin} {entries : List (String × Value)}
    (h : ∀ entry ∈ entries, Bounded entry.2) : Bounded (.table origin entries)
  | tables {latest : List (String × Value)} {earlier : List (List (String × Value))}
    (hlatest : ∀ entry ∈ latest, Bounded entry.2)
    (hearlier : ∀ entries ∈ earlier, ∀ entry ∈ entries, Bounded entry.2) :
    Bounded (.tables latest earlier)

/-- All integers in the entries are below the bound of signed 64-bit integers. -/
def Entries.Bounded (entries : Entries) : Prop := ∀ entry ∈ entries, entry.2.Bounded

namespace Entries

theorem bounded_nil : Bounded [] := fun _ h => nomatch h

theorem bounded_cons {key : String} {v : Value} {rest : Entries} (hv : v.Bounded)
    (hrest : Bounded rest) : Bounded ((key, v) :: rest) := by
  intro entry hentry
  rcases List.mem_cons.1 hentry with rfl | hmem
  · exact hv
  · exact hrest entry hmem

theorem Bounded.find? {entries : Entries} (h : entries.Bounded) {key : String} {v : Value}
    (hv : entries.find? key = some v) : v.Bounded := by
  induction entries with
  | nil => cases hv
  | cons entry rest ih =>
    rw [Entries.find?] at hv
    split at hv
    · cases hv
      exact h entry List.mem_cons_self
    · exact ih (fun e he => h e (List.mem_cons_of_mem entry he)) hv

/-! ## Changes of tables -/

/-- A change that turns bounded values, or the lack of one, into bounded values. -/
def BoundedChange (change : Option Value → Option Value) : Prop :=
  ∀ before after, (∀ v, before = some v → v.Bounded) → change before = some after → after.Bounded

theorem alter?_bounded {key : String} {change : Option Value → Option Value}
    (hchange : BoundedChange change) {entries entries' : Entries} (hentries : entries.Bounded)
    (h : alter? key change entries = some entries') : entries'.Bounded := by
  induction entries generalizing entries' with
  | nil =>
    rw [alter?, Option.map_eq_some_iff] at h
    obtain ⟨v, hv, rfl⟩ := h
    exact bounded_cons (hchange none v (fun _ h => nomatch h) hv) bounded_nil
  | cons entry rest ih =>
    obtain ⟨k, w⟩ := entry
    have hw : w.Bounded := hentries (k, w) List.mem_cons_self
    have hrest : Bounded rest := fun e he => hentries e (List.mem_cons_of_mem _ he)
    rw [alter?] at h
    split at h
    · obtain ⟨v, hv, rfl⟩ := Option.map_eq_some_iff.1 h
      exact bounded_cons (hchange (some w) v (fun _ h => Option.some.inj h ▸ hw) hv) hrest
    · obtain ⟨rest', hrest', rfl⟩ := Option.map_eq_some_iff.1 h
      exact bounded_cons hw (ih hrest hrest')

theorem enter?_bounded {byDots : Bool} {change : Origin → Entries → Option Entries}
    (hchange : ∀ origin entries entries', Bounded entries → change origin entries = some entries' →
      Bounded entries')
    {path : List String} : ∀ {origin : Origin} {entries entries' : Entries}, entries.Bounded →
      enter? byDots change path origin entries = some entries' → entries'.Bounded := by
  induction path with
  | nil =>
    intro origin entries entries' hentries h
    exact hchange origin entries entries' hentries h
  | cons key path ih =>
    intro origin entries entries' hentries h
    rw [enter?] at h
    refine alter?_bounded ?_ hentries h
    intro before after hbefore hafter
    dsimp only at hafter
    split at hafter
    · obtain ⟨inner, hinner, rfl⟩ := Option.map_eq_some_iff.1 hafter
      exact .table (ih bounded_nil hinner)
    · cases hafter
    · split at hafter
      · cases hafter
      · obtain ⟨inner, hinner, rfl⟩ := Option.map_eq_some_iff.1 hafter
        cases hbefore _ rfl with
        | table htable => exact .table (ih htable hinner)
    · obtain ⟨inner, hinner, rfl⟩ := Option.map_eq_some_iff.1 hafter
      cases hbefore _ rfl with
      | tables hlatest hearlier => exact .tables (ih hlatest hinner) hearlier
    · cases hafter

theorem open?_bounded {path : List String} {key : String} {document document' : Entries}
    (hdocument : document.Bounded) (h : open? path key document = some document') :
    document'.Bounded := by
  refine enter?_bounded (fun _ entries entries' hentries h => ?_) hdocument h
  refine alter?_bounded ?_ hentries h
  intro before after hbefore hafter
  unfold opened? at hafter
  split at hafter
  · cases hafter
    exact .table bounded_nil
  · cases hafter
    cases hbefore _ rfl with
    | table htable => exact .table htable
  · cases hafter

theorem openNext?_bounded {path : List String} {key : String} {document document' : Entries}
    (hdocument : document.Bounded) (h : openNext? path key document = some document') :
    document'.Bounded := by
  refine enter?_bounded (fun _ entries entries' hentries h => ?_) hdocument h
  refine alter?_bounded ?_ hentries h
  intro before after hbefore hafter
  unfold openedNext? at hafter
  split at hafter
  · cases hafter
    exact .tables bounded_nil fun _ h => nomatch h
  · cases hafter
    cases hbefore _ rfl with
    | tables hlatest hearlier =>
      refine .tables bounded_nil fun entries hmem => ?_
      rcases List.mem_cons.1 hmem with rfl | hmem
      · exact hlatest
      · exact hearlier entries hmem
  · cases hafter

theorem put?_bounded {path : List String} {key : String} {v : Value} (hv : v.Bounded)
    {table table' : Entries} (htable : table.Bounded) (h : put? path key v table = some table') :
    table'.Bounded := by
  refine enter?_bounded (fun _ entries entries' hentries h => ?_) htable h
  split at h
  · cases h
  · refine alter?_bounded ?_ hentries h
    intro before after _ hafter
    unfold fresh? at hafter
    split at hafter
    · cases hafter
      exact hv
    · cases hafter

theorem putBelow?_bounded {below path : List String} {key : String} {v : Value} (hv : v.Bounded)
    {document document' : Entries} (hdocument : document.Bounded)
    (h : putBelow? below path key v document = some document') : document'.Bounded :=
  enter?_bounded (fun _ _ _ hentries h => put?_bounded hv hentries h) hdocument h

end Entries

/-! ## Values -/

/-- A reader of bounded values. -/
def BoundedReader (value : List Char → Option (Value × List Char)) : Prop :=
  ∀ s v rest, value s = some (v, rest) → v.Bounded

theorem ofInteger?_bounded {n : Int} {v : Value} (h : ofInteger? n = some v) : v.Bounded := by
  unfold ofInteger? at h
  split at h
  · next hn =>
    cases h
    exact .integer hn.2
  · cases h

theorem ofParts?_bounded {negative : Bool} {whole : List Char} {fraction : Option (List Char)}
    {exponent : Option Int} {v : Value} (h : ofParts? negative whole fraction exponent = some v) :
    v.Bounded := by
  unfold ofParts? at h
  split at h
  · exact ofInteger?_bounded h
  · dsimp only at h
    unfold ofFloat? at h
    split at h
    · cases h
    · cases h
      exact .float _

theorem readRadix_bounded (radix : Nat) : BoundedReader (readRadix radix) := by
  intro s v rest h
  unfold readRadix at h
  split at h
  · cases h
  · obtain ⟨w, hw, heq⟩ := Option.map_eq_some_iff.1 h
    cases heq
    exact ofInteger?_bounded hw

theorem readDecimal_bounded (negative : Bool) : BoundedReader (readDecimal negative) := by
  intro s v rest h
  unfold readDecimal at h
  split at h
  · cases h
  split at h
  · cases h
  split at h
  · cases h
  · obtain ⟨w, hw, heq⟩ := Option.map_eq_some_iff.1 h
    cases heq
    exact ofParts?_bounded hw

theorem readNumber_bounded : BoundedReader readNumber := by
  intro s v rest h
  unfold readNumber at h
  split at h
  · exact readRadix_bounded 16 _ _ _ h
  · exact readRadix_bounded 8 _ _ _ h
  · exact readRadix_bounded 2 _ _ _ h
  split at h
  · cases h
    exact .float _
  · cases h
    exact .float _
  · exact readDecimal_bounded _ _ _ _ h

theorem readItems_bounded {value : List Char → Option (Value × List Char)}
    (hvalue : BoundedReader value) {s rest : List Char} {vs : List Value}
    (h : readItems value s = some (vs, rest)) : ∀ v ∈ vs, v.Bounded := by
  rw [readItems] at h
  split at h
  · cases h
    exact fun v hv => absurd hv List.not_mem_nil
  split at h
  · cases h
  next hv =>
  split at h
  · cases h
    intro w hw
    rw [List.mem_singleton.1 hw]
    exact hvalue _ _ _ hv
  · split at h
    · obtain ⟨⟨ws, more⟩, hws, heq⟩ := Option.map_eq_some_iff.1 h
      cases heq
      intro w hw
      rcases List.mem_cons.1 hw with rfl | hmem
      · exact hvalue _ _ _ hv
      · exact readItems_bounded hvalue hws w hmem
    · cases h
  · cases h
termination_by s.length

theorem readEntry_bounded {value : List Char → Option (Value × List Char)}
    (hvalue : BoundedReader value) {s rest : List Char} {key : Key} {v : Value}
    (h : readEntry value s = some ((key, v), rest)) : v.Bounded := by
  unfold readEntry at h
  split at h
  · obtain ⟨⟨w, more⟩, hw, heq⟩ := Option.map_eq_some_iff.1 h
    cases heq
    exact hvalue _ _ _ hw
  · cases h

theorem readBraced_bounded {value : List Char → Option (Value × List Char)}
    (hvalue : BoundedReader value) {entries entries' : Entries} {s rest : List Char}
    (hentries : entries.Bounded) (h : readBraced value entries s = some (entries', rest)) :
    entries'.Bounded := by
  fun_induction readBraced value entries s generalizing entries' rest with
  | case1 => cases h
  | case2 => cases h
  | case3 entries s key v _ hv _ hput =>
    cases h
    exact Entries.put?_bounded (readEntry_bounded hvalue hv) hentries hput
  | case4 entries s key v _ hv _ hput _ _ _ ih =>
    exact ih (Entries.put?_bounded (readEntry_bounded hvalue hv) hentries hput) h
  | case5 => cases h
  | case6 => cases h

/-- One level of nesting. -/
theorem readValue_bounded_of {depth : Nat}
    (hbelow : ∀ below, depth = below + 1 → BoundedReader (readValue below)) :
    BoundedReader (readValue depth) := by
  intro s v rest h
  unfold readValue at h
  split at h
  · cases h
  · obtain ⟨_, _, heq⟩ := Option.map_eq_some_iff.1 h
    cases heq
    exact .boolean true
  · obtain ⟨_, _, heq⟩ := Option.map_eq_some_iff.1 h
    cases heq
    exact .boolean false
  · split at h
    · cases h
    · obtain ⟨⟨vs, more⟩, hvs, heq⟩ := Option.map_eq_some_iff.1 h
      cases heq
      exact .array (readItems_bounded (hbelow _ rfl) hvs)
  · split at h
    · cases h
    · split at h
      · cases h
        exact .table Entries.bounded_nil
      · obtain ⟨⟨entries, more⟩, hentries, heq⟩ := Option.map_eq_some_iff.1 h
        cases heq
        exact .table (readBraced_bounded (hbelow _ rfl) Entries.bounded_nil hentries)
  · split at h
    · obtain ⟨_, _, heq⟩ := Option.map_eq_some_iff.1 h
      cases heq
      exact .text _
    · split at h
      · cases h
        exact .moment _
      · exact readNumber_bounded _ _ _ h

theorem readValue_bounded (depth : Nat) : BoundedReader (readValue depth) := by
  induction depth with
  | zero => exact readValue_bounded_of fun below h => nomatch h
  | succ depth ih => exact readValue_bounded_of fun below h => Nat.succ.inj h ▸ ih

/-! ## Documents -/

theorem readHeader_bounded {p p' : Progress} {s rest : List Char} (hp : p.entries.Bounded)
    (h : readHeader p s = some (p', rest)) : p'.entries.Bounded := by
  unfold readHeader at h
  split at h
  · split at h
    · split at h
      · next hopen =>
        obtain ⟨_, _, heq⟩ := Option.map_eq_some_iff.1 h
        cases heq
        exact Entries.openNext?_bounded hp hopen
      · cases h
    · cases h
  · split at h
    · split at h
      · next hopen =>
        obtain ⟨_, _, heq⟩ := Option.map_eq_some_iff.1 h
        cases heq
        exact Entries.open?_bounded hp hopen
      · cases h
    · cases h

theorem readAssignment_bounded {p p' : Progress} {s rest : List Char} (hp : p.entries.Bounded)
    (h : readAssignment p s = some (p', rest)) : p'.entries.Bounded := by
  unfold readAssignment at h
  split at h
  · cases h
  · next hentry =>
    split at h
    · next hput =>
      obtain ⟨_, _, heq⟩ := Option.map_eq_some_iff.1 h
      cases heq
      have hv := readEntry_bounded (readValue_bounded maxDepth) hentry
      exact Entries.putBelow?_bounded hv hp hput
    · cases h

theorem readLine_bounded {p p' : Progress} {s rest : List Char} (hp : p.entries.Bounded)
    (h : readLine p s = some (p', rest)) : p'.entries.Bounded := by
  unfold readLine at h
  split at h
  · cases h
    exact hp
  · exact readHeader_bounded hp h
  · split at h
    · obtain ⟨_, _, heq⟩ := Option.map_eq_some_iff.1 h
      cases heq
      exact hp
    · exact readAssignment_bounded hp h

theorem readLines_bounded {p : Progress} {s : List Char} {entries : Entries}
    (hp : p.entries.Bounded) (h : readLines p s = some entries) : entries.Bounded := by
  fun_induction readLines p s with
  | case1 => cases h; exact hp
  | case2 => cases h
  | case3 p s _ p' rest hline _ ih => exact ih (readLine_bounded hp hline) h
  | case4 => cases h

/-- Every integer of a document is below the bound of signed 64-bit integers. -/
theorem read_bounded {s : String} {entries : Entries} (h : read s = some entries) :
    entries.Bounded :=
  readLines_bounded Entries.bounded_nil h

end AccountAdmin.Toml
