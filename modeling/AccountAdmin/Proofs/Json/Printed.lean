import AccountAdmin.Json.Printer
import AccountAdmin.Proofs.Json.Completeness

/-!
# What is printed is grammatical

The compact text of a value is a document that says the value, with the fields of its objects in the
order in which the value has them (`written_compactText`).  So a value is read back from its compact
text, up to the order of fields (`read_compact`).

Doubles are left out: whether the shortest text of a double is read as that double is a matter of
arithmetic.  The records that the program sends have none.

* `Fits`: the values of which this holds, with a bound on how deep they are nested.
-/

namespace AccountAdmin.Json

open AccountAdmin.Text

/-- A value without doubles, with integers that are kept as such, in which so many arrays and
objects are nested. -/
inductive Fits : (depth : Nat) → Json → Prop where
  | null {depth : Nat} : Fits depth .null
  | bool {depth : Nat} (b : Bool) : Fits depth (.bool b)
  | integer {depth : Nat} {n : Int} (hmin : integerMin ≤ n) (hmax : n ≤ integerMax) :
      Fits depth (.integer n)
  | string {depth : Nat} (s : String) : Fits depth (.string s)
  | array {depth : Nat} {items : List Json} (h : ∀ v ∈ items, Fits depth v) :
      Fits (depth + 1) (.array items)
  | object {depth : Nat} {fields : List (String × Json)} (h : ∀ f ∈ fields, Fits depth f.2) :
      Fits (depth + 1) (.object fields)

/-! ## Strings -/

theorem codeUnit?_hexPadded {n : Nat} (h : n < 32) :
    ∃ a b c d, hexPadded 4 n = [a, b, c, d] ∧ codeUnit? a b c d = some n := by
  refine ⟨_, _, _, _, hexPadded_four (by omega), ?_⟩
  have hall : ∀ n < 32, codeUnit? '0' '0' (digitChar (n / 16)) (digitChar (n % 16)) = some n := by
    decide
  exact hall n h

/-- What stands for a character spells it. -/
theorem spelled_escape (c : Char) {t cs : List Char} (h : Spelled t cs) :
    Spelled (escape c ++ t) (c :: cs) := by
  unfold escape
  split
  · next hc =>
    subst hc
    exact .short rfl h
  next hquote =>
  split
  · next hc =>
    subst hc
    exact .short rfl h
  next hbackslash =>
  split
  · next hc =>
    have he : simpleEscape? 'b' = some c := by
      rw [← Char.ofNat_toNat c, hc]
      rfl
    exact .short he h
  split
  · next hc =>
    have he : simpleEscape? 'f' = some c := by
      rw [← Char.ofNat_toNat c, hc]
      rfl
    exact .short he h
  split
  · next hc => exact hc ▸ .short rfl h
  split
  · next hc => exact hc ▸ .short rfl h
  split
  · next hc => exact hc ▸ .short rfl h
  split
  · next hcontrol =>
    obtain ⟨x, y, z, w, hpad, hunit⟩ := codeUnit?_hexPadded hcontrol
    have hspelled := Spelled.unit hunit (.inl (by omega)) h
    rw [Char.ofNat_toNat] at hspelled
    rw [hpad]
    exact hspelled
  · next hcontrol => exact .plain hquote hbackslash (by omega) h

theorem spelled_flatMap_escape (cs : List Char) : Spelled (cs.flatMap escape) cs := by
  induction cs with
  | nil => exact .nil
  | cons c cs ih =>
    rw [List.flatMap_cons]
    exact spelled_escape c ih

theorem scalar_stringText (s : String) : Scalar (.string s) (stringText s) := by
  have h := Scalar.string (spelled_flatMap_escape s.toList)
  rwa [String.ofList_toList] at h

/-! ## Integers -/

theorem digits_decimal (n : Nat) : Digits (decimal n) := by
  obtain ⟨c, ds, hdecimal, -⟩ := decimal_eq_cons n
  refine ⟨?_, fun c hc => isDigit_of_mem_decimal hc⟩
  rw [hdecimal]
  exact List.cons_ne_nil c ds

/-- The digits of a number, with or without a sign. -/
theorem written_decimal (negative : Bool) (n : Nat) :
    Numeral.Written ⟨negative, decimal n, none, none⟩ (signText negative ++ decimal n) := by
  have hwhole : Whole (decimal n) := ⟨digits_decimal n, decimal_eq_zero⟩
  have h : Numeral.Written ⟨negative, decimal n, none, none⟩
      (signText negative ++ (decimal n ++ ([] ++ []))) := .parts hwhole .absent .absent
  rwa [List.append_nil, List.append_nil] at h

theorem scalar_decimalInt {n : Int} (hmin : integerMin ≤ n) (hmax : n ≤ integerMax) :
    Scalar (.integer n) (decimalInt n) := by
  cases n with
  | ofNat n =>
    have hvalue : Numeral.value? ⟨false, decimal n, none, none⟩ = some (.integer (.ofNat n)) := by
      rw [Numeral.value?]
      dsimp only
      rw [natOfDigits_decimal, if_neg Bool.false_ne_true]
      exact if_pos ⟨rfl, rfl, hmin, hmax, fun h => Bool.false_ne_true h.1⟩
    exact .number (written_decimal false n) hvalue
  | negSucc n =>
    have hvalue : Numeral.value? ⟨true, decimal (n + 1), none, none⟩ =
        some (.integer (.negSucc n)) := by
      rw [Numeral.value?]
      dsimp only
      rw [natOfDigits_decimal, if_pos rfl]
      refine if_pos ⟨rfl, rfl, hmin, hmax, ?_⟩
      rintro ⟨-, hzero⟩
      omega
    exact .number (written_decimal true (n + 1)) hvalue

/-! ## Arrays and objects -/

section

variable {W : Json → List Char → Prop}

theorem padded_of_text {v : Json} {t : List Char} (h : W v t) : Padded W v t := by
  have hpadded := Padded.mk gap_nil h gap_nil
  rwa [List.nil_append, List.append_nil] at hpadded

theorem member_stringText (key : String) {v : Json} {t : List Char} (h : W v t) :
    Member W (key, v) (stringText key ++ ':' :: t) := by
  have hmember :=
    Member.mk gap_nil (spelled_flatMap_escape key.toList) gap_nil (padded_of_text h)
  rw [String.ofList_toList, List.nil_append, List.nil_append] at hmember
  rw [stringText, List.cons_append, List.append_assoc]
  exact hmember

theorem listed_compactItems : ∀ {items : List Json}, items ≠ [] →
    (∀ v ∈ items, W v (compactText v)) → Listed (Padded W) items (compactItems items)
  | [], hne, _ => absurd rfl hne
  | [v], _, h => by
    rw [compactItems]
    exact .last (padded_of_text (h v List.mem_cons_self))
  | v :: w :: rest, _, h => by
    rw [compactItems]
    exact .more (padded_of_text (h v List.mem_cons_self))
      (listed_compactItems (List.cons_ne_nil w rest) fun u hu => h u (List.mem_cons_of_mem v hu))

theorem listed_compactFields : ∀ {fields : List (String × Json)}, fields ≠ [] →
    (∀ f ∈ fields, W f.2 (compactText f.2)) → Listed (Member W) fields (compactFields fields)
  | [], hne, _ => absurd rfl hne
  | [(key, v)], _, h => by
    rw [compactFields]
    exact .last (member_stringText key (h (key, v) List.mem_cons_self))
  | (key, v) :: field :: rest, _, h => by
    have hmember := member_stringText key (h (key, v) List.mem_cons_self)
    have hrest := listed_compactFields (List.cons_ne_nil field rest)
      fun f hf => h f (List.mem_cons_of_mem _ hf)
    have hmore := Listed.more hmember hrest
    rw [List.append_assoc, List.cons_append] at hmore
    rw [compactFields]
    exact hmore

end

/-! ## Values -/

/-- The compact text of a value says the value. -/
theorem written_compactText {depth : Nat} {v : Json} (h : Fits depth v) :
    Written depth v (compactText v) := by
  induction h with
  | null => exact Scalar.null.written _
  | bool b =>
    cases b with
    | true => exact Scalar.yes.written _
    | false => exact Scalar.no.written _
  | integer hmin hmax => exact (scalar_decimalInt hmin hmax).written _
  | string s => exact (scalar_stringText s).written _
  | @array depth items _ ih =>
    rw [compactText]
    cases items with
    | nil => exact .inr (.emptyArray gap_nil)
    | cons v items => exact .inr (.array (listed_compactItems (List.cons_ne_nil v items) ih))
  | @object depth fields _ ih =>
    rw [compactText]
    cases fields with
    | nil => exact .inr (.emptyObject gap_nil)
    | cons f fields => exact .inr (.object (listed_compactFields (List.cons_ne_nil f fields) ih))

/-- The compact text of a value is a document that says the value. -/
theorem document_compact {v : Json} (h : Fits maxDepth v) : Document v v.compact.toList := by
  rw [compact, String.toList_ofList]
  exact padded_of_text (written_compactText h)

/-- A value is read back from its compact text, up to the order of fields. -/
theorem read_compact {v : Json} (h : Fits maxDepth v) : read v.compact = some v.canonical :=
  readText_document (document_compact h)

end AccountAdmin.Json
