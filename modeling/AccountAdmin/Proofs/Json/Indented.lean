import AccountAdmin.Proofs.Json.Printed

/-!
# Indented text is grammatical

The indented text of a value differs from the compact one by the gaps between its tokens: a line
break before every item, field and closing bracket, and a space behind every colon.  The grammar
lets gaps stand there, so the indented text is a document as well, and says the same value
(`document_indented`), at whatever level it is put (`written_indentedText`).

The items of an array are listed with the line breaks that stand before the first one and behind the
last one, since these belong to the gaps around them.
-/

namespace AccountAdmin.Json

open AccountAdmin.Text

theorem gap_lineBreak (level : Nat) : Gap (lineBreak level) := by
  intro c hc
  rw [lineBreak, List.mem_cons, List.mem_replicate] at hc
  rcases hc with rfl | ⟨-, rfl⟩
  · rfl
  · rfl

section

variable {W : Json → List Char → Prop} {level : Nat}

/-- Items with a line break between them, and gaps around them all. -/
theorem listed_indentedItems : ∀ {items : List Json} {g g' : List Char}, items ≠ [] → Gap g →
    Gap g' → (∀ v ∈ items, W v (indentedText level v)) →
      Listed (Padded W) items (g ++ indentedItems level items ++ g')
  | [], _, _, hne, _, _, _ => absurd rfl hne
  | [v], g, g', _, hg, hg', h => by
    rw [indentedItems, List.append_assoc]
    exact .last (.mk hg (h v List.mem_cons_self) hg')
  | v :: w :: rest, g, g', _, hg, hg', h => by
    have hitem := Padded.mk hg (h v List.mem_cons_self) gap_nil
    have hrest := listed_indentedItems (List.cons_ne_nil w rest) (gap_lineBreak level) hg'
      fun u hu => h u (List.mem_cons_of_mem v hu)
    rw [indentedItems]
    simpa using Listed.more hitem hrest

/-- A field with gaps around it. -/
theorem member_indented (key : String) {v : Json} {t g g' : List Char} (hg : Gap g) (hg' : Gap g')
    (h : W v t) : Member W (key, v) (g ++ (stringText key ++ ':' :: ' ' :: t) ++ g') := by
  have hspace : Gap [' '] := fun c hc => List.mem_singleton.1 hc ▸ rfl
  have hmember := Member.mk hg (spelled_flatMap_escape key.toList) gap_nil (.mk hspace h hg')
  rw [String.ofList_toList] at hmember
  simpa [stringText] using hmember

/-- Fields with a line break between them, and gaps around them all. -/
theorem listed_indentedFields : ∀ {fields : List (String × Json)} {g g' : List Char}, fields ≠ [] →
    Gap g → Gap g' → (∀ f ∈ fields, W f.2 (indentedText level f.2)) →
      Listed (Member W) fields (g ++ indentedFields level fields ++ g')
  | [], _, _, hne, _, _, _ => absurd rfl hne
  | [(key, v)], g, g', _, hg, hg', h => by
    rw [indentedFields]
    exact .last (member_indented key hg hg' (h (key, v) List.mem_cons_self))
  | (key, v) :: field :: rest, g, g', _, hg, hg', h => by
    have hfield := member_indented key hg gap_nil (h (key, v) List.mem_cons_self)
    have hrest := listed_indentedFields (List.cons_ne_nil field rest) (gap_lineBreak level) hg'
      fun f hf => h f (List.mem_cons_of_mem _ hf)
    rw [indentedFields]
    simpa using Listed.more hfield hrest

end

/-- The indented text of a value says the value. -/
theorem written_indentedText {depth : Nat} {v : Json} (h : Fits depth v) (level : Nat) :
    Written depth v (indentedText level v) := by
  induction h generalizing level with
  | null => exact Scalar.null.written _
  | bool b =>
    cases b with
    | true => exact Scalar.yes.written _
    | false => exact Scalar.no.written _
  | integer hmin hmax => exact (scalar_decimalInt hmin hmax).written _
  | string s => exact (scalar_stringText s).written _
  | @array depth items _ ih =>
    cases items with
    | nil => exact .inr (.emptyArray gap_nil)
    | cons v items =>
      rw [indentedText]
      have hlisted := listed_indentedItems (List.cons_ne_nil v items) (gap_lineBreak (level + 1))
        (gap_lineBreak level) fun w hw => ih w hw (level + 1)
      exact .inr (.array hlisted)
  | @object depth fields _ ih =>
    cases fields with
    | nil => exact .inr (.emptyObject gap_nil)
    | cons f fields =>
      rw [indentedText]
      have hlisted := listed_indentedFields (List.cons_ne_nil f fields) (gap_lineBreak (level + 1))
        (gap_lineBreak level) fun w hw => ih w hw (level + 1)
      exact .inr (.object hlisted)

/-- An array ends with its bracket, and with no line break behind that. -/
theorem getLast?_indented_array (items : List Json) :
    (Json.array items).indented.toList.getLast? = some ']' := by
  rw [indented, String.toList_ofList]
  cases items with
  | nil => rfl
  | cons v items => rw [indentedText, ← List.cons_append, List.getLast?_concat]

/-- An object ends with its bracket, and with no line break behind that. -/
theorem getLast?_indented_object (fields : List (String × Json)) :
    (Json.object fields).indented.toList.getLast? = some '\x7d' := by
  rw [indented, String.toList_ofList]
  cases fields with
  | nil => rfl
  | cons f fields => rw [indentedText, ← List.cons_append, List.getLast?_concat]

/-- The indented text of a value is a document that says the value. -/
theorem document_indented {v : Json} (h : Fits maxDepth v) : Document v v.indented.toList := by
  rw [indented, String.toList_ofList]
  exact padded_of_text (written_indentedText h 0)

end AccountAdmin.Json
