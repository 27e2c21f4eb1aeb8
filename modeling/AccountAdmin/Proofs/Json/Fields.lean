import AccountAdmin.Json.Decode
import AccountAdmin.Proofs.Json.Grammar

/-!
# The fields of an object, one after another

A record is decoded from an object by going through its fields, each of which updates what has been
found so far.  Three things are said here about such a run, whatever the record is.  Fields that are
given by position are the same as fields that are given by key (`Decode.positions_map`).  A field
that updates nothing can be left out (`Decode.fields_filter`): it may be that only the field itself
can make a difference to its own part of the record, and then it is enough to know that this part is
still as it was at the start, because no other field has the same key.  And one field that is always
refused is enough to have the whole object refused (`Decode.exists_error_of_mem`).

An object that was read has each key once (`Json.canonical_eq_object`), because its keys are in
increasing order.

* `Json.KeysOnce`: no two fields have the same key.
-/

namespace AccountAdmin

/-! ## Keys -/

namespace Json

/-- No two fields have the same key. -/
def KeysOnce (fields : List (String × Json)) : Prop := (fields.map Prod.fst).Nodup

theorem KeysOnce.tail {f : String × Json} {rest : List (String × Json)}
    (h : KeysOnce (f :: rest)) : KeysOnce rest :=
  (List.nodup_cons.1 h).2

theorem KeysOnce.ne {f g : String × Json} {rest : List (String × Json)}
    (h : KeysOnce (f :: rest)) (hg : g ∈ rest) : f.1 ≠ g.1 := by
  intro heq
  have hmem : f.1 ∈ rest.map Prod.fst := List.mem_map.2 ⟨g, hg, heq.symm⟩
  exact (List.nodup_cons.1 h).1 hmem

/-- Different keys for values in a list. -/
theorem keysOnce_zip {keys : List String} (h : keys.Nodup) (values : List Json) :
    KeysOnce (keys.zip values) := by
  rw [KeysOnce, List.zip_eq_zip_take_min, List.map_fst_zip (by simp)]
  exact h.sublist (List.take_sublist _ _)

theorem lastUnder?_singleton (name key : String) (v : Json) :
    lastUnder? name [(key, v)] = if key = name then some v else none := rfl

theorem lastUnder?_eq_none {name : String} {fields : List (String × Json)}
    (h : ∀ f ∈ fields, f.1 ≠ name) : lastUnder? name fields = none := by
  induction fields with
  | nil => rfl
  | cons f rest ih =>
    obtain ⟨hf, hrest⟩ := List.forall_mem_cons.1 h
    rw [lastUnder?, ih hrest, if_neg hf]
    rfl

/-- If no two fields have the same key, then each field is found under its key. -/
theorem lastUnder?_of_mem {fields : List (String × Json)} (hkeys : KeysOnce fields)
    {f : String × Json} (hf : f ∈ fields) : lastUnder? f.1 fields = some f.2 := by
  induction fields with
  | nil => cases hf
  | cons g rest ih =>
    rw [lastUnder?]
    rcases List.mem_cons.1 hf with rfl | hf
    · rw [lastUnder?_eq_none fun g hg => (hkeys.ne hg).symm, if_pos rfl]
      rfl
    · rw [ih hkeys.tail hf]
      rfl

/-! ## Objects that were read -/

/-- The keys are in increasing order. -/
def Increasing (fields : List (String × Json)) : Prop := (fields.map Prod.fst).Pairwise (· < ·)

theorem increasing_nil : Increasing [] := List.Pairwise.nil

theorem Increasing.keysOnce {fields : List (String × Json)} (h : Increasing fields) :
    KeysOnce fields := by
  refine List.Pairwise.imp (fun {a b} hlt heq => ?_) h
  subst heq
  exact String.lt_irrefl a hlt

theorem mem_insertField {f : String × Json} {key : String} {value : Json}
    {fields : List (String × Json)} (h : f ∈ insertField key value fields) :
    f = (key, value) ∨ f ∈ fields := by
  induction fields with
  | nil => exact .inl (List.mem_singleton.1 h)
  | cons g rest ih =>
    obtain ⟨k, v⟩ := g
    rw [insertField] at h
    split at h
    · exact List.mem_cons.1 h
    split at h
    · exact (List.mem_cons.1 h).imp_right (List.mem_cons_of_mem _)
    · rcases List.mem_cons.1 h with rfl | h
      · exact .inr List.mem_cons_self
      · exact (ih h).imp_right (List.mem_cons_of_mem _)

theorem Increasing.insertField {fields : List (String × Json)} (h : Increasing fields)
    (key : String) (value : Json) : Increasing (insertField key value fields) := by
  induction fields with
  | nil => exact List.pairwise_singleton _ _
  | cons g rest ih =>
    obtain ⟨k, v⟩ := g
    obtain ⟨hfirst, hrest⟩ := List.pairwise_cons.1 h
    rw [Json.insertField]
    split
    · next hlt =>
      refine List.pairwise_cons.2 ⟨fun x hx => ?_, h⟩
      rcases List.mem_cons.1 hx with rfl | hx
      · exact hlt
      · exact String.lt_trans hlt (hfirst x hx)
    split
    · next heq =>
      subst heq
      exact h
    · next hge hne =>
      have hlt : k < key := Decidable.byContradiction fun h =>
        hne (String.le_antisymm (String.not_lt.1 h) (String.not_lt.1 hge))
      refine List.pairwise_cons.2 ⟨fun x hx => ?_, ih hrest⟩
      obtain ⟨f, hf, rfl⟩ := List.mem_map.1 hx
      rcases mem_insertField hf with rfl | hf
      · exact hlt
      · exact hfirst _ (List.mem_map_of_mem hf)

theorem mem_foldl_insertField {f : String × Json} {fields sorted : List (String × Json)}
    (h : f ∈ fields.foldl (fun sorted field => insertField field.1 field.2 sorted) sorted) :
    f ∈ fields ∨ f ∈ sorted := by
  induction fields generalizing sorted with
  | nil => exact .inr h
  | cons g rest ih =>
    rcases ih h with h | h
    · exact .inl (List.mem_cons_of_mem g h)
    · exact (mem_insertField h).imp_left fun heq => List.mem_cons.2 (.inl heq)

/-- Sorting adds no fields. -/
theorem mem_sortFields {f : String × Json} {fields : List (String × Json)}
    (h : f ∈ sortFields fields) : f ∈ fields :=
  (mem_foldl_insertField h).resolve_right List.not_mem_nil

theorem increasing_foldl_insertField {fields sorted : List (String × Json)}
    (h : Increasing sorted) :
    Increasing (fields.foldl (fun sorted field => insertField field.1 field.2 sorted) sorted) := by
  induction fields generalizing sorted with
  | nil => exact h
  | cons g rest ih => exact ih (h.insertField g.1 g.2)

theorem keysOnce_sortFields (fields : List (String × Json)) : KeysOnce (sortFields fields) :=
  (increasing_foldl_insertField increasing_nil).keysOnce

theorem exists_canonical_of_mem {f : String × Json} {fields : List (String × Json)}
    (h : f ∈ canonicalFields fields) : ∃ v, f.2 = canonical v := by
  induction fields with
  | nil => cases h
  | cons g rest ih =>
    obtain ⟨k, v⟩ := g
    rcases List.mem_cons.1 h with rfl | h
    · exact ⟨v, rfl⟩
    · exact ih h

/-- An object that was read has each key once, and its values are what is read of values. -/
theorem canonical_eq_object {v : Json} {fields : List (String × Json)}
    (h : canonical v = .object fields) :
    KeysOnce fields ∧ ∀ f ∈ fields, ∃ w, f.2 = canonical w := by
  cases v with
  | object written =>
    rw [canonical] at h
    obtain rfl := Json.object.inj h
    exact ⟨keysOnce_sortFields _, fun f hf => exists_canonical_of_mem (mem_sortFields hf)⟩
  | _ => cases h

end Json

/-! ## Decoding -/

namespace Decode

variable {α : Type} {update : α → String → Json → Except Mismatch α}

/-- Fields by position are fields by key, if the keys are listed in the order of the positions.
Items beyond the last key are not looked at. -/
theorem positions_map (update : α → String → Json → Except Mismatch α) (keys : List String)
    (start : α) (items : List Json) :
    positions (keys.map fun key a v => update a key v) start items =
      fields update start (keys.zip items) := by
  induction items generalizing keys start with
  | nil =>
    rw [List.zip_nil_right, positions, fields]
  | cons v rest ih =>
    cases keys with
    | nil => rfl
    | cons key keys =>
      rw [List.map_cons, List.zip_cons_cons, positions, fields]
      cases update start key v with
      | error e => rfl
      | ok next => exact ih keys next

/-- Fields can be left out that update nothing as long as their part is vacant: no other field
changes that, because the keys are different. -/
theorem fields_filter (vacant : String → α → Prop) {p : String × Json → Bool}
    (hkeep : ∀ {a b : α} {k key : String} {v : Json}, vacant key a → k ≠ key →
      update a k v = .ok b → vacant key b)
    {fs : List (String × Json)} (hkeys : Json.KeysOnce fs)
    (hdrop : ∀ f ∈ fs, p f = false → ∀ a, vacant f.1 a → update a f.1 f.2 = .ok a) {start : α}
    (hstart : ∀ f ∈ fs, p f = false → vacant f.1 start) :
    fields update start (fs.filter p) = fields update start fs := by
  induction fs generalizing start with
  | nil => rfl
  | cons f rest ih =>
    obtain ⟨hdropf, hdroprest⟩ := List.forall_mem_cons.1 hdrop
    obtain ⟨hstartf, hstartrest⟩ := List.forall_mem_cons.1 hstart
    cases hp : p f with
    | false =>
      rw [List.filter_cons_of_neg (by simp [hp]), fields, hdropf hp start (hstartf hp)]
      exact ih hkeys.tail hdroprest hstartrest
    | true =>
      rw [List.filter_cons_of_pos hp, fields, fields]
      cases hupdate : update start f.1 f.2 with
      | error e => rfl
      | ok next =>
        refine ih hkeys.tail hdroprest fun g hg hpg => ?_
        exact hkeep (hstartrest g hg hpg) (hkeys.ne hg) hupdate

/-- Values can be replaced by others that update the same. -/
theorem fields_map {g : String × Json → String × Json} {fs : List (String × Json)}
    (h : ∀ f ∈ fs, ∀ a, update a (g f).1 (g f).2 = update a f.1 f.2) (start : α) :
    fields update start (fs.map g) = fields update start fs := by
  induction fs generalizing start with
  | nil => rfl
  | cons f rest ih =>
    obtain ⟨hf, hrest⟩ := List.forall_mem_cons.1 h
    rw [List.map_cons, fields, fields, hf start]
    cases update start f.1 f.2 with
    | error e => rfl
    | ok next => exact ih hrest next

/-- One field that is refused whatever was found before it is enough to refuse them all. -/
theorem exists_error_of_mem {fs : List (String × Json)} {f : String × Json} (hf : f ∈ fs)
    (h : ∀ a, ∃ e, update a f.1 f.2 = .error e) (start : α) :
    ∃ e, fields update start fs = .error e := by
  induction fs generalizing start with
  | nil => cases hf
  | cons g rest ih =>
    rw [fields]
    cases hupdate : update start g.1 g.2 with
    | error e => exact ⟨e, rfl⟩
    | ok next =>
      rcases List.mem_cons.1 hf with rfl | hf
      · obtain ⟨e, he⟩ := h start
        rw [he] at hupdate
        cases hupdate
      · exact ih hf next

end Decode

end AccountAdmin
