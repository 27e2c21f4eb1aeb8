import AccountAdmin.Diagnostic
import AccountAdmin.Proofs.Service.Exchange
import AccountAdmin.Proofs.Text.Quoted

/-!
# What diagnostics show of a token

The texts of a builder, of a client and of a console show of a session only whether it holds a
token.  The text of a session on its own shows its slot as well, and the slot shows its token: the
text gives the token away altogether, since a quoted text tells the text
(`Session.diagnostic_eq_iff`).

`diagnostics_of_presence` compares two sessions that both hold a token, or both hold none.
-/

namespace AccountAdmin

/-! ## Texts in front of a text -/

theorem toList_append_append (a b : String) (s : List Char) :
    (a ++ b).toList ++ s = a.toList ++ (b.toList ++ s) := by
  rw [String.toList_append, List.append_assoc]

/-- A common text in front may be left out. -/
theorem append_cancel_front {p a b : String} {s t : List Char}
    (h : (p ++ a).toList ++ s = (p ++ b).toList ++ t) : a.toList ++ s = b.toList ++ t := by
  rw [toList_append_append, toList_append_append] at h
  exact List.append_cancel_left h

theorem flagText_append_inj {a b : Bool} {s t : List Char}
    (h : (flagText a).toList ++ s = (flagText b).toList ++ t) : a = b ∧ s = t := by
  cases a <;> cases b
  · exact ⟨rfl, List.append_cancel_left h⟩
  · exact absurd (List.cons.inj h).1 (by decide)
  · exact absurd (List.cons.inj h).1 (by decide)
  · exact ⟨rfl, List.append_cancel_left h⟩

/-- The text of an empty slot goes on where the text of another one has a key. -/
theorem empty_ne_entry (token : String) (s t : List Char) :
    "".toList ++ ("\x7d, poisoned: false, .. \x7d \x7d".toList ++ s) ≠
      (Text.quoted "token" ++ ": " ++ Text.quoted token).toList ++ t := by
  intro h
  have hhead := congrArg List.head? h
  simp [Text.quoted] at hhead

/-- The text of a slot gives away its token. -/
theorem MemorySlot.diagnostic_append_inj {a b : MemorySlot} {s t : List Char}
    (h : a.diagnostic.toList ++ s = b.diagnostic.toList ++ t) : a = b ∧ s = t := by
  obtain ⟨a⟩ := a
  obtain ⟨b⟩ := b
  unfold diagnostic at h
  rw [toList_append_append _ _ s, toList_append_append _ _ t] at h
  replace h := append_cancel_front h
  cases a with
  | none =>
    cases b with
    | none => exact ⟨rfl, List.append_cancel_left h⟩
    | some token => exact absurd h (empty_ne_entry token s _)
  | some token =>
    cases b with
    | none => exact absurd h.symm (empty_ne_entry token t _)
    | some token' =>
      obtain ⟨rfl, hrest⟩ := Text.quoted_append_inj (append_cancel_front h)
      exact ⟨rfl, List.append_cancel_left hrest⟩

/-- The text of a session tells whether there is a token in memory and what is in the slot. -/
theorem Session.diagnostic_eq_iff {s₁ s₂ : Session MemorySlot} :
    s₁.diagnostic = s₂.diagnostic ↔ s₁.hasToken = s₂.hasToken ∧ s₁.slot = s₂.slot := by
  constructor
  · intro h
    replace h := congrArg (·.toList ++ []) h
    dsimp only [diagnostic] at h
    simp only [toList_append_append] at h
    obtain ⟨htoken, hrest⟩ := flagText_append_inj (List.append_cancel_left h)
    exact ⟨htoken, (MemorySlot.diagnostic_append_inj (List.append_cancel_left hrest)).1⟩
  · rintro ⟨htoken, hslot⟩
    unfold diagnostic
    rw [htoken, hslot]

/-! ## Two sessions -/

/-- Two sessions that both hold a token, or both hold none, look the same in the texts of a builder,
of a client that is built for an endpoint, and of a console with that client.  Their own texts are
the same exactly if what is in their slots is the same. -/
theorem diagnostics_of_presence {s₁ s₂ : Session MemorySlot} (h : s₁.hasToken = s₂.hasToken)
    (e : Endpoint) :
    e.builderDiagnostic (some s₁) = e.builderDiagnostic (some s₂) ∧
    (∀ peer₁ peer₂ c₁ c₂, Client.build e s₁ peer₁ = .ok c₁ → Client.build e s₂ peer₂ = .ok c₂ →
      c₁.diagnostic = c₂.diagnostic ∧
      ∀ user, (Console.mk c₁ user).diagnostic = (Console.mk c₂ user).diagnostic) ∧
    (s₁.diagnostic = s₂.diagnostic ↔ s₁.slot = s₂.slot) := by
  refine ⟨?_, fun peer₁ peer₂ c₁ c₂ h₁ h₂ => ?_, ?_⟩
  · unfold Endpoint.builderDiagnostic Endpoint.optionText
    dsimp only
    rw [h]
  · have hclient : c₁.diagnostic = c₂.diagnostic := by
      rw [(Client.build_eq_ok_iff.1 h₁).2, (Client.build_eq_ok_iff.1 h₂).2]
      unfold Client.diagnostic Client.isAuthenticated
      dsimp only
      rw [h]
    refine ⟨hclient, fun user => ?_⟩
    unfold Console.diagnostic
    dsimp only
    rw [hclient]
  · rw [Session.diagnostic_eq_iff, and_iff_right h]

/-- Two tokens, one of them with a quote in it. -/
theorem diagnostics_of_presence_quote :
    let s₁ : Session MemorySlot := .start ⟨some "secret"⟩
    let s₂ : Session MemorySlot := .start ⟨some "\""⟩
    s₁.hasToken = s₂.hasToken ∧
      Endpoint.default.builderDiagnostic (some s₁) = Endpoint.default.builderDiagnostic (some s₂) ∧
      s₁.diagnostic ≠ s₂.diagnostic := by
  intro s₁ s₂
  have hpresence : s₁.hasToken = s₂.hasToken := rfl
  obtain ⟨hbuilder, -, hsession⟩ := diagnostics_of_presence hpresence .default
  exact ⟨hpresence, hbuilder, fun h => absurd (hsession.1 h) (by decide)⟩

/-- Two sessions that were opened on slots with a token each have different texts. -/
theorem session_diagnostic_reveals_token :
    (Session.start (⟨some "a"⟩ : MemorySlot)).hasToken =
        (Session.start (⟨some "b"⟩ : MemorySlot)).hasToken ∧
      (Session.start (⟨some "a"⟩ : MemorySlot)).diagnostic ≠
        (Session.start (⟨some "b"⟩ : MemorySlot)).diagnostic :=
  ⟨rfl, fun h => absurd (Session.diagnostic_eq_iff.1 h).2 (by decide)⟩

end AccountAdmin
