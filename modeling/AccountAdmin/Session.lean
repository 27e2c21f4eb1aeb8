/-!
# Sessions

A session holds a token in memory and knows a *slot*, a place that outlives the program and holds at
most one token.  Opening a session takes the token from the slot.  From then on the two may differ:
a token set without keeping it replaces the one in memory only.  Clearing empties both.

What a slot is made of is left open: `TokenSlot` asks for three operations, and `MemorySlot` is the
plainest of slots.
-/

namespace AccountAdmin

/-- A place for at most one token. -/
class TokenSlot (σ : Type) where
  load : σ → Option String
  store : String → σ → σ
  remove : σ → σ

/-- A slot that is nothing but its content. -/
structure MemorySlot where
  content : Option String := none
  deriving DecidableEq, Repr, Inhabited

instance : TokenSlot MemorySlot where
  load s := s.content
  store t _ := ⟨some t⟩
  remove _ := ⟨none⟩

/-- A token in memory and a slot. -/
structure Session (σ : Type) where
  token : Option String
  slot : σ
  deriving DecidableEq, Repr

namespace Session

variable {σ : Type} [TokenSlot σ]

/-- A session that starts with the token in the slot. -/
def start (slot : σ) : Session σ := ⟨TokenSlot.load slot, slot⟩

/-- Whether there is a token in memory. -/
def hasToken (s : Session σ) : Bool := s.token.isSome

/-- Whether there is a token in the slot. -/
def isPersisted (s : Session σ) : Bool := (TokenSlot.load s.slot).isSome

/-- Sets the token in memory, and the one in the slot if it is to be kept. -/
def setToken (s : Session σ) (token : String) (keep : Bool) : Session σ :=
  ⟨some token, if keep then TokenSlot.store token s.slot else s.slot⟩

/-- Empties memory and slot. -/
def clear (s : Session σ) : Session σ := ⟨none, TokenSlot.remove s.slot⟩

@[simp] theorem token_setToken (s : Session σ) (token : String) (keep : Bool) :
    (s.setToken token keep).token = some token := rfl

@[simp] theorem token_clear (s : Session σ) : s.clear.token = none := rfl

end Session

end AccountAdmin
