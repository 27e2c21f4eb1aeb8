import AccountAdmin.Proofs.Console.Course
import AccountAdmin.Proofs.Display.Rendering

/-!
# Data are shown once

Of all the events of an action at most one shows data: the current user or a list of users.  An
action that makes two calls shows a notice behind the first one, and the data of the second.

Whether the current user is data depends on whether it is echoed, so the count is made with and
without (`Outcome.Draws`).  It adds up along `Outcome.andThen`.
-/

namespace AccountAdmin

namespace Outcome

variable {σ α β : Type}

/-- At most so many of the events show data. -/
def Draws (echo : Bool) (n : Nat) (o : Outcome σ α) : Prop :=
  (o.events.filterMap (Event.document? echo)).length ≤ n

variable {echo : Bool} {m n : Nat} {o : Outcome σ α} {next : α → Console σ → Outcome σ β}

theorem Draws.add (h : o.Draws echo m) (hnext : ∀ a c, (next a c).Draws echo n) :
    (o.andThen next).Draws echo (m + n) := by
  rw [Draws] at h ⊢
  cases hresult : o.result with
  | error e =>
    rw [andThen_of_error hresult]
    exact Nat.le_add_right_of_le h
  | ok a =>
    rw [andThen_of_ok hresult, List.filterMap_append, List.length_append]
    exact Nat.add_le_add h (hnext a o.console)

/-- Nothing is shown in front. -/
theorem Draws.andThen (h : o.Draws echo 0) (hnext : ∀ a c, (next a c).Draws echo n) :
    (o.andThen next).Draws echo n := by
  have hadd := h.add hnext
  rwa [Nat.zero_add] at hadd

/-- Nothing is shown behind. -/
theorem Draws.andThen_of_nothing (h : o.Draws echo n) (hnext : ∀ a c, (next a c).Draws echo 0) :
    (o.andThen next).Draws echo n := h.add hnext

theorem Draws.map (h : o.Draws echo n) (f : α → β) : (o.map f).Draws echo n := h

end Outcome

namespace Console

variable {σ : Type} (c : Console σ) {echo : Bool}

theorem draws_tell {n : Nat} {events : List Event}
    (h : (events.filterMap (Event.document? echo)).length ≤ n) : (c.tell events).Draws echo n := h

theorem draws_report {α : Type} (r : Except Error α) : (c.report r).Draws echo 0 := by
  cases r <;> exact Nat.le_refl 0

theorem draws_apply (u : UserRecord) : (c.apply u).Draws true 1 := draws_tell _ (Nat.le_refl 1)

theorem draws_apply_of_not_echo (u : UserRecord) : (c.apply u).Draws false 0 :=
  draws_tell _ (Nat.le_refl 0)

variable [TokenSlot σ]

theorem draws_perform (call : Call) : (c.perform call).Draws echo 0 := draws_report _ _

theorem draws_refreshUser_of_not_echo : c.refreshUser.Draws false 0 :=
  (c.draws_perform .current).andThen fun u c => c.draws_apply_of_not_echo u

/-! ## Actions -/

theorem draws_refreshUser : c.refreshUser.Draws true 1 :=
  (c.draws_perform .current).andThen fun u c => c.draws_apply u

theorem draws_login (credentials : Credentials) (keep : Bool) :
    (c.login credentials keep).Draws true 1 := by
  refine (c.draws_perform (.authenticate credentials)).andThen fun (answer : SignIn) c => ?_
  refine (draws_apply _ answer.user).andThen_of_nothing fun _ c => c.draws_tell ?_
  cases answer.mustChangePassword <;> exact Nat.le_refl 0

theorem draws_logout : c.logout.Draws true 1 := draws_apply _ _

theorem draws_changePassword (old new again : String) :
    (c.changePassword old new again).Draws true 0 := by
  rw [changePassword]
  split
  · exact (c.draws_perform _).andThen fun _ c => c.draws_tell (Nat.le_refl 0)
  · exact c.draws_report _

theorem draws_updateProfile (displayName : String) : (c.updateProfile displayName).Draws true 1 :=
  (c.draws_perform (.updateDetails ⟨c.user.id, displayName⟩)).andThen fun u c =>
    (c.draws_apply u).andThen_of_nothing fun _ c => c.draws_tell (Nat.le_refl 0)

theorem draws_listUsers : c.listUsers.Draws true 1 :=
  (c.draws_perform .list).andThen fun _ c => (c.draws_tell (Nat.le_refl 1)).map _

theorem draws_showUser (id : UserId) : (c.showUser id).Draws true 1 :=
  (c.draws_perform (.get id)).andThen fun _ c => (c.draws_tell (Nat.le_refl 1)).map _

/-- What was done is a notice, or closes a dialog. -/
theorem draws_redraw {done : Event} (hdone : done.document? true = none) :
    (c.redraw done).Draws true 1 := by
  have hnothing : ([done].filterMap (Event.document? true)).length ≤ 0 := by
    rw [List.filterMap_cons_none hdone]
    exact Nat.le_refl 0
  exact (c.draws_tell hnothing).andThen fun _ c => c.draws_listUsers.map _

theorem draws_addUser (user : NewUser) : (c.addUser user).Draws true 1 :=
  (c.draws_perform (.create user)).andThen fun _ c => c.draws_redraw rfl

theorem draws_resetUserPassword (user : UserRecord) : (c.resetUserPassword user).Draws true 0 :=
  (c.draws_report user.requireId).andThen fun id c =>
    (c.draws_perform (.resetPassword id)).andThen fun _ c => c.draws_tell (Nat.le_refl 0)

theorem draws_setUserEnabled (user : UserRecord) (enabled : Bool) :
    (c.setUserEnabled user enabled).Draws true 1 :=
  (c.draws_report user.requireId).andThen fun id c =>
    (c.draws_perform (.setStatus ⟨id, !enabled⟩)).andThen fun _ c => c.draws_redraw rfl

theorem draws_deleteUser (user : UserRecord) : (c.deleteUser user).Draws true 1 :=
  (c.draws_report user.requireId).andThen fun id c =>
    (c.draws_perform (.delete id)).andThen fun _ c => c.draws_redraw rfl

end Console

end AccountAdmin
