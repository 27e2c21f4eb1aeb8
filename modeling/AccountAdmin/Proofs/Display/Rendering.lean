import AccountAdmin.Display.Terminal

/-!
# Where an event is shown

The terminal prints on two streams.  Data, and in most formats notices, go to the output; whatever
else there is to say goes to the errors.  An event that shows a failure becomes one line among the
errors that says so, and no other event becomes such a line, in any format (`failures_render`).

In JSON the output is kept for data.  There an event that shows data becomes one document, and all
other events leave the output alone (`output_render_json`).

* `Piece.stream`, `Piece.isError`: the stream of a piece, and whether it says that something is
  wrong.
* `Piece.output?`: what a piece adds to the output.
* `Event.failure?`: the failure that an event shows.
* `Event.document?`: the document that an event becomes in JSON.
-/

namespace AccountAdmin

/-! ## Pieces -/

/-- The streams that the program prints on. -/
inductive Stream where
  | output
  | errors
  deriving DecidableEq, Repr

namespace Piece

/-- The stream of a piece. -/
def stream : Piece → Stream
  | data _ => .output
  | hint _ | failure _ | misuse => .errors

/-- Whether a piece says that something is wrong. -/
def isError : Piece → Bool
  | data _ | hint _ => false
  | failure _ | misuse => true

/-- What a piece adds to the output. -/
def output? : Piece → Option String
  | data text => some text
  | hint _ | failure _ | misuse => none

theorem isError_of_stream {p : Piece} (h : p.stream = .output) : p.isError = false := by
  cases p with
  | data text => rfl
  | hint text | failure text | misuse => cases h

end Piece

namespace Event

/-- The failure that an event shows. -/
def failure? : Event → Option Error
  | reportError e => some e
  | applyUser _ | drawUserList _ | openModal _ | closeModal _ | notify _ | passwordChangeRequired =>
    none

/-- The document that an event becomes in JSON; the current user becomes one only if it is
echoed. -/
def document? (echo : Bool) : Event → Option Json
  | applyUser u => if echo then some (.array [(SessionRow.ofUser u).toJson]) else none
  | drawUserList us => some (.array (us.map fun u => (UserRow.ofRecord u).toJson))
  | openModal _ | closeModal _ | notify _ | reportError _ | passwordChangeRequired => none

end Event

/-! ## Rows -/

namespace Terminal

/-- Rows are data, in every format. -/
theorem stream_rows {α : Type} (t : Terminal) (headers : List String) (cells : α → List String)
    (toJson : α → Json) {plain : α → List Piece} (hplain : ∀ a, ∀ p ∈ plain a, p.stream = .output)
    (items : List α) : ∀ p ∈ t.rows headers cells toJson plain items, p.stream = .output := by
  have hline (s : String) : ∀ p ∈ [line s], p.stream = .output :=
    fun p hp => List.mem_singleton.1 hp ▸ rfl
  intro p hp
  rw [rows] at hp
  cases hformat : t.format with
  | json =>
    rw [hformat] at hp
    exact hline _ p hp
  | table =>
    rw [hformat] at hp
    dsimp only at hp
    split at hp
    · exact hline _ p hp
    · exact hline _ p hp
  | plain =>
    rw [hformat] at hp
    dsimp only at hp
    split at hp
    · exact hline _ p hp
    · obtain ⟨a, -, hpa⟩ := List.mem_flatMap.1 hp
      exact hplain a p hpa

theorem stream_user (t : Terminal) (u : CurrentUser) : ∀ p ∈ t.user u, p.stream = .output := by
  refine t.stream_rows _ _ _ (fun r p hp => ?_) _
  rw [plainSession, List.mem_singleton] at hp
  exact hp ▸ rfl

theorem stream_users (t : Terminal) (us : List UserRecord) :
    ∀ p ∈ t.users us, p.stream = .output := by
  refine t.stream_rows _ _ _ (fun r p hp => ?_) _
  rw [plainUser, List.mem_cons, List.mem_singleton] at hp
  rcases hp with rfl | rfl
  · rfl
  · rfl

/-! ## Failures -/

theorem filter_isError_of_output {ps : List Piece} (h : ∀ p ∈ ps, p.stream = .output) :
    ps.filter Piece.isError = [] :=
  List.filter_eq_nil_iff.2 fun p hp => by simp [Piece.isError_of_stream (h p hp)]

/-- An event becomes one line that says that something is wrong, or none, as it shows a failure or
not. -/
theorem failures_render (t : Terminal) (echo : Bool) (ev : Event) :
    (t.render echo ev).filter Piece.isError =
      (ev.failure?.map fun e => t.failed e.message).toList := by
  cases ev with
  | applyUser u =>
    rw [render]
    split
    · exact filter_isError_of_output (t.stream_user u)
    · rfl
  | drawUserList us => exact filter_isError_of_output (t.stream_users us)
  | openModal modal => cases modal <;> rfl
  | closeModal modal => rfl
  | notify text =>
    rw [render]
    split <;> rfl
  | reportError e => rfl
  | passwordChangeRequired => rfl

/-! ## Output in JSON -/

/-- In JSON an event becomes one document on the output, or nothing. -/
theorem output_render_json {t : Terminal} (hformat : t.format = .json) (echo : Bool) (ev : Event) :
    (t.render echo ev).filterMap Piece.output? =
      ((ev.document? echo).map fun v => v.indented ++ "\n").toList := by
  cases ev with
  | applyUser u =>
    rw [render, Event.document?]
    split
    · rw [user, rows, hformat]
      rfl
    · rfl
  | drawUserList us =>
    rw [render, Event.document?, users, rows, hformat]
    dsimp only
    rw [List.map_map]
    rfl
  | openModal modal => cases modal <;> rfl
  | closeModal modal => rfl
  | notify text =>
    rw [render, if_pos hformat]
    rfl
  | reportError e => rfl
  | passwordChangeRequired => rfl

end Terminal

end AccountAdmin
