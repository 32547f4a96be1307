import CameraServer.Proofs.Pipeline.Ledger

/-!
The life cycle leaves the books alone: starting, pausing, stopping, splitting, polling and shutting
down change neither the ledger nor the outline of the graph, however they end.
-/

set_option autoImplicit false

namespace CameraServer.Engine

open Media

theorem handle_books (event : Event) (e : Engine) : (handle event e).books = e.books := by
  unfold handle
  split
  · dsimp only
    split <;> rfl
  · rfl

theorem poll_books (e : Engine) : e.poll.2.books = e.books := by
  have popped := Graph.pop_event_outline e.graph
  rw [poll]
  split
  · rcases eq : e.graph.popEvent with ⟨none | event, graph⟩
    · rfl
    · rw [eq] at popped
      dsimp only
      rw [handle_books]
      exact congrArg (Books.mk e.ledger) popped
  · rfl

theorem poll_to_end_books (count : Nat) (e : Engine) : (pollToEnd count e).books = e.books := by
  induction count generalizing e with
  | zero => rfl
  | succ count ih =>
      have polled := poll_books e
      rw [pollToEnd]
      split
      · rename_i next eq
        rw [eq] at polled
        exact polled
      · rename_i next eq
        rw [eq] at polled
        exact polled
      · rename_i event next _ eq
        rw [eq] at polled
        rw [ih, polled]

theorem resolve_recordings_books (e : Engine) : e.resolveRecordings.2.books = e.books := by
  rw [resolveRecordings]
  dsimp only
  split <;> rfl

theorem move_to_books (state : PlayState) (e : Engine) : (e.moveTo state).2.books = e.books := by
  rw [moveTo]
  rcases books_cases _ e (query_state_books e) with
    ⟨current, next, eq, queried⟩ | ⟨x, next, eq, queried⟩
  · rw [eq]
    dsimp only
    split
    · exact queried
    · rw [set_graph_state_books, queried]
  · rw [eq]
    dsimp only
    rw [set_graph_state_books, queried]

theorem start_books (e : Engine) : e.start.2.books = e.books := by
  apply if_constructed_keeps e _ _ (·.books = e.books) rfl
  apply Outcome.next_keeps _ _ (·.books = e.books) (resolve_recordings_books e)
  exact fun next kept => (move_to_books .playing next).trans kept

theorem pause_books (e : Engine) : e.pause.2.books = e.books :=
  if_constructed_keeps e _ _ (·.books = e.books) rfl (move_to_books .paused e)

theorem halt_books (e : Engine) : e.halt.2.books = e.books := by
  apply Outcome.next_keeps _ _ (·.books = e.books) (set_graph_state_books .null e)
  exact fun next kept => kept

theorem stop_books (e : Engine) : e.stop.2.books = e.books :=
  if_constructed_keeps e _ _ (·.books = e.books) rfl (halt_books e)

theorem is_running_books (e : Engine) : e.isRunning.2.books = e.books := by
  rw [isRunning]
  split
  · rcases books_cases _ e (query_state_books e) with
      ⟨state, next, eq, queried⟩ | ⟨x, next, eq, queried⟩
    · rw [eq]
      exact queried
    · rw [eq]
      exact queried
  · rfl

theorem runs_books (e : Engine) : e.runs.2.books = e.books := by
  rw [runs]
  rcases books_cases _ e (is_running_books e) with
    ⟨running, next, eq, asked⟩ | ⟨x, next, eq, asked⟩
  · rw [eq]
    exact asked
  · rw [eq]
    exact asked

theorem state_books (e : Engine) : e.state.2.books = e.books := by
  rw [state]
  split
  · rcases books_cases _ e (query_state_books e) with
      ⟨state, next, eq, queried⟩ | ⟨x, next, eq, queried⟩
    · rw [eq]
      exact queried
    · rw [eq]
      exact queried
  · rfl

theorem split_now_books (e : Engine) : e.splitNow.2.books = e.books :=
  if_constructed_keeps e _ _ (·.books = e.books) rfl (emit_split_books _ e)

theorem finish_books (patient : Bool) (e : Engine) : (e.finish patient).books = e.books := by
  have ended : (e.splitNow.2.emit .graph .endOfStream).2.books = e.books :=
    (emit_end_books .graph e.splitNow.2).trans (split_now_books e)
  rw [finish]
  rcases books_cases _ e ended with ⟨u, next, eq, sent⟩ | ⟨x, next, eq, lost⟩
  · rw [eq]
    dsimp only
    split
    · rw [poll_to_end_books, sent]
    · exact sent
  · rw [eq]
    exact lost

theorem settle_books (patient : Bool) (tries : Nat) (e : Engine) :
    (settle patient tries e).books = e.books := by
  induction tries generalizing e with
  | zero => rfl
  | succ tries ih =>
      have again : ∀ next : Engine, next.books = e.books →
          (if patient then settle patient tries next.poll.2 else next).books = e.books := by
        intro next queried
        split
        · rw [ih, poll_books, queried]
        · exact queried
      rw [settle]
      rcases books_cases _ e (query_state_books e) with
        ⟨state, next, eq, queried⟩ | ⟨x, next, eq, queried⟩
      · rw [eq]
        cases state with
        | null => exact queried
        | ready => exact again next queried
        | paused => exact again next queried
        | playing => exact again next queried
      · rw [eq]
        exact again next queried

theorem shutdown_books (patient : Bool) (e : Engine) : (e.shutdown patient).2.books = e.books := by
  have asked := runs_books e
  rw [shutdown]
  split
  · rcases eq : e.runs with ⟨running, next⟩
    rw [eq] at asked
    have finished : (if running then next.finish patient else next).books = e.books := by
      split
      · rw [finish_books, asked]
      · exact asked
    dsimp only
    apply Outcome.next_keeps _ _ (·.books = e.books) ((halt_books _).trans finished)
    exact fun last kept => (settle_books patient _ last).trans kept
  · rfl

end CameraServer.Engine
