import ChatWidget.Command.Batch
import ChatWidget.Proofs.Op
/-!
What all handlers keep, a batch keeps, whatever its entries are and however batches stand inside batches.
-/
namespace ChatWidget.Batch

open Op (Keeps)

variable {σ : Type} {P : σ → Prop} {handlers : Entries (Handler σ)}

/-- Do all handlers keep a property, if the batches that they run do? -/
def AllKeep (P : σ → Prop) (handlers : Entries (Handler σ)) : Prop :=
  ∀ name handler, handlers.get? name = some handler →
    ∀ run : Json → Op σ Report, (∀ commands, Keeps P (run commands)) → ∀ data, Keeps P (handler run data)

theorem handlerFor_ok {entry : Json} {handler : Handler σ} {command : Command}
    (found : handlerFor handlers entry = .ok (handler, command)) :
    Command.ofJson entry = .ok command ∧ handlers.get? command.name = some handler := by
  unfold handlerFor at found
  obtain ⟨described, isCommand, rest⟩ := bind_ok found
  split at rest
  next answers =>
    cases rest
    exact ⟨isCommand, answers⟩
  next => cases rest

theorem runEntry_keeps (each : AllKeep P handlers) {run : Json → Op σ Report}
    (inner : ∀ commands, Keeps P (run commands)) (report : Report) (entry : Json) :
    Keeps P (runEntry handlers run report entry) := by
  unfold runEntry
  cases found : handlerFor handlers entry with
  | error fault => exact (Keeps.note _).bind fun _ => .pure _
  | ok called =>
    obtain ⟨handler, command⟩ := called
    have keeps := each _ _ (handlerFor_ok found).2 run inner command.data
    apply keeps.attempt.bind
    intro result
    cases result with
    | ok done => exact .pure _
    | error fault => exact (Keeps.note _).bind fun _ => .pure _

theorem foldlM_keeps {α β : Type} {next : β → α → Op σ β} (each : ∀ so item, Keeps P (next so item))
    (items : List α) (start : β) : Keeps P (items.foldlM next start) := by
  induction items generalizing start with
  | nil => exact .pure start
  | cons item items ih =>
    rw [List.foldlM_cons]
    exact (each start item).bind ih

theorem executeWithin_keeps (each : AllKeep P handlers) (depth : Nat) (commands : Json) :
    Keeps P (executeWithin handlers depth commands) := by
  induction depth generalizing commands with
  | zero =>
    rw [executeWithin]
    exact .pure _
  | succ depth ih =>
    cases commands with
    | arr entries =>
      rw [executeWithin]
      exact foldlM_keeps (runEntry_keeps each ih) entries _
    | _ =>
      rw [executeWithin]
      · exact (Keeps.note _).bind fun _ => .pure _
      · simp

/-- What all handlers keep is kept by every batch. -/
theorem execute_keeps (each : AllKeep P handlers) (commands : Json) :
    Keeps P (execute handlers commands) := executeWithin_keeps each _ commands

end ChatWidget.Batch
