import Mathlib.Logic.Function.Basic

/-!
# Tables of live tasks

A table maps identifiers to the tasks that are alive.  A task that steps
replaces its entry, a task that ends empties it, and a new task takes a fresh
one.
-/

namespace EchoMic

namespace TaskTable

variable {Id Task : Type*} {tasks : Id → Option Task} {holds others : Task → Prop}

/-- Every live task of the table satisfies `holds`. -/
def Every (tasks : Id → Option Task) (holds : Task → Prop) : Prop :=
  ∀ id task, tasks id = some task → holds task

theorem every_empty : Every (fun _ : Id => none) holds :=
  fun _ _ impossible => nomatch impossible

theorem Every.imp (every : Every tasks others) (implies : ∀ task, others task → holds task) :
    Every tasks holds :=
  fun id task live => implies task (every id task live)

variable [DecidableEq Id] {id : Id} {entry : Option Task}

/-- A live task after an update is the new entry, or was there before. -/
theorem update_cases {other : Id} {task : Task}
    (live : Function.update tasks id entry other = some task) :
    other = id ∧ entry = some task ∨ other ≠ id ∧ tasks other = some task := by
  by_cases same : other = id
  · subst other
    rw [Function.update_self] at live
    exact Or.inl ⟨rfl, live⟩
  · rw [Function.update_of_ne same] at live
    exact Or.inr ⟨same, live⟩

/-- What holds of the new entry and of every other task holds of every task. -/
theorem every_update (unchanged : ∀ other task, other ≠ id → tasks other = some task → holds task)
    (changed : ∀ task, entry = some task → holds task) :
    Every (Function.update tasks id entry) holds := by
  intro other task live
  rcases update_cases live with ⟨-, isNew⟩ | ⟨differs, before⟩
  · exact changed task isNew
  · exact unchanged other task differs before

theorem Every.update (every : Every tasks holds)
    (changed : ∀ task, entry = some task → holds task) :
    Every (Function.update tasks id entry) holds :=
  every_update (fun other task _ live => every other task live) changed

end TaskTable

end EchoMic
