namespace Dialogue

/-- A computation that asks questions of type `Q`, to which `A` gives the type of the answers. -/
inductive Interaction (Q : Type) (A : Q → Type) (α : Type) where
  | done (result : α)
  | ask (question : Q) (resume : A question → Interaction Q A α)

namespace Interaction

variable {Q : Type} {A : Q → Type} {α β γ σ : Type}

def bind (p : Interaction Q A α) (f : α → Interaction Q A β) : Interaction Q A β :=
  match p with
  | .done a => f a
  | .ask q resume => .ask q fun a => (resume a).bind f

instance : Monad (Interaction Q A) where
  pure := .done
  bind := bind

/-- Asks a question and returns the answer. -/
def request (q : Q) : Interaction Q A (A q) := .ask q .done

/-- Answers every question from a state that the answers may change. -/
def run (respond : σ → (q : Q) → A q × σ) : σ → Interaction Q A α → α × σ
  | s, .done a => (a, s)
  | s, .ask q resume =>
    let (a, s) := respond s q
    run respond s (resume a)

theorem done_bind (p : Interaction Q A α) : p.bind .done = p := by
  induction p with
  | done a => rfl
  | ask q resume ih => simp only [bind, ih]

theorem bind_assoc (p : Interaction Q A α) (f : α → Interaction Q A β)
    (g : β → Interaction Q A γ) : (p.bind f).bind g = p.bind fun a => (f a).bind g := by
  induction p with
  | done a => rfl
  | ask q resume ih => simp only [bind, ih]

instance : LawfulMonad (Interaction Q A) :=
  LawfulMonad.mk' _ (fun p => done_bind p) (fun _ _ => rfl) (fun p f g => bind_assoc p f g)

end Interaction

end Dialogue
