import Dialogue.Interaction

namespace Dialogue.Interaction

variable {Q : Type} {A : Q → Type} {α β : Type}

structure Entry (A : Q → Type) where
  question : Q
  answer : A question

/-- What is left of a computation after some answers. -/
inductive After : Interaction Q A α → List (Entry A) → Interaction Q A α → Prop
  | nil (p : Interaction Q A α) : After p [] p
  | cons {q : Q} {resume : A q → Interaction Q A α} {p : Interaction Q A α} {log : List (Entry A)}
      (x : A q) : After (resume x) log p → After (.ask q resume) (⟨q, x⟩ :: log) p

theorem after_nil_iff {p p' : Interaction Q A α} : After p [] p' ↔ p' = p := by
  constructor
  · intro h
    cases h
    rfl
  · rintro rfl
    exact .nil _

theorem after_cons_iff {p p' : Interaction Q A α} {q : Q} {x : A q} {log : List (Entry A)} :
    After p (⟨q, x⟩ :: log) p' ↔ ∃ resume, p = .ask q resume ∧ After (resume x) log p' := by
  constructor
  · intro h
    cases h with
    | cons x h => exact ⟨_, rfl, h⟩
  · rintro ⟨resume, rfl, h⟩
    exact .cons x h

theorem after_done_iff {a : α} {p' : Interaction Q A α} {log : List (Entry A)} :
    After (.done a) log p' ↔ log = [] ∧ p' = .done a := by
  constructor
  · intro h
    cases h
    exact ⟨rfl, rfl⟩
  · rintro ⟨rfl, rfl⟩
    exact .nil _

theorem after_ask_iff {q : Q} {resume : A q → Interaction Q A α} {p' : Interaction Q A α}
    {log : List (Entry A)} :
    After (.ask q resume) log p' ↔
      (log = [] ∧ p' = .ask q resume) ∨
        ∃ x rest, log = ⟨q, x⟩ :: rest ∧ After (resume x) rest p' := by
  constructor
  · intro h
    cases h with
    | nil => exact .inl ⟨rfl, rfl⟩
    | cons x h => exact .inr ⟨x, _, rfl, h⟩
  · rintro (⟨rfl, rfl⟩ | ⟨x, rest, rfl, h⟩)
    · exact .nil _
    · exact .cons x h

theorem after_ask_done_iff {q : Q} {resume : A q → Interaction Q A α} {a : α}
    {log : List (Entry A)} :
    After (.ask q resume) log (.done a) ↔
      ∃ x rest, log = ⟨q, x⟩ :: rest ∧ After (resume x) rest (.done a) := by
  simp [after_ask_iff]

theorem after_append_iff {p p' : Interaction Q A α} {l₁ l₂ : List (Entry A)} :
    After p (l₁ ++ l₂) p' ↔ ∃ m, After p l₁ m ∧ After m l₂ p' := by
  induction l₁ generalizing p with
  | nil => simp [after_nil_iff]
  | cons e l₁ ih =>
    obtain ⟨q, x⟩ := e
    simp only [List.cons_append, after_cons_iff, ih]
    constructor
    · rintro ⟨resume, hp, m, h₁, h₂⟩
      exact ⟨m, ⟨resume, hp, h₁⟩, h₂⟩
    · rintro ⟨m, ⟨resume, hp, h₁⟩, h₂⟩
      exact ⟨resume, hp, m, h₁, h₂⟩

theorem After.append {p m p' : Interaction Q A α} {l₁ l₂ : List (Entry A)} (h₁ : After p l₁ m)
    (h₂ : After m l₂ p') : After p (l₁ ++ l₂) p' :=
  after_append_iff.2 ⟨m, h₁, h₂⟩

theorem After.unique {p p₁ p₂ : Interaction Q A α} {log : List (Entry A)} (h₁ : After p log p₁)
    (h₂ : After p log p₂) : p₁ = p₂ := by
  induction h₁ with
  | nil p => exact (after_nil_iff.1 h₂).symm
  | cons x h ih =>
    obtain ⟨resume, hp, h₂⟩ := after_cons_iff.1 h₂
    cases hp
    exact ih h₂

theorem After.complete {p : Interaction Q A α} {a b : α} {l₁ l₂ : List (Entry A)}
    (h₁ : After p l₁ (.done a)) (h₂ : After p (l₁ ++ l₂) (.done b)) : l₂ = [] ∧ a = b := by
  obtain ⟨m, hm, hrest⟩ := after_append_iff.1 h₂
  rw [hm.unique h₁] at hrest
  obtain ⟨hnil, hdone⟩ := after_done_iff.1 hrest
  cases hdone
  exact ⟨hnil, rfl⟩

theorem After.bind {p p' : Interaction Q A α} {log : List (Entry A)} (h : After p log p')
    (f : α → Interaction Q A β) : After (p.bind f) log (p'.bind f) := by
  induction h with
  | nil p => exact .nil _
  | cons x h ih => exact .cons x ih

/-- A sequence is either still in its first part or has a complete transcript of it behind it. -/
theorem after_bind_iff {p : Interaction Q A α} {f : α → Interaction Q A β}
    {p' : Interaction Q A β} {log : List (Entry A)} :
    After (p.bind f) log p' ↔
      (∃ m, After p log m ∧ p' = m.bind f) ∨
        ∃ l₁ l₂ a, log = l₁ ++ l₂ ∧ After p l₁ (.done a) ∧ After (f a) l₂ p' := by
  constructor
  · -- By induction on the first part: it is over, or its question is the first one asked.
    induction p generalizing log with
    | done a => exact fun h => .inr ⟨[], log, a, rfl, .nil _, h⟩
    | ask q resume ih =>
      intro h
      rcases after_ask_iff.1 h with ⟨rfl, rfl⟩ | ⟨x, rest, rfl, hrest⟩
      · exact .inl ⟨_, .nil _, rfl⟩
      · rcases ih x hrest with ⟨m, hm, rfl⟩ | ⟨l₁, l₂, a, rfl, h₁, h₂⟩
        · exact .inl ⟨m, .cons x hm, rfl⟩
        · exact .inr ⟨⟨q, x⟩ :: l₁, l₂, a, rfl, .cons x h₁, h₂⟩
  · rintro (⟨m, h, rfl⟩ | ⟨l₁, l₂, a, rfl, h₁, h₂⟩)
    · exact h.bind f
    · exact (h₁.bind f).append h₂

theorem after_bind_done_iff {p : Interaction Q A α} {f : α → Interaction Q A β} {b : β}
    {log : List (Entry A)} :
    After (p.bind f) log (.done b) ↔
      ∃ l₁ l₂ a, log = l₁ ++ l₂ ∧ After p l₁ (.done a) ∧ After (f a) l₂ (.done b) := by
  constructor
  · intro h
    rcases after_bind_iff.1 h with ⟨m, hm, h⟩ | h
    · cases m with
      | done a => exact ⟨log, [], a, by simp, hm, after_nil_iff.2 h⟩
      | ask q resume => cases h
    · exact h
  · exact fun h => after_bind_iff.2 (.inr h)

/-- As long as every question has an answer, some transcript is complete. -/
theorem exists_done (hA : ∀ q, Nonempty (A q)) (p : Interaction Q A α) :
    ∃ log a, After p log (.done a) := by
  induction p with
  | done a => exact ⟨[], a, .nil _⟩
  | ask q resume ih =>
    obtain ⟨x⟩ := hA q
    obtain ⟨log, a, h⟩ := ih x
    exact ⟨⟨q, x⟩ :: log, a, .cons x h⟩

section Answering

variable {σ : Type} {respond : σ → (q : Q) → A q × σ} {x x' y : σ} {p p' : Interaction Q A α}
  {log l₁ l₂ : List (Entry A)}

/-- Whether the answers of a transcript are those that are given from a state, another state being
left by them. -/
inductive Answered (respond : σ → (q : Q) → A q × σ) : σ → List (Entry A) → σ → Prop
  | nil (x : σ) : Answered respond x [] x
  | cons {x y x' : σ} {q : Q} {a : A q} {log : List (Entry A)} (h : respond x q = (a, y))
      (hrest : Answered respond y log x') : Answered respond x (⟨q, a⟩ :: log) x'

theorem Answered.append (h₁ : Answered respond x l₁ y) (h₂ : Answered respond y l₂ x') :
    Answered respond x (l₁ ++ l₂) x' := by
  induction h₁ with
  | nil x => exact h₂
  | cons h hrest ih => exact .cons h (ih h₂)

theorem Answered.split (h : Answered respond x (l₁ ++ l₂) x') :
    ∃ y, Answered respond x l₁ y ∧ Answered respond y l₂ x' := by
  induction l₁ generalizing x with
  | nil => exact ⟨x, .nil x, h⟩
  | cons entry l₁ ih =>
    cases h with
    | cons h hrest =>
      obtain ⟨y, h₁, h₂⟩ := ih hrest
      exact ⟨y, .cons h h₁, h₂⟩

/-- What is left of a computation after some answers goes on as the computation does. -/
theorem After.run_eq (h : After p log p') (hlog : Answered respond x log x') :
    run respond x p = run respond x' p' := by
  induction h generalizing x with
  | nil p =>
    cases hlog
    rfl
  | cons a h ih =>
    cases hlog with
    | cons hanswer hrest =>
      rw [run, hanswer]
      exact ih hrest

theorem exists_answered (respond : σ → (q : Q) → A q × σ) (x : σ) (p : Interaction Q A α) :
    ∃ log, After p log (.done (run respond x p).1) ∧
      Answered respond x log (run respond x p).2 := by
  induction p generalizing x with
  | done a => exact ⟨[], .nil _, .nil _⟩
  | ask q resume ih =>
    obtain ⟨log, h, hlog⟩ := ih (respond x q).1 (respond x q).2
    exact ⟨⟨q, (respond x q).1⟩ :: log, .cons _ h, .cons rfl hlog⟩

theorem exists_after_run (respond : σ → (q : Q) → A q × σ) (x : σ) (p : Interaction Q A α) :
    ∃ log, After p log (.done (run respond x p).1) := by
  obtain ⟨log, h, -⟩ := exists_answered respond x p
  exact ⟨log, h⟩

end Answering

/-- Whether every question that may come up satisfies `P`, and every result `R`. -/
def Holds (P : Q → Prop) (R : α → Prop) : Interaction Q A α → Prop
  | .done a => R a
  | .ask q resume => P q ∧ ∀ x, Holds P R (resume x)

theorem Holds.bind {P : Q → Prop} {R : α → Prop} {R' : β → Prop} {p : Interaction Q A α}
    {f : α → Interaction Q A β} (hp : p.Holds P R) (hf : ∀ a, R a → (f a).Holds P R') :
    (p.bind f).Holds P R' := by
  induction p with
  | done a => exact hf a hp
  | ask q resume ih => exact ⟨hp.1, fun x => ih x (hp.2 x)⟩

theorem Holds.mono {P P' : Q → Prop} {R R' : α → Prop} {p : Interaction Q A α}
    (hp : p.Holds P R) (hP : ∀ q, P q → P' q) (hR : ∀ a, R a → R' a) : p.Holds P' R' := by
  induction p with
  | done a => exact hR a hp
  | ask q resume ih => exact ⟨hP q hp.1, fun x => ih x (hp.2 x)⟩

theorem Holds.after {P : Q → Prop} {R : α → Prop} {p p' : Interaction Q A α}
    {log : List (Entry A)} (hp : p.Holds P R) (h : After p log p') :
    p'.Holds P R ∧ ∀ e ∈ log, P e.question := by
  induction h with
  | nil p => exact ⟨hp, by simp⟩
  | cons x h ih =>
    obtain ⟨hp', hlog⟩ := ih (hp.2 x)
    exact ⟨hp', List.forall_mem_cons.2 ⟨hp.1, hlog⟩⟩

/-- Only the results that may come out matter to what follows. -/
theorem Holds.bind_congr {P : Q → Prop} {R : α → Prop} {p : Interaction Q A α}
    {f g : α → Interaction Q A β} (hp : p.Holds P R) (hfg : ∀ a, R a → f a = g a) :
    p.bind f = p.bind g := by
  induction p with
  | done a => exact hfg a hp
  | ask q resume ih => exact congrArg (Interaction.ask q) (funext fun x => ih x (hp.2 x))

/-- Whether every result, with all that was asked up to it, satisfies `P`; `past` was asked
before. -/
def Yields (P : List (Entry A) → α → Prop) (past : List (Entry A)) : Interaction Q A α → Prop
  | .done a => P past a
  | .ask q resume => ∀ x, Yields P (past ++ [⟨q, x⟩]) (resume x)

theorem Yields.after {P : List (Entry A) → α → Prop} {past log : List (Entry A)}
    {p p' : Interaction Q A α} (hp : Yields P past p) (h : After p log p') :
    Yields P (past ++ log) p' := by
  induction h generalizing past with
  | nil p => simpa using hp
  | cons x h ih => simpa using ih (hp x)

end Dialogue.Interaction
