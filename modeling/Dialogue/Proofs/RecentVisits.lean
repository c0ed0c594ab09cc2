import Dialogue.Proofs.Visits
import Mathlib.Data.List.Destutter
import Mathlib.Data.List.DropRight

namespace Dialogue.Context

variable {limit : Nat} {last : Option String} {id : String} {ids history : List String}

/-- The visits that steps make one after the other if `last` was visited before them: a step that
was just visited makes none. -/
def visitsAfter (last : Option String) : List String → List String
  | [] => []
  | id :: ids =>
    if last = some id then visitsAfter last ids else id :: visitsAfter (some id) ids

theorem cons_visitsAfter_some (id : String) (ids : List String) :
    id :: visitsAfter (some id) ids = ids.destutter' (· ≠ ·) id := by
  induction ids generalizing id with
  | nil => rfl
  | cons next ids ih =>
    by_cases hsame : id = next
    · subst hsame
      rw [visitsAfter, if_pos rfl, ih, List.destutter'_cons_neg _ (by simp)]
    · rw [visitsAfter, if_neg (by simpa using hsame), ih, List.destutter'_cons_pos _ hsame]

/-- With nothing visited before, all but the immediate repetitions are visits. -/
theorem visitsAfter_none (ids : List String) : visitsAfter none ids = ids.destutter (· ≠ ·) := by
  cases ids with
  | nil => rfl
  | cons id ids =>
    rw [visitsAfter, if_neg (by simp), cons_visitsAfter_some, List.destutter_cons']

/-- The last entries of a list with more behind it depend on its own last entries alone. -/
theorem rtake_rtake_append (entries more : List String) :
    (entries.rtake limit ++ more).rtake limit = (entries ++ more).rtake limit := by
  have hdropped : entries.length - limit ≤ entries.length := Nat.sub_le _ _
  simp only [List.rtake]
  rw [← List.drop_append_of_le_length hdropped, List.drop_drop, List.length_drop,
    List.length_append]
  congr 1
  omega

theorem extendHistory_of_ne (hnew : history.getLast? ≠ some id) :
    extendHistory limit history id = (history ++ [id]).rtake limit := by
  rw [extendHistory, if_neg hnew]
  rfl

/-- What steps make of a history: it stays as it is if they make no visit, and otherwise the last
entries of it and the visits are kept. -/
theorem foldl_extendHistory (hlimit : 1 ≤ limit) (history ids : List String) :
    ids.foldl (extendHistory limit) history =
      if visitsAfter history.getLast? ids = [] then history
      else (history ++ visitsAfter history.getLast? ids).rtake limit := by
  induction ids generalizing history with
  | nil => rfl
  | cons id ids ih =>
    rw [List.foldl_cons, visitsAfter]
    by_cases hlast : history.getLast? = some id
    · rw [extendHistory, if_pos hlast, if_pos hlast, ih]
    · -- The step comes last now, and whatever was dropped before it would be dropped anyway.
      rw [if_neg hlast, if_neg (List.cons_ne_nil _ _), ih, getLast?_extendHistory hlimit,
        extendHistory_of_ne hlast, rtake_rtake_append, List.append_assoc, List.singleton_append]
      split
      · rename_i hnone
        rw [hnone]
      · rfl

theorem foldl_visit (c : Context) (ids : List String) :
    ids.foldl (fun c id => c.visit id limit) c = c.visitAll limit ids := by
  induction ids generalizing c with
  | nil => rfl
  | cons id ids ih => exact ih (c.visit id limit)

/-- A history of at least one entry keeps the most recent visits: beginning anew, the last ones of
all steps with immediate repetitions collapsed; after one step other than the last entry, the last
ones of all entries and the step, however many there were; and after any steps, the last ones of all
entries and the visits the steps made, if they made any. Nothing else of a context changes. -/
theorem recent_kept (hlimit : 1 ≤ limit) (c : Context) :
    (∀ ids : List String, c.history = [] → ids.foldl (fun c id => c.visit id limit) c =
      { c with history := (ids.destutter (· ≠ ·)).rtake limit }) ∧
    (∀ id, c.history.getLast? ≠ some id → c.visit id limit =
      { c with history := (c.history ++ [id]).rtake limit }) ∧
    ∀ ids : List String, ids.foldl (fun c id => c.visit id limit) c =
      { c with
        history := if visitsAfter c.history.getLast? ids = [] then c.history
          else (c.history ++ visitsAfter c.history.getLast? ids).rtake limit } := by
  refine ⟨fun ids hempty => ?_, fun id hnew => ?_, fun ids => ?_⟩
  · rw [foldl_visit, visitAll, foldl_extendHistory hlimit, hempty, List.getLast?_nil,
      visitsAfter_none, List.nil_append]
    split
    · rename_i hnone
      rw [hnone, List.rtake_nil]
    · rfl
  · rw [visit, extendHistory_of_ne hnew]
  · rw [foldl_visit, visitAll, foldl_extendHistory hlimit]

/-- A history of three steps that is cut down to two, and one that begins anew and repeats a step
just when it is full. -/
theorem recent_kept_survey :
    1 ≤ 2 ∧ ((["name", "city", "score"].getLast? : Option String) ≠ some "end" ∧
      Context.visit { history := ["name", "city", "score"] } "end" 2 =
        { history := ["score", "end"] }) ∧
      ["name", "city", "city", "score", "score", "city"].foldl
        (fun c id => Context.visit c id 2) {} = { history := ["score", "city"] } := by
  have hlimit : 1 ≤ 2 := by decide
  have hnew : (["name", "city", "score"].getLast? : Option String) ≠ some "end" := by decide
  exact ⟨hlimit, ⟨hnew, (recent_kept hlimit { history := ["name", "city", "score"] }).2.1 _ hnew⟩,
    (recent_kept hlimit {}).1 _ rfl⟩

end Dialogue.Context
