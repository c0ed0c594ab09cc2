import Dialogue.Value.Basic
import Mathlib.Order.Basic
import Mathlib.Data.String.Basic

namespace Dialogue

/-- Whether entries stand in the order of their names, each name once. -/
def Sorted {α : Type} (entries : List (String × α)) : Prop :=
  (entries.map Prod.fst).Pairwise (· < ·)

namespace Entries

variable {α : Type} {name : String} {a : α} {entry : String × α}
  {entries acc : List (String × α)}

def put (name : String) (a : α) : List (String × α) → List (String × α)
  | [] => [(name, a)]
  | (k, b) :: rest =>
    if name = k then (k, a) :: rest
    else if name < k then (name, a) :: (k, b) :: rest
    else (k, b) :: put name a rest

theorem mem_put (h : entry ∈ put name a entries) : entry = (name, a) ∨ entry ∈ entries := by
  induction entries with
  | nil => exact .inl (List.mem_singleton.1 h)
  | cons first rest ih =>
    obtain ⟨k, b⟩ := first
    simp only [put] at h
    split at h
    · rename_i hname
      rcases List.mem_cons.1 h with rfl | h
      · exact .inl (by rw [hname])
      · exact .inr (List.mem_cons_of_mem _ h)
    · split at h
      · exact (List.mem_cons.1 h).imp_right id
      · rcases List.mem_cons.1 h with rfl | h
        · exact .inr (List.mem_cons_self ..)
        · exact (ih h).imp_right (List.mem_cons_of_mem _)

theorem sorted_put (h : Sorted entries) : Sorted (put name a entries) := by
  induction entries with
  | nil => exact List.pairwise_singleton _ _
  | cons first rest ih =>
    obtain ⟨k, b⟩ := first
    obtain ⟨hfirst, hrest⟩ := List.pairwise_cons.1 h
    simp only [put]
    split
    · exact h
    · rename_i hne
      split
      · rename_i hlt
        refine List.pairwise_cons.2 ⟨fun other hother => ?_, h⟩
        rcases List.mem_cons.1 hother with rfl | hother
        · exact hlt
        · exact lt_trans hlt (hfirst other hother)
      · rename_i hnlt
        have hlt : k < name := lt_of_le_of_ne (not_lt.1 hnlt) (Ne.symm hne)
        refine List.pairwise_cons.2 ⟨fun other hother => ?_, ih hrest⟩
        obtain ⟨entry, hentry, rfl⟩ := List.mem_map.1 hother
        rcases mem_put hentry with rfl | hentry
        · exact hlt
        · exact hfirst _ (List.mem_map_of_mem hentry)

theorem put_eq_append {b : α} {rest : List (String × α)}
    (h : Sorted (acc ++ (name, b) :: rest)) : put name a acc = acc ++ [(name, a)] := by
  induction acc with
  | nil => rfl
  | cons first acc ih =>
    obtain ⟨k, c⟩ := first
    obtain ⟨hfirst, hrest⟩ := List.pairwise_cons.1 h
    have hk : k < name := hfirst name (by simp)
    rw [put, if_neg (ne_of_gt hk), if_neg (not_lt_of_gt hk), ih hrest]
    rfl

def overlay (acc entries : List (String × α)) : List (String × α) :=
  entries.foldl (fun acc entry => put entry.1 entry.2 acc) acc

theorem sorted_overlay (h : Sorted acc) : Sorted (overlay acc entries) := by
  induction entries generalizing acc with
  | nil => exact h
  | cons first rest ih => exact ih (sorted_put h)

theorem mem_overlay (h : entry ∈ overlay acc entries) : entry ∈ acc ∨ entry ∈ entries := by
  induction entries generalizing acc with
  | nil => exact .inl h
  | cons first rest ih =>
    rcases ih h with h | h
    · rcases mem_put h with rfl | h
      · exact .inr (List.mem_cons_self ..)
      · exact .inl h
    · exact .inr (List.mem_cons_of_mem _ h)

theorem overlay_eq_append (h : Sorted (acc ++ entries)) : overlay acc entries = acc ++ entries := by
  induction entries generalizing acc with
  | nil => simp [overlay]
  | cons first rest ih =>
    have hrest : Sorted (acc ++ [first] ++ rest) := by simpa using h
    rw [overlay, List.foldl_cons, put_eq_append h, ← overlay, ih hrest, List.append_assoc]
    rfl

/-- Among entries of different names, in any order, each is found under its own. -/
theorem lookup_eq_some_iff (h : (entries.map Prod.fst).Nodup) :
    entries.lookup name = some a ↔ (name, a) ∈ entries := by
  rw [List.lookup_eq_some_iff]
  constructor
  · rintro ⟨before, after, rfl, -⟩
    simp
  · intro hmem
    obtain ⟨before, after, rfl⟩ := List.append_of_mem hmem
    refine ⟨before, after, rfl, fun other hother => ?_⟩
    rw [List.map_append, List.map_cons, List.nodup_append] at h
    have hne : other.1 ≠ name := h.2.2 _ (List.mem_map_of_mem hother) _ List.mem_cons_self
    simpa using hne.symm

theorem lookup_filter_ne (entries : List (String × α)) (name k : String) :
    (entries.filter (·.1 ≠ name)).lookup k = if k = name then none else entries.lookup k := by
  induction entries with
  | nil => simp
  | cons first rest ih =>
    obtain ⟨first, b⟩ := first
    by_cases hfirst : first = name
    · rw [List.filter_cons_of_neg (by simpa using hfirst), ih, List.lookup_cons, hfirst]
      by_cases hk : k = name
      · rw [if_pos hk, if_pos hk]
      · rw [if_neg hk, if_neg hk, beq_false_of_ne hk]
    · rw [List.filter_cons_of_pos (by simpa using hfirst), List.lookup_cons, List.lookup_cons, ih]
      by_cases hk : k = first
      · simp [hk, hfirst]
      · rw [beq_false_of_ne hk]

end Entries

namespace Record

theorem insert_eq_put (name : String) (v : Value) (r : Record) :
    insert name v r = Entries.put name v r := by
  induction r with
  | nil => rfl
  | cons field r ih =>
    obtain ⟨k, w⟩ := field
    rw [insert, Entries.put, ih]

theorem merge_eq_overlay (r data : Record) : r.merge data = Entries.overlay r data := by
  simp only [merge, Entries.overlay, insert_eq_put]

theorem sorted_ofList (fs : List (String × Value)) : Sorted (ofList fs) := by
  rw [ofList, merge_eq_overlay]
  exact Entries.sorted_overlay .nil

theorem mem_ofList {field : String × Value} {fs : List (String × Value)} (h : field ∈ ofList fs) :
    field ∈ fs := by
  rw [ofList, merge_eq_overlay] at h
  exact (Entries.mem_overlay h).resolve_left List.not_mem_nil

theorem ofList_eq_self {fs : Record} (h : Sorted fs) : ofList fs = fs := by
  rw [ofList, merge_eq_overlay]
  exact Entries.overlay_eq_append h

theorem get?_merge (r data : Record) (name : String) :
    (r.merge data).get? name = ((ofList data).get? name).or (r.get? name) := by
  induction data generalizing r with
  | nil => rfl
  | cons field data ih =>
    obtain ⟨k, v⟩ := field
    have hr : (r.merge ((k, v) :: data)).get? name =
        ((ofList data).get? name).or ((r.insert k v).get? name) := ih (r.insert k v)
    have hof : (ofList ((k, v) :: data)).get? name =
        ((ofList data).get? name).or ((Record.insert k v []).get? name) := ih (Record.insert k v [])
    rw [hr, hof, Option.or_assoc, get?_insert, get?_insert]
    split
    · rfl
    · rfl

@[simp]
theorem get?_ofList_nil (name : String) : (ofList []).get? name = none := rfl

@[simp]
theorem get?_ofList_cons (k : String) (v : Value) (fs : List (String × Value)) (name : String) :
    (ofList ((k, v) :: fs)).get? name =
      ((ofList fs).get? name).or (if name = k then some v else none) := by
  have hmerge := get?_merge (Record.insert k v []) fs name
  rwa [get?_insert] at hmerge

@[simp]
theorem get?_ofList_append (fs fs' : List (String × Value)) (name : String) :
    (ofList (fs ++ fs')).get? name = ((ofList fs').get? name).or ((ofList fs).get? name) := by
  have hmerge : ofList (fs ++ fs') = (ofList fs).merge fs' := List.foldl_append
  rw [hmerge, get?_merge]

theorem isSome_get?_ofList (data : Record) (name : String) :
    ((ofList data).get? name).isSome = (data.get? name).isSome := by
  induction data with
  | nil => rfl
  | cons field data ih =>
    obtain ⟨k, v⟩ := field
    rw [get?_ofList_cons, Option.isSome_or, ih]
    by_cases hname : name = k
    · simp [hname, get?]
    · simp [hname, get?]

end Record

end Dialogue
