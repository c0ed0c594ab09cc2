import Dialogue.Catalog
import Dialogue.Proofs.Entries
import Mathlib.Data.List.Nodup

namespace Dialogue

namespace Document

/-- The text of a scalar that is a text, a number or a truth value. -/
def wording? (d : Document) : Option String := d.scalar?.bind Catalog.scalarText?

/-- The document that keys lead to from a document, one mapping after the other. -/
def follow? : Document → List String → Option Document
  | d, [] => some d
  | .mapping entries, key :: keys =>
    (entries.find? fun e => e.1.wording? = some key).bind fun e => e.2.follow? keys
  | _, _ :: _ => none

mutual
/-- The scalars in a document, each with the keys that lead to it. -/
def leaves : Document → List (List String × String)
  | .mapping entries => entryLeaves entries
  | d => (d.wording?.map fun s => ([], s)).toList

def entryLeaves : List (Document × Document) → List (List String × String)
  | [] => []
  | (k, d) :: rest =>
    (match k.wording? with
      | some name => (leaves d).map fun l => (name :: l.1, l.2)
      | none => []) ++ entryLeaves rest
end

/-- A key that can stand between dots. -/
def IsStep (name : String) : Prop := name ≠ "" ∧ '.' ∉ name.toList
deriving Decidable

/-- Whether the keys of all mappings that keys lead to have texts that can stand between dots,
different ones in each mapping. -/
inductive PlainKeys : Document → Prop
  | leaf {d : Document} (h : ∀ entries, d ≠ .mapping entries) : PlainKeys d
  | mapping {entries : List (Document × Document)}
      (hsteps : ∀ e ∈ entries, ∃ name, e.1.wording? = some name ∧ IsStep name)
      (hdistinct : (entries.map fun e => e.1.wording?).Nodup)
      (hvalues : ∀ e ∈ entries, PlainKeys e.2) : PlainKeys (.mapping entries)

variable {d : Document} {entries : List (Document × Document)} {keys : List String} {s : String}

theorem leaves_of_not_mapping (h : ∀ entries, d ≠ .mapping entries) :
    d.leaves = (d.wording?.map fun s => ([], s)).toList := by
  cases d with
  | mapping entries => exact absurd rfl (h entries)
  | _ => rw [leaves]; exact fun _ h => nomatch h

theorem follow?_cons_of_not_mapping (h : ∀ entries, d ≠ .mapping entries) (key : String)
    (keys : List String) : d.follow? (key :: keys) = none := by
  cases d with
  | mapping entries => exact absurd rfl (h entries)
  | _ => rfl

/-- The scalars in the value of an entry; an entry counts if its key has a text. -/
def leavesBelow (e : Document × Document) : List (List String × String) :=
  match e.1.wording? with
  | some name => e.2.leaves.map fun l => (name :: l.1, l.2)
  | none => []

theorem entryLeaves_eq_flatMap (entries : List (Document × Document)) :
    entryLeaves entries = entries.flatMap leavesBelow := by
  induction entries with
  | nil => rfl
  | cons e entries ih => rw [entryLeaves, List.flatMap_cons, ih, leavesBelow]

theorem mem_leavesBelow {e : Document × Document} :
    (keys, s) ∈ leavesBelow e ↔
      ∃ name rest, e.1.wording? = some name ∧ keys = name :: rest ∧ (rest, s) ∈ e.2.leaves := by
  rw [leavesBelow]
  cases e.1.wording? with
  | none => simp
  | some name => simp [eq_comm, and_comm]

theorem mem_entryLeaves :
    (keys, s) ∈ entryLeaves entries ↔
      ∃ e ∈ entries, ∃ name rest, e.1.wording? = some name ∧ keys = name :: rest ∧
        (rest, s) ∈ e.2.leaves := by
  simp only [entryLeaves_eq_flatMap, List.mem_flatMap, mem_leavesBelow]

/-- Ways through entries with different keys differ in their first key. -/
theorem disjoint_leavesBelow {a b : Document × Document} (hne : a.1.wording? ≠ b.1.wording?) :
    ((leavesBelow a).map Prod.fst).Disjoint ((leavesBelow b).map Prod.fst) := by
  intro keys ha hb
  obtain ⟨l, hla, rfl⟩ := List.mem_map.1 ha
  obtain ⟨l', hlb, hkeys⟩ := List.mem_map.1 hb
  obtain ⟨name, rest, hname, hl, -⟩ := mem_leavesBelow.1 hla
  obtain ⟨name', rest', hname', hl', -⟩ := mem_leavesBelow.1 hlb
  rw [hl, hl'] at hkeys
  exact hne (by rw [hname, hname', (List.cons.inj hkeys).1])

theorem find?_wording_eq_some_iff (hdistinct : (entries.map fun e => e.1.wording?).Nodup)
    {e : Document × Document} {name : String} :
    entries.find? (fun e => e.1.wording? = some name) = some e ↔
      e ∈ entries ∧ e.1.wording? = some name := by
  constructor
  · intro h
    exact ⟨List.mem_of_find?_eq_some h, by simpa using List.find?_some h⟩
  · rintro ⟨hmem, hname⟩
    have hsome : (entries.find? fun e => e.1.wording? = some name).isSome = true :=
      List.find?_isSome.2 ⟨e, hmem, by simpa using hname⟩
    obtain ⟨e', he'⟩ := Option.isSome_iff_exists.1 hsome
    have hname' : e'.1.wording? = some name := by simpa using List.find?_some he'
    rw [he', List.inj_on_of_nodup_map hdistinct (List.mem_of_find?_eq_some he') hmem
      (hname'.trans hname.symm)]

namespace PlainKeys

theorem mem_leaves_iff (h : d.PlainKeys) :
    (keys, s) ∈ d.leaves ↔ (d.follow? keys).bind wording? = some s := by
  induction h generalizing keys with
  | @leaf d h =>
    rw [leaves_of_not_mapping h]
    cases keys with
    | nil => cases hwording : d.wording? <;> simp [follow?, hwording, eq_comm]
    | cons key keys => cases d.wording? <;> simp [follow?_cons_of_not_mapping h]
  | @mapping entries hsteps hdistinct hvalues ih =>
    rw [leaves, mem_entryLeaves]
    cases keys with
    | nil => simp [follow?, wording?, scalar?]
    | cons key keys =>
      rw [follow?, Option.bind_assoc, Option.bind_eq_some_iff]
      refine exists_congr fun e => ?_
      rw [find?_wording_eq_some_iff hdistinct]
      constructor
      · rintro ⟨hmem, name, rest, hname, hkeys, hleaf⟩
        obtain ⟨rfl, rfl⟩ := List.cons.inj hkeys
        exact ⟨⟨hmem, hname⟩, (ih e hmem).1 hleaf⟩
      · rintro ⟨⟨hmem, hname⟩, hleaf⟩
        exact ⟨hmem, key, keys, hname, rfl, (ih e hmem).2 hleaf⟩

theorem nodup_leaves (h : d.PlainKeys) : (d.leaves.map Prod.fst).Nodup := by
  induction h with
  | @leaf d h => rw [leaves_of_not_mapping h]; cases d.wording? <;> simp
  | @mapping entries hsteps hdistinct hvalues ih =>
    rw [leaves, entryLeaves_eq_flatMap, List.map_flatMap, List.nodup_flatMap]
    constructor
    · intro e he
      obtain ⟨name, hname, -⟩ := hsteps e he
      have hcons : ((e.2.leaves.map Prod.fst).map (name :: ·)).Nodup :=
        (ih e he).map fun _ _ h => (List.cons.inj h).2
      rw [List.map_map] at hcons
      rw [leavesBelow, hname, List.map_map]
      exact hcons
    · exact (List.pairwise_map.1 hdistinct).imp fun hne => disjoint_leavesBelow hne

/-- The keys that lead to a scalar can stand between dots. -/
theorem isStep_of_mem_leaves (h : d.PlainKeys) (hleaf : (keys, s) ∈ d.leaves) :
    ∀ key ∈ keys, IsStep key := by
  induction h generalizing keys with
  | @leaf d h =>
    rw [leaves_of_not_mapping h] at hleaf
    cases hwording : d.wording? <;> simp_all
  | @mapping entries hsteps hdistinct hvalues ih =>
    rw [leaves, mem_entryLeaves] at hleaf
    obtain ⟨e, hmem, name, rest, hname, rfl, hrest⟩ := hleaf
    obtain ⟨name', hname', hstep⟩ := hsteps e hmem
    obtain rfl : name' = name := Option.some.inj (hname'.symm.trans hname)
    exact List.forall_mem_cons.2 ⟨hstep, ih e hmem hrest⟩

end PlainKeys

theorem splitOn_intercalate_steps (hkeys : ∀ k ∈ keys, IsStep k) (hne : keys ≠ []) :
    (".".intercalate keys).toList.splitOn '.' = keys.map String.toList := by
  have hdots : ∀ l ∈ keys.map String.toList, '.' ∉ l := by
    rw [List.forall_mem_map]
    exact fun k hk => (hkeys k hk).2
  rw [String.toList_intercalate]
  exact List.splitOn_intercalate '.' hdots (by simpa using hne)

theorem intercalate_steps_ne_empty (hkeys : ∀ k ∈ keys, IsStep k) (hne : keys ≠ []) :
    ".".intercalate keys ≠ "" := by
  cases keys with
  | nil => exact absurd rfl hne
  | cons key keys =>
    have hkey : key ≠ "" := (hkeys key List.mem_cons_self).1
    cases keys with
    | nil => rwa [String.intercalate_singleton]
    | cons key' keys =>
      rw [String.intercalate_cons_cons]
      simp [hkey]

/-- Ways are told from their keys with dots between. -/
theorem intercalate_steps_injective {keys' : List String} (hkeys : ∀ k ∈ keys, IsStep k)
    (hkeys' : ∀ k ∈ keys', IsStep k) (h : ".".intercalate keys = ".".intercalate keys') :
    keys = keys' := by
  by_cases hne : keys = []
  · by_contra hdiff
    refine intercalate_steps_ne_empty hkeys' (fun hnil => hdiff (hne.trans hnil.symm)) ?_
    rw [← h, hne, String.intercalate_nil]
  · have hne' : keys' ≠ [] := by
      rintro rfl
      exact intercalate_steps_ne_empty hkeys hne (h.trans String.intercalate_nil)
    have hsplit := splitOn_intercalate_steps hkeys hne
    rw [h, splitOn_intercalate_steps hkeys' hne'] at hsplit
    exact (List.map_injective_iff.2 (fun _ _ => String.toList_injective) hsplit).symm

end Document

namespace Catalog

open Document

variable {d : Document} {keys : List String} {s : String}

theorem flatten_of_not_mapping (h : ∀ entries, d ≠ .mapping entries) (key : String) :
    flatten key d = d.leaves.map fun l => (l.1.foldl join key, l.2) := by
  have hflatten : flatten key d = (d.wording?.map fun s => (key, s)).toList := by
    cases d with
    | mapping entries => exact absurd rfl (h entries)
    | _ =>
      simp only [flatten]
      rw [← wording?]
      cases wording? _ <;> rfl
  rw [hflatten, leaves_of_not_mapping h]
  cases d.wording? <;> rfl

mutual
/-- The messages of a document are its scalars, each under its keys joined. -/
theorem flatten_eq_map_leaves (key : String) :
    ∀ d : Document, flatten key d = d.leaves.map fun l => (l.1.foldl join key, l.2)
  | .mapping entries => by
    rw [flatten, leaves, flattenEntries_eq_map_leaves key entries]
  | .null | .bool _ | .number _ | .text _ | .plain _ | .list _ | .tagged _ =>
    flatten_of_not_mapping (by simp) key

theorem flattenEntries_eq_map_leaves (key : String) :
    ∀ entries : List (Document × Document),
      flattenEntries key entries = (entryLeaves entries).map fun l => (l.1.foldl join key, l.2)
  | [] => rfl
  | (k, d) :: rest => by
    rw [flattenEntries, entryLeaves, List.map_append, ← wording?,
      flattenEntries_eq_map_leaves key rest]
    cases k.wording? with
    | none => rfl
    | some name =>
      simp only [flatten_eq_map_leaves (join key name) d, List.map_map]
      rfl
end

theorem foldl_join_of_ne_empty {above : String} (habove : above ≠ "") (keys : List String) :
    keys.foldl join above = ".".intercalate (above :: keys) := by
  induction keys generalizing above with
  | nil => rw [List.foldl_nil, String.intercalate_singleton]
  | cons key keys ih =>
    have hjoin : join above key = above ++ "." ++ key := by simp [join, habove]
    have hne : above ++ "." ++ key ≠ "" := by simp
    rw [List.foldl_cons, hjoin, ih hne, String.intercalate_cons_append,
      String.intercalate_cons_of_ne_nil (List.cons_ne_nil _ _)]

theorem foldl_join (hkeys : ∀ k ∈ keys, IsStep k) :
    keys.foldl join "" = ".".intercalate keys := by
  cases keys with
  | nil => simp
  | cons key keys =>
    exact foldl_join_of_ne_empty (hkeys key List.mem_cons_self).1 keys

theorem put_of_not_mem {messages : List (String × String)} {key : String}
    (h : key ∉ messages.map Prod.fst) (text : String) :
    put messages key text = messages ++ [(key, text)] := by
  have hall : ∀ m ∈ messages, decide (m.1 ≠ key) = true := fun m hm =>
    decide_eq_true fun hkey => h (List.mem_map.2 ⟨m, hm, hkey⟩)
  rw [put, List.filter_eq_self.2 hall]

theorem foldl_put (messages new : List (String × String))
    (h : ((messages ++ new).map Prod.fst).Nodup) :
    new.foldl (fun ms m => put ms m.1 m.2) messages = messages ++ new := by
  induction new generalizing messages with
  | nil => simp
  | cons m new ih =>
    have hnew : m.1 ∉ messages.map Prod.fst := by
      simp only [List.map_append, List.map_cons, List.nodup_append] at h
      exact fun hm => h.2.2 _ hm _ List.mem_cons_self rfl
    rw [List.foldl_cons, put_of_not_mem hnew, ih _ (by simpa using h)]
    simp

theorem messages_ofList {messages : List (String × String)}
    (h : (messages.map Prod.fst).Nodup) : (ofList messages).messages = messages :=
  foldl_put [] messages h

theorem get?_eq_some_iff {c : Catalog} (h : (c.messages.map Prod.fst).Nodup) {key : String} :
    c.get? key = some s ↔ (key, s) ∈ c.messages :=
  Entries.lookup_eq_some_iff h

/-- The messages of a document whose keys are plain are its scalars, each under its keys with dots
between. -/
theorem flatten_of_plainKeys (h : d.PlainKeys) :
    flatten "" d = d.leaves.map fun l => (".".intercalate l.1, l.2) := by
  rw [flatten_eq_map_leaves]
  refine List.map_congr_left fun l hl => ?_
  rw [foldl_join (h.isStep_of_mem_leaves hl)]

theorem nodup_flatten (h : d.PlainKeys) : ((flatten "" d).map Prod.fst).Nodup := by
  have hways : ((d.leaves.map Prod.fst).map (".".intercalate ·)).Nodup := by
    refine h.nodup_leaves.map_on fun keys hkeys keys' hkeys' heq => ?_
    obtain ⟨l, hl, rfl⟩ := List.mem_map.1 hkeys
    obtain ⟨l', hl', rfl⟩ := List.mem_map.1 hkeys'
    exact intercalate_steps_injective (h.isStep_of_mem_leaves hl) (h.isStep_of_mem_leaves hl') heq
  rw [List.map_map] at hways
  rw [flatten_of_plainKeys h, List.map_map]
  exact hways

/-- The catalog of a tree whose keys are plain has the text of a scalar under the keys that lead to
it with dots between, nothing else under any key, and as many messages as there are ways to
scalars. -/
theorem holds_scalars (htree : d.isTree = true) (hplain : d.PlainKeys) :
    ∃ c, ofDocument? d = some c ∧
      (∀ text, ofText? text = some (some d) → ofText text = .ok c) ∧
      (∀ keys, (∀ k ∈ keys, IsStep k) →
        c.get? (".".intercalate keys) = (d.follow? keys).bind wording?) ∧
      (∀ key, (∀ keys, (∀ k ∈ keys, IsStep k) → key ≠ ".".intercalate keys) →
        c.get? key = none) ∧
      ∃ ways : List (List String), ways.Nodup ∧ c.size = ways.length ∧
        ∀ keys, keys ∈ ways ↔ ∃ s, (d.follow? keys).bind wording? = some s := by
  have hdocument : ofDocument? d = some (ofList (flatten "" d)) := by rw [ofDocument?, if_pos htree]
  have hmessages : (ofList (flatten "" d)).messages =
      d.leaves.map fun l => (".".intercalate l.1, l.2) := by
    rw [messages_ofList (nodup_flatten hplain), flatten_of_plainKeys hplain]
  have hget {key s : String} : (ofList (flatten "" d)).get? key = some s ↔
      ∃ keys, (keys, s) ∈ d.leaves ∧ ".".intercalate keys = key := by
    have hnodup := nodup_flatten hplain
    rw [← messages_ofList hnodup] at hnodup
    rw [get?_eq_some_iff hnodup, hmessages]
    simp
  refine ⟨_, hdocument, fun text htext => ?_, fun keys hkeys => ?_, fun key hkey => ?_,
    d.leaves.map Prod.fst, hplain.nodup_leaves, ?_, fun keys => ?_⟩
  · simp only [ofText, htext, hdocument]
  · refine Option.ext fun s => ?_
    rw [hget, ← hplain.mem_leaves_iff]
    constructor
    · rintro ⟨keys', hleaf, heq⟩
      rwa [← intercalate_steps_injective (hplain.isStep_of_mem_leaves hleaf) hkeys heq]
    · exact fun hleaf => ⟨keys, hleaf, rfl⟩
  · rw [Option.eq_none_iff_forall_ne_some]
    intro s hs
    obtain ⟨keys, hleaf, rfl⟩ := hget.1 hs
    exact hkey keys (hplain.isStep_of_mem_leaves hleaf) rfl
  · rw [size, hmessages, List.length_map, List.length_map]
  · simp [← hplain.mem_leaves_iff]

def byNumber : Document :=
  .mapping [(.number (.integer 1), .text "low"),
    (.number (.integer 2), .mapping [(.bool true, .number (.integer 7))]),
    (.plain "3", .list [.text "high"])]

def levels : Document := .mapping [(.text "level", byNumber), (.text "note", .null)]

theorem plainKeys_byNumber : byNumber.PlainKeys := by
  have hsecond : PlainKeys (.mapping [(.bool true, .number (.integer 7))]) := by
    refine .mapping ?_ (by decide) ?_ <;> simp only [List.forall_mem_singleton]
    · exact ⟨"true", by decide⟩
    · exact .leaf (by simp)
  refine .mapping ?_ (by decide) ?_ <;> simp only [List.forall_mem_cons, List.not_mem_nil]
  · exact ⟨⟨"1", by decide⟩, ⟨"2", by decide⟩, ⟨"3", by decide⟩, nofun⟩
  · exact ⟨.leaf (by simp), hsecond, .leaf (by simp), nofun⟩

theorem plainKeys_levels : levels.PlainKeys := by
  refine .mapping ?_ (by decide) ?_ <;> simp only [List.forall_mem_cons, List.not_mem_nil]
  · exact ⟨⟨"level", by decide⟩, ⟨"note", by decide⟩, nofun⟩
  · exact ⟨plainKeys_byNumber, .leaf (by simp), nofun⟩

theorem holds_scalars_levels :
    levels.isTree = true ∧ levels.PlainKeys ∧ ∃ c, ofDocument? levels = some c ∧
      c.get? "level.1" = some "low" ∧ c.get? "level.2.true" = some "7" ∧
      c.get? "level.2" = none ∧ c.get? "level.3" = none ∧ c.get? "note" = none ∧
      c.get? "level.4.x" = none ∧ c.size = 2 := by
  have htree : levels.isTree = true := by decide
  obtain ⟨c, hc, -, hget, -, ways, hnodup, hsize, hways⟩ :=
    holds_scalars htree plainKeys_levels
  refine ⟨htree, plainKeys_levels, c, hc, (hget ["level", "1"] (by decide)).trans (by decide),
    (hget ["level", "2", "true"] (by decide)).trans (by decide),
    (hget ["level", "2"] (by decide)).trans (by decide),
    (hget ["level", "3"] (by decide)).trans (by decide),
    (hget ["note"] (by decide)).trans (by decide),
    (hget ["level", "4", "x"] (by decide)).trans (by decide), ?_⟩
  have hperm : ways.Perm (levels.leaves.map Prod.fst) := by
    refine (List.perm_ext_iff_of_nodup hnodup plainKeys_levels.nodup_leaves).2 fun keys => ?_
    simp [hways, ← plainKeys_levels.mem_leaves_iff]
  rw [hsize, hperm.length_eq]
  rfl

end Catalog

end Dialogue
