import Dialogue.Presenter
import Dialogue.Proofs.Entries
import Mathlib.Data.List.TakeWhile

namespace Dialogue

namespace Files

variable {fs : Files} {path names listed : List String} {name locale : String}

theorem drop_length_takeWhile {α : Type} (p : α → Bool) (l : List α) :
    l.drop (l.takeWhile p).length = l.dropWhile p := by
  have hsplit := congrArg (List.drop (l.takeWhile p).length)
    (List.takeWhile_append_dropWhile (p := p) (l := l))
  rw [← hsplit, List.drop_left]

theorem splitName_eq_some_iff {extension : String} : splitName name = (locale, some extension) ↔
    locale ≠ "" ∧ '.' ∉ extension.toList ∧ name = locale ++ "." ++ extension := by
  simp only [splitName, List.length_reverse, drop_length_takeWhile]
  -- The name is read from its end, so the dot found first is the last one.
  constructor
  · intro h
    split at h
    · rename_i dot stem hrest
      split at h
      · cases h
      · rename_i hstem
        cases h
        obtain rfl : dot = '.' := by
          have hhead := List.head?_dropWhile_not (fun c => decide (c ≠ '.')) name.toList.reverse
          rw [hrest] at hhead
          simpa using hhead
        refine ⟨by simpa using hstem, fun hmem => ?_, String.toList_inj.1 ?_⟩
        · have htaken := List.mem_takeWhile_imp (List.mem_reverse.1 (by simpa using hmem))
          simp at htaken
        · have hname := List.takeWhile_append_dropWhile (p := fun c => decide (c ≠ '.'))
            (l := name.toList.reverse)
          rw [hrest] at hname
          simpa using (congrArg List.reverse hname).symm
    · cases h
  · rintro ⟨hlocale, hextension, rfl⟩
    have hreversed : (locale ++ "." ++ extension).toList.reverse =
        extension.toList.reverse ++ '.' :: locale.toList.reverse := by simp
    have hplain : ∀ c ∈ extension.toList.reverse, decide (c ≠ '.') = true := by
      intro c hc
      have hne : c ≠ '.' := fun h => hextension (by simpa [h] using hc)
      simpa using hne
    have hstem : locale.toList.reverse.isEmpty = false := by simpa using hlocale
    rw [hreversed, List.dropWhile_append_of_pos hplain, List.takeWhile_append_of_pos hplain,
      List.dropWhile_cons_of_neg (by simp), List.takeWhile_cons_of_neg (by simp)]
    simp [hstem]

def isCatalogName (locale name : String) : Bool := isYamlName name && (splitName name).1 = locale

theorem isCatalogName_iff : isCatalogName locale name = true ↔
    locale ≠ "" ∧ (name = locale ++ ".yaml" ∨ name = locale ++ ".yml") := by
  have hyaml : locale ++ ".yaml" = locale ++ "." ++ "yaml" := by rw [String.append_assoc]; rfl
  have hyml : locale ++ ".yml" = locale ++ "." ++ "yml" := by rw [String.append_assoc]; rfl
  rw [isCatalogName, isYamlName, hyaml, hyml]
  constructor
  · intro h
    obtain ⟨hname, rfl⟩ : _ ∧ (splitName name).1 = locale := by simpa using h
    split at hname
    · rename_i extension hextension
      obtain ⟨hlocale, -, hsplit⟩ := splitName_eq_some_iff.1 (Prod.ext rfl hextension)
      refine ⟨hlocale, ?_⟩
      obtain rfl | rfl : extension = "yaml" ∨ extension = "yml" := by simpa using hname
      · exact .inl hsplit
      · exact .inr hsplit
    · cases hname
  · rintro ⟨hlocale, rfl | rfl⟩
    · rw [splitName_eq_some_iff.2 ⟨hlocale, by decide, rfl⟩]
      simp
    · rw [splitName_eq_some_iff.2 ⟨hlocale, by decide, rfl⟩]
      simp

def catalog? (fs : Files) (path : List String) (name : String) : Option Catalog :=
  (fs.read? (path ++ [name])).bind fun text => (Catalog.ofText text).toOption

def lastCatalogName? (names : List String) (locale : String) : Option String :=
  (names.filter (isCatalogName locale)).getLast?

/-- Whether files of both names for a locale, if there are such, hold the same messages. -/
def Unambiguous (fs : Files) (path names : List String) (locale : String) : Prop :=
  locale ≠ "" → locale ++ ".yaml" ∈ names → locale ++ ".yml" ∈ names →
    (fs.catalog? path (locale ++ ".yaml")).map Catalog.get? =
      (fs.catalog? path (locale ++ ".yml")).map Catalog.get?

theorem lastCatalogName?_eq_some (h : lastCatalogName? names locale = some name) :
    name ∈ names ∧ isCatalogName locale name = true :=
  List.mem_filter.1 (List.mem_of_getLast? h)

theorem lastCatalogName?_cons (name : String) (names : List String) (locale : String) :
    lastCatalogName? (name :: names) locale = (lastCatalogName? names locale).or
      (if isCatalogName locale name then some name else none) := by
  rw [lastCatalogName?, List.filter_cons]
  split
  · rw [List.getLast?_cons, lastCatalogName?]
    cases (names.filter (isCatalogName locale)).getLast? <;> rfl
  · rw [Option.or_none, lastCatalogName?]

theorem lastCatalogName?_append (h : isCatalogName locale name = true) :
    lastCatalogName? (names ++ [name]) locale = some name := by
  simp [lastCatalogName?, h]

theorem lastCatalogName?_eq_none_iff :
    lastCatalogName? names locale = none ↔ ∀ name ∈ names, isCatalogName locale name = false := by
  simp [lastCatalogName?]

theorem Unambiguous.catalog?_eq (h : fs.Unambiguous path names locale) {name' : String}
    (hmem : name ∈ names) (hname : isCatalogName locale name = true)
    (hmem' : name' ∈ names) (hname' : isCatalogName locale name' = true) :
    (fs.catalog? path name).map Catalog.get? = (fs.catalog? path name').map Catalog.get? := by
  obtain ⟨hlocale, hname⟩ := isCatalogName_iff.1 hname
  obtain ⟨-, hname'⟩ := isCatalogName_iff.1 hname'
  rcases hname with rfl | rfl <;> rcases hname' with rfl | rfl
  · rfl
  · exact h hlocale hmem hmem'
  · exact (h hlocale hmem' hmem).symm
  · rfl

end Files

namespace Presenter

variable {p q q₁ q₂ : Presenter} {fs : Files} {path names listed : List String}
  {locale : String}

/-- Adds the catalogs of a directory in the order in which its names are listed. -/
def loadListed (p : Presenter) (fs : Files) (path listed : List String) :
    Except Error Presenter :=
  p.addFiles ((listed.filter Files.isYamlName).map fun name => (name, fs.read? (path ++ [name])))

theorem loadDirectory_eq (h : fs.list? path = some names) :
    p.loadDirectory fs path = p.loadListed fs path names := by
  simp only [loadDirectory, Files.yamlFiles?, h]
  rfl

theorem lookup_addCatalog (p : Presenter) (locale k : String) (c : Catalog) :
    (p.addCatalog locale c).catalogs.lookup k =
      if k = locale then some c else p.catalogs.lookup k := by
  rw [addCatalog, List.lookup_cons, Entries.lookup_filter_ne]
  by_cases hk : k = locale
  · simp [hk]
  · rw [if_neg hk, if_neg hk, beq_false_of_ne hk]

theorem loadListed_cons_of_catalog {name : String} {c : Catalog}
    (hyaml : Files.isYamlName name = true) (hc : fs.catalog? path name = some c) :
    p.loadListed fs path (name :: listed) =
      (p.addCatalog (Files.splitName name).1 c).loadListed fs path listed := by
  obtain ⟨text, htext, hc⟩ := Option.bind_eq_some_iff.1 hc
  have hparsed : Catalog.ofText text = .ok c := by
    cases hofText : Catalog.ofText text with
    | error e => simp [hofText, Except.toOption] at hc
    | ok c' => simpa [hofText, Except.toOption] using hc
  rw [loadListed, List.filter_cons_of_pos hyaml, List.map_cons, htext, addFiles, hparsed]
  rfl

theorem loadListed_cons_of_not {name : String} (hyaml : Files.isYamlName name ≠ true) :
    p.loadListed fs path (name :: listed) = p.loadListed fs path listed := by
  rw [loadListed, List.filter_cons_of_neg hyaml, loadListed]

/-- When all catalogs of a directory can be read they are loaded in any order, and the file that is
listed last counts for its locale. -/
theorem loadListed_eq_ok
    (hread : ∀ name ∈ listed, Files.isYamlName name = true → fs.catalog? path name ≠ none) :
    ∃ q, p.loadListed fs path listed = .ok q ∧ q.defaultLocale = p.defaultLocale ∧
      ∀ locale, q.catalogs.lookup locale =
        (Files.lastCatalogName? listed locale).elim (p.catalogs.lookup locale)
          (fs.catalog? path) := by
  induction listed generalizing p with
  | nil => exact ⟨p, rfl, rfl, fun _ => rfl⟩
  | cons name listed ih =>
    obtain ⟨hname, hread⟩ := List.forall_mem_cons.1 hread
    by_cases hyaml : Files.isYamlName name = true
    · obtain ⟨c, hc⟩ := Option.ne_none_iff_exists'.1 (hname hyaml)
      rw [loadListed_cons_of_catalog hyaml hc]
      obtain ⟨q, hq, hdefault, hlookup⟩ :=
        ih (p := p.addCatalog (Files.splitName name).1 c) hread
      refine ⟨q, hq, hdefault, fun locale => ?_⟩
      rw [hlookup, lookup_addCatalog, Files.lastCatalogName?_cons, Files.isCatalogName, hyaml]
      cases Files.lastCatalogName? listed locale with
      | some later => rfl
      | none =>
        by_cases hlocale : locale = (Files.splitName name).1
        · simp [hlocale, hc]
        · simp [hlocale, Ne.symm hlocale]
    · rw [loadListed_cons_of_not hyaml]
      obtain ⟨q, hq, hdefault, hlookup⟩ := ih (p := p) hread
      refine ⟨q, hq, hdefault, fun locale => ?_⟩
      simp [hlookup, Files.lastCatalogName?_cons, Files.isCatalogName, hyaml]

/-- Whether loading a directory may end with a presenter: it does in some order in which the names
of the directory may be listed. -/
def MayLoad (p : Presenter) (fs : Files) (path : List String) (q : Presenter) : Prop :=
  ∃ names listed, fs.list? path = some names ∧ listed.Perm names ∧
    p.loadListed fs path listed = .ok q

/-- Whether presenters have the same messages for a locale. -/
def SameFor (locale : String) (p q : Presenter) : Prop :=
  (p.catalogs.lookup locale).map Catalog.get? = (q.catalogs.lookup locale).map Catalog.get?

/-- Whether presenters show the same, whatever there is to show and in whatever locale. -/
structure ShowsAs (p q : Presenter) : Prop where
  lookup? : p.lookup? = q.lookup?
  text : p.text = q.text
  render : p.render = q.render
  renderResult : p.renderResult = q.renderResult
  renderNavigation : p.renderNavigation = q.renderNavigation

theorem message?_eq (p : Presenter) (locale key : String) :
    p.message? locale key = ((p.catalogs.lookup locale).map Catalog.get?).bind (· key) := by
  rw [message?, Option.bind_map]
  rfl

theorem showsAs_of_sameFor (hdefault : p.defaultLocale = q.defaultLocale)
    (h : ∀ locale, SameFor locale p q) : ShowsAs p q := by
  have hmessage : p.message? = q.message? := by
    funext locale key
    rw [message?_eq, message?_eq, h locale]
  have hlookup : p.lookup? = q.lookup? := by
    funext locale key
    rw [lookup?, lookup?, hmessage, hdefault]
  have htext : p.text = q.text := by
    funext locale key fallback
    rw [text, text, hlookup]
  have hfill : p.fill = q.fill := by
    funext locale key vars
    rw [fill, fill, htext]
  have hchoice : p.choiceLine = q.choiceLine := by
    funext locale vars choice
    rw [choiceLine, choiceLine, hfill]
  have hrender : p.render = q.render := by
    funext locale prompt
    simp only [render, lines, progressLine, hchoice, htext, hfill, hlookup]
  refine ⟨hlookup, htext, hrender, ?_, ?_⟩
  · funext locale result
    cases result <;> simp only [renderResult, serviceUnavailable, hrender, htext]
  · funext locale navigation
    cases navigation <;> simp only [renderNavigation, backNotAllowed, hrender, htext]

section Listings

variable (hlist : fs.list? path = some names)
  (hread : ∀ name ∈ names, Files.isYamlName name = true → fs.catalog? path name ≠ none)
include hlist hread

theorem exists_mayLoad (hperm : listed.Perm names) :
    ∃ q, p.loadListed fs path listed = .ok q ∧ p.MayLoad fs path q ∧
      q.defaultLocale = p.defaultLocale ∧ ∀ locale, q.catalogs.lookup locale =
        (Files.lastCatalogName? listed locale).elim (p.catalogs.lookup locale)
          (fs.catalog? path) := by
  have hlisted : ∀ name ∈ listed, Files.isYamlName name = true → fs.catalog? path name ≠ none :=
    fun name hname => hread name (hperm.mem_iff.1 hname)
  obtain ⟨q, hq, hdefault, hlookup⟩ := loadListed_eq_ok (p := p) hlisted
  exact ⟨q, hq, ⟨names, listed, hlist, hperm, hq⟩, hdefault, hlookup⟩

theorem MayLoad.exists_listed (h : p.MayLoad fs path q) :
    ∃ listed, listed.Perm names ∧ q.defaultLocale = p.defaultLocale ∧
      ∀ locale, q.catalogs.lookup locale =
        (Files.lastCatalogName? listed locale).elim (p.catalogs.lookup locale)
          (fs.catalog? path) := by
  obtain ⟨names', listed, hlist', hperm, hq⟩ := h
  obtain rfl : names' = names := Option.some.inj (hlist'.symm.trans hlist)
  obtain ⟨q', hq', -, hdefault, hlookup⟩ := exists_mayLoad (p := p) hlist hread hperm
  obtain rfl : q' = q := Except.ok.inj (hq'.symm.trans hq)
  exact ⟨listed, hperm, hdefault, hlookup⟩

/-- In an unambiguous locale it does not matter which file is listed last. -/
theorem sameFor_of_unambiguous (h : fs.Unambiguous path names locale)
    (h₁ : p.MayLoad fs path q₁) (h₂ : p.MayLoad fs path q₂) : SameFor locale q₁ q₂ := by
  obtain ⟨l₁, hperm₁, -, hlookup₁⟩ := h₁.exists_listed hlist hread
  obtain ⟨l₂, hperm₂, -, hlookup₂⟩ := h₂.exists_listed hlist hread
  rw [SameFor, hlookup₁, hlookup₂]
  have hnone : Files.lastCatalogName? l₁ locale = none ↔
      Files.lastCatalogName? l₂ locale = none := by
    simp only [Files.lastCatalogName?_eq_none_iff, (hperm₁.trans hperm₂.symm).mem_iff]
  cases hname₁ : Files.lastCatalogName? l₁ locale with
  | none => rw [hnone.1 hname₁]
  | some name₁ =>
    cases hname₂ : Files.lastCatalogName? l₂ locale with
    | none =>
      rw [hnone.2 hname₂] at hname₁
      cases hname₁
    | some name₂ =>
      obtain ⟨hmem₁, hname₁⟩ := Files.lastCatalogName?_eq_some hname₁
      obtain ⟨hmem₂, hname₂⟩ := Files.lastCatalogName?_eq_some hname₂
      exact h.catalog?_eq (hperm₁.mem_iff.1 hmem₁) hname₁ (hperm₂.mem_iff.1 hmem₂) hname₂

theorem exists_mayLoad_last {name : String} (hmem : name ∈ names)
    (hname : Files.isCatalogName locale name = true) :
    ∃ q, p.MayLoad fs path q ∧ q.catalogs.lookup locale = fs.catalog? path name := by
  have hperm : (names.erase name ++ [name]).Perm names :=
    List.perm_append_comm.trans (List.perm_cons_erase hmem).symm
  obtain ⟨q, -, hload, -, hlookup⟩ := exists_mayLoad (p := p) hlist hread hperm
  refine ⟨q, hload, ?_⟩
  rw [hlookup, Files.lastCatalogName?_append hname]
  rfl

/-- Loading the catalogs of a directory succeeds in whatever order it is listed, and the file listed
last counts for its locale. Which order it is does not matter for a locale if and only if files of
both names for it, if there are such, hold the same messages; if that is so for all locales,
everything is shown the same in all of them. -/
theorem loaded_in_any_order :
    (∀ listed, listed.Perm names → ∃ q, p.loadListed fs path listed = .ok q ∧
      ∀ locale, q.catalogs.lookup locale =
        (Files.lastCatalogName? listed locale).elim (p.catalogs.lookup locale)
          (fs.catalog? path)) ∧
    (∃ q, p.loadDirectory fs path = .ok q ∧ p.MayLoad fs path q) ∧
    (∀ locale, (∀ q₁ q₂, p.MayLoad fs path q₁ → p.MayLoad fs path q₂ → SameFor locale q₁ q₂) ↔
      fs.Unambiguous path names locale) ∧
    ((∀ locale, fs.Unambiguous path names locale) →
      ∀ q₁ q₂, p.MayLoad fs path q₁ → p.MayLoad fs path q₂ → ShowsAs q₁ q₂) := by
  refine ⟨fun listed hperm => ?_, ?_, fun locale => ⟨fun h hlocale hyaml hyml => ?_, ?_⟩, ?_⟩
  · obtain ⟨q, hq, -, -, hlookup⟩ := exists_mayLoad (p := p) hlist hread hperm
    exact ⟨q, hq, hlookup⟩
  · obtain ⟨q, hq, hload, -⟩ := exists_mayLoad (p := p) hlist hread (.refl names)
    exact ⟨q, (loadDirectory_eq hlist).trans hq, hload⟩
  · -- Each of the two files is listed last in some order.
    obtain ⟨q₁, hload₁, hlookup₁⟩ := exists_mayLoad_last (p := p) hlist hread hyaml
      (Files.isCatalogName_iff.2 ⟨hlocale, .inl rfl⟩)
    obtain ⟨q₂, hload₂, hlookup₂⟩ := exists_mayLoad_last (p := p) hlist hread hyml
      (Files.isCatalogName_iff.2 ⟨hlocale, .inr rfl⟩)
    rw [← hlookup₁, ← hlookup₂]
    exact h q₁ q₂ hload₁ hload₂
  · intro h q₁ q₂ h₁ h₂
    exact sameFor_of_unambiguous hlist hread h h₁ h₂
  · intro h q₁ q₂ h₁ h₂
    obtain ⟨-, -, hdefault₁, -⟩ := h₁.exists_listed hlist hread
    obtain ⟨-, -, hdefault₂, -⟩ := h₂.exists_listed hlist hread
    exact showsAs_of_sameFor (hdefault₁.trans hdefault₂.symm) fun locale =>
      sameFor_of_unambiguous hlist hread (h locale) h₁ h₂

end Listings

/-- A directory with two catalogs for one locale, of which one has a hint and the other a prompt. -/
def doubled : Files where
  files := [(["en.yaml"], "hints:\n  back: Go back.\n"),
    (["fr.yaml"], "hints:\n  back: Tapez retour.\n"),
    (["fr.yml"], "Votre nom: \"Votre nom\\nTapez retour.\"\n")]

theorem loaded_in_any_order_doubled :
    doubled.list? [] = some ["en.yaml", "fr.yaml", "fr.yml"] ∧
    (∀ name ∈ ["en.yaml", "fr.yaml", "fr.yml"], Files.isYamlName name = true →
      doubled.catalog? [] name ≠ none) ∧
    (∃ q₁ q₂, MayLoad { defaultLocale := "en" } doubled [] q₁ ∧
      MayLoad { defaultLocale := "en" } doubled [] q₂ ∧ ¬ SameFor "fr" q₁ q₂) ∧
    ∀ q₁ q₂, MayLoad { defaultLocale := "en" } doubled [] q₁ →
      MayLoad { defaultLocale := "en" } doubled [] q₂ → SameFor "en" q₁ q₂ := by
  have hlist : doubled.list? [] = some ["en.yaml", "fr.yaml", "fr.yml"] := by decide +kernel
  have hread : ∀ name ∈ ["en.yaml", "fr.yaml", "fr.yml"], Files.isYamlName name = true →
      doubled.catalog? [] name ≠ none := by decide +kernel
  have hfrench : ¬ doubled.Unambiguous [] ["en.yaml", "fr.yaml", "fr.yml"] "fr" := by
    intro h
    have hhint := congrArg (Option.map (· "hints.back")) (h (by decide) (by decide) (by decide))
    revert hhint
    decide +kernel
  have hload := loaded_in_any_order (p := { defaultLocale := "en" }) hlist hread
  have hdiffer := mt (hload.2.2.1 "fr").1 hfrench
  push Not at hdiffer
  exact ⟨hlist, hread, hdiffer,
    (hload.2.2.1 "en").2 fun _ _ hyml => absurd hyml (by decide)⟩

end Presenter

end Dialogue
