import Dialogue.Proofs.PercentCoding
import Dialogue.Taxpayer.Gateway
import Dialogue.Url.Reader
import Mathlib.Data.List.Basic

namespace Dialogue

namespace Url

variable {escape : Char → Bool} {text : String} {c : Char} {cs : List Char} {parts : List String}

/-- What a segment keeps of a text: all but tabs and line breaks. -/
def kept (text : String) : List Char := text.toList.filter fun c => !isPassedOver c

/-- The segment that a text becomes. -/
def segmentText (escape : Char → Bool) (text : String) : List Char :=
  Percent.encode escape (kept text)

/-- Whether a text becomes a segment of its own: it is not taken for dots. -/
def IsName (text : String) : Prop := kept text ≠ ['.'] ∧ kept text ≠ ['.', '.']

instance (text : String) : Decidable (IsName text) := inferInstanceAs (Decidable (_ ∧ _))

theorem IsName.not_dots (h : IsName text) : ¬(text = "." ∨ text = "..") := by
  rintro (rfl | rfl)
  · exact h.1 (by decide)
  · exact h.2 (by decide)

end Url

open Url in
/-- What a library for addresses documents of adding a segment to an address of a scheme. A single
or a double dot is passed over, and so are the tabs and line breaks of another text. If dots are
left, they are resolved as in a text that is read, else the text becomes one segment at the end.
Some of its characters are escaped: what ends a segment and percent signs are, small letters are
not. -/
structure UrlLibrary.Documented [UrlLibrary] (scheme : String) (escape : Char → Bool) : Prop where
  percent : escape '%' = true
  ends : escape '/' = true ∧ escape '?' = true ∧ escape '#' = true
  letter : ∀ c, c.isLower = true → escape c = false
  dots : ∀ parts text, text = "." ∨ text = ".." → UrlLibrary.addSegment scheme parts text = parts
  becomes_dot : ∀ parts text, ¬(text = "." ∨ text = "..") → kept text = ['.'] →
    UrlLibrary.addSegment scheme parts text = opened parts ++ [""]
  becomes_dots : ∀ parts text, ¬(text = "." ∨ text = "..") → kept text = ['.', '.'] →
    UrlLibrary.addSegment scheme parts text = parts.dropLast ++ [""]
  name : ∀ parts text, IsName text →
    UrlLibrary.addSegment scheme parts text =
      opened parts ++ [String.ofList (segmentText escape text)]

namespace Url

theorem decode?_segmentText (hpercent : escape '%' = true) (text : String) :
    Percent.decode? (segmentText escape text) = some (String.ofList (kept text)) :=
  Percent.decode?_encode hpercent _

theorem not_mem_segmentText (hends : escape '/' = true ∧ escape '?' = true ∧ escape '#' = true)
    (h : c ∈ segmentText escape text) : c ≠ '/' ∧ c ≠ '?' ∧ c ≠ '#' := by
  have hplain : escape c = false ∨ c = '%' ∨ c.isAlphanum = true := Percent.mem_encode h
  refine ⟨?_, ?_, ?_⟩ <;>
  · rintro rfl
    revert hplain
    simp only [hends]
    decide

theorem toLower_cases (c : Char) : c.toLower = c ∨ ∃ n < 26, c = Char.ofNat (65 + n) := by
  unfold Char.toLower
  split
  · rename_i hcapital
    have hlow : 65 ≤ c.toNat := hcapital.1
    have hhigh : c.toNat ≤ 90 := hcapital.2
    have hc : Char.ofNat (65 + (c.toNat - 65)) = c := by
      rw [Nat.add_sub_cancel' hlow, Char.ofNat_toNat]
    exact .inr ⟨c.toNat - 65, by omega, hc.symm⟩
  · exact .inl rfl

theorem eq_of_toLower {d : Char} (hd : ∀ n < 26, (Char.ofNat (65 + n)).toLower ≠ d)
    (h : c.toLower = d) : c = d := by
  obtain hsame | ⟨n, hn, rfl⟩ := toLower_cases c
  · exact hsame.symm.trans h
  · exact absurd h (hd n hn)

theorem digit?_of_toLower_e (h : c.toLower = 'e') : Percent.digit? c = some 14 := by
  obtain hsame | ⟨n, hn, rfl⟩ := toLower_cases c
  · rw [hsame.symm.trans h]
    rfl
  · have hcapitals : ∀ n < 26, (Char.ofNat (65 + n)).toLower = 'e' →
        Percent.digit? (Char.ofNat (65 + n)) = some 14 := by decide
    exact hcapitals n hn h

/-- A dot in lower case, written as itself or as an escape. -/
def IsDot (cs : List Char) : Prop := cs = ['.'] ∨ cs = ['%', '2', 'e']

/-- A dot is read from a text that starts with one, case apart. -/
theorem decodeBytes_of_isDot {dot ds : List Char} (hdot : IsDot dot)
    (h : cs.map Char.toLower = dot ++ ds) :
    ∃ rest, rest.map Char.toLower = ds ∧
      Percent.decodeBytes cs = 0x2E :: Percent.decodeBytes rest := by
  obtain rfl | rfl := hdot
  · obtain ⟨c, rest, rfl, hc, hrest⟩ := List.map_eq_cons_iff.1 h
    have hself : c = '.' := eq_of_toLower (by decide) hc
    refine ⟨rest, hrest, ?_⟩
    rw [hself, Percent.decodeBytes_cons (by decide)]
    rfl
  · obtain ⟨c, _, rfl, hc, h⟩ := List.map_eq_cons_iff.1 h
    obtain ⟨a, _, rfl, ha, h⟩ := List.map_eq_cons_iff.1 h
    obtain ⟨b, rest, rfl, hb, hrest⟩ := List.map_eq_cons_iff.1 h
    have hpercent : c = '%' := eq_of_toLower (by decide) hc
    have htwo : a = '2' := eq_of_toLower (by decide) ha
    have hhigh : Percent.digit? '2' = some 2 := rfl
    have hlow : Percent.digit? b = some 14 := digit?_of_toLower_e hb
    refine ⟨rest, hrest, ?_⟩
    rw [hpercent, htwo]
    simp only [Percent.decodeBytes, hhigh, hlow]
    rfl

theorem decode?_of_isSingleDot (h : isSingleDot cs = true) : Percent.decode? cs = some "." := by
  have hforms : ∃ dot, IsDot dot ∧ cs.map Char.toLower = dot ++ [] := by
    have hlist := List.contains_iff_mem.1 h
    simpa [IsDot, ← String.toList_inj] using hlist
  obtain ⟨dot, hdot, hcs⟩ := hforms
  obtain ⟨rest, hrest, hbytes⟩ := decodeBytes_of_isDot hdot hcs
  rw [Percent.decode?, hbytes, List.map_eq_nil_iff.1 hrest]
  decide +kernel

theorem decode?_of_isDoubleDot (h : isDoubleDot cs = true) : Percent.decode? cs = some ".." := by
  have hforms : ∃ dot dot', IsDot dot ∧ IsDot dot' ∧ cs.map Char.toLower = dot ++ (dot' ++ []) := by
    have hlist := List.contains_iff_mem.1 h
    simp only [List.mem_cons, List.not_mem_nil, or_false, ← String.toList_inj,
      String.toList_ofList] at hlist
    obtain hcs | hcs | hcs | hcs := hlist
    · exact ⟨['.'], ['.'], .inl rfl, .inl rfl, hcs⟩
    · exact ⟨['%', '2', 'e'], ['%', '2', 'e'], .inr rfl, .inr rfl, hcs⟩
    · exact ⟨['.'], ['%', '2', 'e'], .inl rfl, .inr rfl, hcs⟩
    · exact ⟨['%', '2', 'e'], ['.'], .inr rfl, .inl rfl, hcs⟩
  obtain ⟨dot, dot', hdot, hdot', hcs⟩ := hforms
  obtain ⟨rest, hrest, hbytes⟩ := decodeBytes_of_isDot hdot hcs
  obtain ⟨rest', hrest', hbytes'⟩ := decodeBytes_of_isDot hdot' hrest
  rw [Percent.decode?, hbytes, hbytes', List.map_eq_nil_iff.1 hrest']
  decide +kernel

theorem kept_of_isSingleDot (hpercent : escape '%' = true)
    (h : isSingleDot (segmentText escape text) = true) : kept text = ['.'] :=
  Percent.eq_of_decode?_encode hpercent (decode?_of_isSingleDot h)

theorem kept_of_isDoubleDot (hpercent : escape '%' = true)
    (h : isDoubleDot (segmentText escape text) = true) : kept text = ['.', '.'] :=
  Percent.eq_of_decode?_encode hpercent (decode?_of_isDoubleDot h)

section Library

variable {special : Bool}

theorem escapedInSegment_percent (special : Bool) : escapedInSegment special '%' = true := by
  cases special <;> decide

theorem escapedInSegment_letter (special : Bool) (h : c.isLower = true) :
    escapedInSegment special c = false := by
  obtain ⟨n, hn, rfl⟩ : ∃ n < 26, c = Char.ofNat (97 + n) := by
    have hlow : 97 ≤ c.toNat := of_decide_eq_true (Bool.and_eq_true_iff.1 h).1
    have hhigh : c.toNat ≤ 122 := of_decide_eq_true (Bool.and_eq_true_iff.1 h).2
    refine ⟨c.toNat - 97, by omega, ?_⟩
    rw [Nat.add_sub_cancel' hlow, Char.ofNat_toNat]
  have hletters : ∀ n < 26, ∀ special, escapedInSegment special (Char.ofNat (97 + n)) = false := by
    decide
  exact hletters n hn special

theorem isSingleDot_segmentText :
    isSingleDot (segmentText (escapedInSegment special) text) = true ↔ kept text = ['.'] := by
  refine ⟨kept_of_isSingleDot (escapedInSegment_percent special), fun h => ?_⟩
  rw [segmentText, h]
  cases special <;> decide +kernel

theorem isDoubleDot_segmentText :
    isDoubleDot (segmentText (escapedInSegment special) text) = true ↔ kept text = ['.', '.'] := by
  refine ⟨kept_of_isDoubleDot (escapedInSegment_percent special), fun h => ?_⟩
  rw [segmentText, h]
  cases special <;> decide +kernel

theorem library_addSegment (scheme : String) (parts : List String) (text : String) :
    library.addSegment scheme parts text = addSegment (isSpecial scheme) parts text := rfl

/-- The library of the command line adds segments as documented. -/
theorem library_documented (scheme : String) :
    UrlLibrary.Documented scheme (escapedInSegment (isSpecial scheme)) where
  percent := escapedInSegment_percent _
  ends := by
    cases isSpecial scheme <;> decide
  letter c := escapedInSegment_letter _
  dots parts text hdots := if_pos hdots
  becomes_dot parts text hdots hdot := by
    have hdouble : kept text ≠ ['.', '.'] := by
      rw [hdot]
      decide
    rw [library_addSegment, addSegment, if_neg hdots, ← kept, ← segmentText,
      if_neg (isDoubleDot_segmentText.not.2 hdouble), if_pos (isSingleDot_segmentText.2 hdot)]
  becomes_dots parts text hdots hdouble := by
    rw [library_addSegment, addSegment, if_neg hdots, ← kept, ← segmentText,
      if_pos (isDoubleDot_segmentText.2 hdouble)]
  name parts text hname := by
    rw [library_addSegment, addSegment, if_neg hname.not_dots, ← kept, ← segmentText,
      if_neg (isDoubleDot_segmentText.not.2 hname.2),
      if_neg (isSingleDot_segmentText.not.2 hname.1)]

end Library

theorem opened_of_mem {part : String} (h : part ∈ parts) (hpart : part ≠ "") :
    opened parts = parts := by
  refine if_neg ?_
  rintro rfl
  exact hpart (List.mem_singleton.1 h)

/-- What is left of a path when room is made for a segment: all but empty segments at its end. -/
theorem exists_blanks (parts : List String) :
    ∃ blanks, parts = opened (popEmpty parts) ++ blanks ∧ ∀ blank ∈ blanks, blank = "" := by
  have hpop : ∃ blanks, parts = popEmpty parts ++ blanks ∧ ∀ blank ∈ blanks, blank = "" := by
    unfold popEmpty
    split
    · rename_i hlast
      obtain ⟨-, hblank⟩ := hlast
      exact ⟨[""], (List.dropLast_append_getLast? _ hblank).symm, by simp⟩
    · exact ⟨[], by simp, by simp⟩
  obtain ⟨blanks, hparts, hblanks⟩ := hpop
  by_cases hroom : popEmpty parts = [""]
  · refine ⟨"" :: blanks, ?_, by simpa using hblanks⟩
    rw [opened, if_pos hroom, List.nil_append]
    rw [hroom] at hparts
    exact hparts
  · exact ⟨blanks, by rwa [opened, if_neg hroom], hblanks⟩

theorem target_withPath (u : Url) (h : parts ≠ []) :
    (u.withPath parts).target =
      String.join (parts.map ("/" ++ ·)) ++ (u.query.elim "" ("?" ++ ·)) := by
  obtain ⟨part, rest, rfl⟩ := List.exists_cons_of_ne_nil h
  simp only [target, withPath]
  cases u.query with
  | none => simp
  | some q => simp [String.append_assoc]

/-- Two paths that differ in one segment at most are sent alike only if they are the same. -/
theorem target_withPath_inj {u : Url} {above below : List String} {s t : String} :
    (u.withPath (above ++ s :: below)).target = (u.withPath (above ++ t :: below)).target ↔
      s = t := by
  rw [target_withPath u (by simp), target_withPath u (by simp), String.append_left_inj]
  simp only [List.map_append, List.map_cons, String.join_append, String.join_cons]
  rw [String.append_right_inj, String.append_left_inj, String.append_right_inj]

end Url

namespace Gateway

open Url

section Path

variable {above : List String} {escape : Char → Bool} {nif nif' : String}

/-- The path at which an identifier is verified below other segments. -/
def verifyPath (escape : Char → Bool) (above : List String) (nif : String) : List String :=
  if nif = "." ∨ nif = ".." then above ++ ["taxpayers", "verify"]
  else if kept nif = ['.'] then above ++ ["taxpayers", "", "verify"]
  else if kept nif = ['.', '.'] then opened (above ++ [""]) ++ ["verify"]
  else above ++ ["taxpayers", String.ofList (segmentText escape nif), "verify"]

theorem verifyPath_of_isName (h : IsName nif) :
    verifyPath escape above nif =
      above ++ ["taxpayers", String.ofList (segmentText escape nif), "verify"] := by
  rw [verifyPath, if_neg h.not_dots, if_neg h.1, if_neg h.2]

theorem kept_eq_toList_iff : kept nif = nif.toList ↔ ∀ c ∈ nif.toList, isPassedOver c = false := by
  simp [kept]

/-- What is taken for dots has no segment from which it is read back. -/
theorem isName_of_verifyPath {segment : String}
    (hpath : verifyPath escape above nif = above ++ ["taxpayers", segment, "verify"])
    (hread : Percent.decode? segment.toList = some nif) : IsName nif := by
  unfold verifyPath at hpath
  split_ifs at hpath with hdots hdot hdouble
  · have hlength := congrArg List.length hpath
    simp at hlength
  · simp only [List.append_cancel_left_eq, List.cons.injEq, true_and, and_true] at hpath
    rw [← hpath] at hread
    have hempty : nif = "" := (Option.some.inj hread).symm
    rw [hempty] at hdot
    cases hdot
  · have hlength := congrArg List.length hpath
    have hopened : (opened (above ++ [""])).length ≤ above.length + 1 := by
      unfold opened
      split <;> simp
    simp only [List.length_append, List.length_cons, List.length_nil] at hlength
    omega
  · exact ⟨hdot, hdouble⟩

/-- An identifier is read back from a segment of its own exactly when nothing of it is passed over
and it is not taken for dots. -/
theorem read_back_iff (hpercent : escape '%' = true) :
    (∃ segment : String,
      verifyPath escape above nif = above ++ ["taxpayers", segment, "verify"] ∧
      Percent.decode? segment.toList = some nif) ↔
        IsName nif ∧ ∀ c ∈ nif.toList, isPassedOver c = false := by
  constructor
  · rintro ⟨segment, hpath, hread⟩
    have hname : IsName nif := isName_of_verifyPath hpath hread
    rw [verifyPath_of_isName hname] at hpath
    simp only [List.append_cancel_left_eq, List.cons.injEq, true_and, and_true] at hpath
    rw [← hpath, String.toList_ofList, decode?_segmentText hpercent] at hread
    have hkept : kept nif = nif.toList := by
      simpa using congrArg String.toList (Option.some.inj hread)
    exact ⟨hname, kept_eq_toList_iff.1 hkept⟩
  · rintro ⟨hname, hkept⟩
    refine ⟨_, verifyPath_of_isName hname, ?_⟩
    rw [String.toList_ofList, decode?_segmentText hpercent, kept_eq_toList_iff.2 hkept,
      String.ofList_toList]

theorem target_verifyPath_iff {u : Url} (hpercent : escape '%' = true) (hname : IsName nif)
    (hname' : IsName nif') :
    (u.withPath (verifyPath escape above nif)).target =
      (u.withPath (verifyPath escape above nif')).target ↔ kept nif = kept nif' := by
  have hmiddle : ∀ s, above ++ ["taxpayers", s, "verify"] =
      (above ++ ["taxpayers"]) ++ s :: ["verify"] := by simp
  rw [verifyPath_of_isName hname, verifyPath_of_isName hname', hmiddle, hmiddle,
    target_withPath_inj, String.ofList_inj]
  exact ⟨Percent.encode_injective hpercent, congrArg _⟩

end Path

section Gateway

variable [UrlLibrary] {g : Gateway} {base : Url} {parts : List String} {scheme word : String}
  {escape : Char → Bool}

theorem addSegment_word (hdocumented : UrlLibrary.Documented scheme escape) (hname : IsName word)
    (hkept : kept word = word.toList) (hletters : word.toList.all Char.isLower = true) :
    UrlLibrary.addSegment scheme parts word = opened parts ++ [word] := by
  have hplain : ∀ c ∈ word.toList, escape c = false := fun c hc =>
    hdocumented.letter c (List.all_eq_true.1 hletters c hc)
  rw [hdocumented.name parts word hname, segmentText, hkept, Percent.encode_of_plain hplain,
    String.ofList_toList]

theorem foldl_addSegment (hdocumented : UrlLibrary.Documented scheme escape)
    (parts : List String) (nif : String) :
    ["taxpayers", nif, "verify"].foldl (UrlLibrary.addSegment scheme) parts =
      verifyPath escape (opened parts) nif := by
  have htaxpayers : ∀ parts, UrlLibrary.addSegment scheme parts "taxpayers" =
      opened parts ++ ["taxpayers"] := fun parts =>
    addSegment_word hdocumented (by decide) (by decide) (by decide)
  have hverify : ∀ parts, UrlLibrary.addSegment scheme parts "verify" =
      opened parts ++ ["verify"] := fun parts =>
    addSegment_word hdocumented (by decide) (by decide) (by decide)
  have hopened : ∀ more, opened (opened parts ++ "taxpayers" :: more) =
      opened parts ++ "taxpayers" :: more := fun more =>
    opened_of_mem (List.mem_append_right _ (List.mem_cons_self ..)) (by decide)
  simp only [List.foldl_cons, List.foldl_nil, htaxpayers, hverify, verifyPath]
  split_ifs with hdots hdot hdouble
  · rw [hdocumented.dots _ _ hdots, hopened, List.append_assoc]
    rfl
  · rw [hdocumented.becomes_dot _ _ hdots hdot, hopened, List.append_assoc]
    simp [hopened]
  · rw [hdocumented.becomes_dots _ _ hdots hdouble, List.dropLast_concat]
  · rw [hdocumented.name _ _ ⟨hdot, hdouble⟩, hopened]
    simp [hopened]

theorem endpoint_eq (hdocumented : UrlLibrary.Documented base.scheme escape)
    (hparse : UrlLibrary.parse? g.baseUrl = some base)
    (hpath : base.path = .segments parts) (nif : String) :
    g.endpoint ["taxpayers", nif, "verify"] =
      .ok (base.withPath (verifyPath escape (opened (popEmpty parts)) nif)) := by
  simp only [endpoint, hparse, extend?, hpath, foldl_addSegment hdocumented]

/-- How an identifier is verified at a gateway whose address can take a path, with a library that
adds segments as documented. What is fetched is the path of the gateway, without empty segments at
its end, and below it three segments, the second of which is one segment from which the identifier
is read back without its tabs and line breaks; an identifier that is a single or a double dot then,
and only such a one, does not get a segment of its own. So the identifier itself is read back
exactly when it has no tab or line break and is no dots, and the same is fetched for two identifiers
with segments of their own exactly when they are the same but for tabs and line breaks. -/
theorem verify_address (hdocumented : UrlLibrary.Documented base.scheme escape)
    (hparse : UrlLibrary.parse? g.baseUrl = some base)
    (hpath : base.path = .segments parts) :
    ∃ above blanks, parts = above ++ blanks ∧ (∀ blank ∈ blanks, blank = "") ∧
      (∀ nif, g.verify nif =
        (g.fetch (base.withPath (verifyPath escape above nif))).bind
          fun response => .done (response.bind verifyAnswer)) ∧
      (∀ nif, IsName nif → ∃ segment : String,
        verifyPath escape above nif = above ++ ["taxpayers", segment, "verify"] ∧
        (∀ c ∈ segment.toList, c ≠ '/' ∧ c ≠ '?' ∧ c ≠ '#') ∧
        isSingleDot segment.toList = false ∧ isDoubleDot segment.toList = false ∧
        Percent.decode? segment.toList = some (String.ofList (kept nif))) ∧
      (∀ nif, (∃ segment : String,
        verifyPath escape above nif = above ++ ["taxpayers", segment, "verify"] ∧
        Percent.decode? segment.toList = some nif) ↔
          IsName nif ∧ ∀ c ∈ nif.toList, isPassedOver c = false) ∧
      (∀ nif nif', IsName nif → IsName nif' →
        ((base.withPath (verifyPath escape above nif)).target =
          (base.withPath (verifyPath escape above nif')).target ↔
            kept nif = kept nif')) := by
  obtain ⟨blanks, hparts, hblanks⟩ := exists_blanks parts
  have hpercent : escape '%' = true := hdocumented.percent
  refine ⟨_, blanks, hparts, hblanks, fun nif => ?_, fun nif hname => ?_,
    fun nif => read_back_iff hpercent,
    fun nif nif' hname hname' => target_verifyPath_iff hpercent hname hname'⟩
  · rw [verify, endpoint_eq hdocumented hparse hpath]
  · refine ⟨_, verifyPath_of_isName hname, ?_⟩
    rw [String.toList_ofList]
    refine ⟨fun c hc => not_mem_segmentText hdocumented.ends hc, ?_, ?_,
      decode?_segmentText hpercent _⟩
    · exact Bool.eq_false_iff.2 (mt (kept_of_isSingleDot hpercent) hname.1)
    · exact Bool.eq_false_iff.2 (mt (kept_of_isDoubleDot hpercent) hname.2)

end Gateway

def proxied : Gateway := make "http://127.0.0.1/api/" none

/-- Slashes and dots within an identifier stay in its segment. A tab is lost, so that two
identifiers have the same address, and a double dot has no segment of its own. -/
theorem verify_address_proxied : ∃ base : Url,
    UrlLibrary.parse? proxied.baseUrl = some base ∧ base.path = .segments ["api"] ∧
      (∃ segment : String,
        verifyPath (escapedInSegment (isSpecial base.scheme)) ["api"] "12/../x?y" =
          ["api", "taxpayers", segment, "verify"] ∧
        Percent.decode? segment.toList = some "12/../x?y") ∧
      (base.withPath
        (verifyPath (escapedInSegment (isSpecial base.scheme)) ["api"] "1234\t567A")).target =
          (base.withPath
            (verifyPath (escapedInSegment (isSpecial base.scheme)) ["api"] "1234567A")).target ∧
      ¬ (∃ segment : String,
        verifyPath (escapedInSegment (isSpecial base.scheme)) ["api"] ".." =
          ["api", "taxpayers", segment, "verify"] ∧
        Percent.decode? segment.toList = some "..") := by
  have hparse : UrlLibrary.parse? proxied.baseUrl =
      some ⟨"http", some "127.0.0.1", .segments ["api"], none⟩ := by decide +kernel
  obtain ⟨above, blanks, hparts, hblanks, -, -, hread, hsame⟩ :=
    verify_address (library_documented _) hparse rfl
  have habove : above = ["api"] := by
    cases above with
    | nil =>
      have hmem : "api" ∈ blanks := by
        rw [← List.nil_append blanks, ← hparts]
        exact List.mem_singleton_self _
      exact absurd (hblanks _ hmem) (by decide)
    | cons part above =>
      obtain ⟨rfl, hrest⟩ := List.cons.inj hparts
      rw [(List.append_eq_nil_iff.1 hrest.symm).1]
  subst habove
  refine ⟨_, hparse, rfl, (hread _).2 ?_, (hsame _ _ ?_ ?_).2 ?_, (hread _).not.2 ?_⟩
  · simp [IsName, kept, isPassedOver]
  · simp [IsName, kept, isPassedOver]
  · simp [IsName, kept, isPassedOver]
  · simp [kept, isPassedOver]
  · simp [IsName, kept, isPassedOver]

end Gateway

end Dialogue
