import ComplianceHistory.Proofs.RecordFile.Refusals

/-!
# Objects on lines and in a list

The same objects may stand on lines of their own, with blanks around them and blank lines between them (`OnLines`), or
in a list (`Lists`).  The text is trimmed, cut into lines, and each line is trimmed and read; none of this cuts into an
object or loses one (`documents_onLines`), so files of both forms give the same records, or fail in the same way
(`load_onLines`).
-/

namespace ComplianceHistory.RecordFile

open Text Json Value

/-! ### Texts -/

/-- A text of an object on one line, from brace to brace. -/
structure Spells (t : List Char) (o : Entries Value) : Prop where
  braces : ∃ middle, t = '\x7b' :: (middle ++ ['\x7d'])
  oneLine : '\n' ∉ t
  read : Json.read (String.ofList t) = .ok (.object o)

/-- Objects that stand on lines of their own.  The blanks in front of an object and behind it may hold ends of lines,
which make blank lines; there is one at least between two objects. -/
inductive OnLines : List (Entries Value) → List Char → Prop where
  | blank {gap : List Char} (hgap : ∀ c ∈ gap, isBlank c = true) : OnLines [] gap
  | last {gap t behind : List Char} {o : Entries Value} (hgap : ∀ c ∈ gap, isBlank c = true) (ht : Spells t o)
      (hbehind : ∀ c ∈ behind, isBlank c = true) : OnLines [o] (gap ++ (t ++ behind))
  | line {gap t behind rest : List Char} {o : Entries Value} {os : List (Entries Value)}
      (hgap : ∀ c ∈ gap, isBlank c = true) (ht : Spells t o) (hbehind : ∀ c ∈ behind, isBlank c = true)
      (hrest : OnLines os rest) : OnLines (o :: os) (gap ++ (t ++ (behind ++ '\n' :: rest)))

/-- Objects that stand in a list, with blanks around it. -/
def Lists (os : List (Entries Value)) (text : List Char) : Prop := ∃ gap middle behind,
  text = gap ++ ('[' :: (middle ++ [']']) ++ behind) ∧
  (∀ c ∈ gap, isBlank c = true) ∧ (∀ c ∈ behind, isBlank c = true) ∧
  Json.read (String.ofList ('[' :: (middle ++ [']']))) = .ok (.array (os.map .object))

/-- The text that is written of an object without line breaks. -/
theorem spells_render {o : Entries Value} (h : Expressible Lossless (.object o)) :
    Spells (render none 0 (.object o)) o where
  braces := exists_render_object none 0 o
  oneLine := not_mem_render (by decide) (fun _ => List.not_mem_nil) h 0
  read := read_write Layout.spaced_none h

/-- The text that is written of a list, in any layout. -/
theorem lists_render {l : Layout} {os : List (Entries Value)} (hl : l.Spaced)
    (h : ∀ o ∈ os, Expressible Lossless (.object o)) : Lists os (render l 0 (.array (os.map .object))) := by
  have hread : Json.read (String.ofList (render l 0 (.array (os.map .object)))) = .ok (.array (os.map .object)) :=
    read_write hl (.array (List.forall_mem_map.mpr h))
  obtain ⟨middle, hmiddle⟩ := exists_render_array l 0 (os.map .object)
  rw [hmiddle] at hread ⊢
  exact ⟨[], middle, [], (List.append_nil _).symm, List.forall_mem_nil _, List.forall_mem_nil _, hread⟩

/-! ### Lines -/

/-- Lines that are read as documents, whatever the number of the first one is. -/
def Hold (lines : List (List Char)) (vs : List Value) : Prop := ∀ number, lineDocuments number lines = .ok vs

theorem hold_nil : Hold [] [] := fun _ => rfl

theorem hold_congr {line line' : List Char} {lines : List (List Char)} {vs : List Value}
    (htrim : trim line = trim line') (h : Hold (line :: lines) vs) : Hold (line' :: lines) vs := by
  intro number
  rw [← h number, lineDocuments, lineDocuments, htrim]

theorem hold_blank {line : List Char} {lines : List (List Char)} {vs : List Value}
    (hline : ∀ c ∈ line, isBlank c = true) (h : Hold lines vs) : Hold (line :: lines) vs := by
  intro number
  rw [lineDocuments, trim_blank hline]
  exact h (number + 1)

theorem hold_object {t behind : List Char} {o : Entries Value} {lines : List (List Char)} {vs : List Value}
    (ht : Spells t o) (hbehind : ∀ c ∈ behind, isBlank c = true) (h : Hold lines vs) :
    Hold ((t ++ behind) :: lines) (.object o :: vs) := by
  intro number
  obtain ⟨middle, hmiddle⟩ := ht.braces
  have htrim : trim (t ++ behind) = t := by
    rw [hmiddle]
    exact trim_between (by decide) (by decide) (List.forall_mem_nil _) hbehind middle
  rw [lineDocuments, htrim, hmiddle]
  simp only [← hmiddle, ht.read, h (number + 1)]
  rfl

/-- Blanks in front of a text add nothing to its documents, whether or not there are ends of lines among them. -/
theorem hold_gap {gap rest : List Char} {vs : List Value} (hgap : ∀ c ∈ gap, isBlank c = true)
    (h : Hold (splitLines rest) vs) : Hold (splitLines (gap ++ rest)) vs := by
  induction gap with
  | nil => exact h
  | cons c gap ih =>
    have ih := ih fun d hd => hgap d (List.mem_cons_of_mem c hd)
    by_cases hc : c = '\n'
    · rw [hc]
      exact hold_blank (List.forall_mem_nil _) ih
    · obtain ⟨line, lines, hlines⟩ := exists_splitLines (gap ++ rest)
      have hcons : splitLines ([c] ++ (gap ++ rest)) = ([c] ++ line) :: lines :=
        splitLines_append (fun hmem => hc (List.mem_singleton.mp hmem).symm) hlines
      have htrim : trim line = trim ([c] ++ line) := by
        rw [trim, trim, trimLeft, trimLeft, List.singleton_append,
          List.dropWhile_cons_of_pos (hgap c List.mem_cons_self)]
      rw [hlines] at ih
      rw [List.cons_append, ← List.singleton_append, hcons]
      exact hold_congr htrim ih

/-- What stands behind an object: blanks up to the end of the line, and then lines that are read as documents. -/
def Follows (behind : List Char) (vs : List Value) : Prop := ∃ line lines, splitLines behind = line :: lines ∧
  (∀ c ∈ line, isBlank c = true) ∧ Hold lines vs

theorem follows_nil : Follows [] [] := ⟨[], [], rfl, List.forall_mem_nil _, hold_nil⟩

theorem follows_break {rest : List Char} {vs : List Value} (h : Hold (splitLines rest) vs) :
    Follows ('\n' :: rest) vs :=
  ⟨[], splitLines rest, rfl, List.forall_mem_nil _, h⟩

theorem follows_gap {gap behind : List Char} {vs : List Value} (hgap : ∀ c ∈ gap, isBlank c = true)
    (h : Follows behind vs) : Follows (gap ++ behind) vs := by
  induction gap with
  | nil => exact h
  | cons c gap ih =>
    obtain ⟨line, lines, hlines, hline, hhold⟩ := ih fun d hd => hgap d (List.mem_cons_of_mem c hd)
    by_cases hc : c = '\n'
    · refine ⟨[], line :: lines, ?_, List.forall_mem_nil _, hold_blank hline hhold⟩
      rw [hc, ← hlines]
      rfl
    · have hcons : splitLines ([c] ++ (gap ++ behind)) = ([c] ++ line) :: lines :=
        splitLines_append (fun hmem => hc (List.mem_singleton.mp hmem).symm) hlines
      exact ⟨c :: line, lines, hcons, List.forall_mem_cons.mpr ⟨hgap c List.mem_cons_self, hline⟩, hhold⟩

/-- An object is read from its line, and then what follows it. -/
theorem hold_spelled {t behind : List Char} {o : Entries Value} {vs : List Value} (ht : Spells t o)
    (h : Follows behind vs) : Hold (splitLines (t ++ behind)) (.object o :: vs) := by
  obtain ⟨line, lines, hlines, hline, hhold⟩ := h
  rw [splitLines_append ht.oneLine hlines]
  exact hold_object ht hline hhold

namespace OnLines

variable {os : List (Entries Value)} {text : List Char}

/-- Objects on lines are read one after the other. -/
theorem hold (h : OnLines os text) : Hold (splitLines text) (os.map .object) := by
  induction h with
  | @blank gap hgap =>
    have hempty : Hold (splitLines []) [] := hold_blank (List.forall_mem_nil _) hold_nil
    have hall := hold_gap hgap hempty
    rwa [List.append_nil] at hall
  | @last gap t behind o hgap ht hbehind =>
    have hend := follows_gap hbehind follows_nil
    rw [List.append_nil] at hend
    exact hold_gap hgap (hold_spelled ht hend)
  | line hgap ht hbehind _ ih =>
    exact hold_gap hgap (hold_spelled ht (follows_gap hbehind (follows_break ih)))

/-- Further blanks in front of objects make no difference. -/
theorem behind_gap (h : OnLines os text) {gap : List Char} (hgap : ∀ c ∈ gap, isBlank c = true) :
    OnLines os (gap ++ text) := by
  have hboth : ∀ {gap' : List Char}, (∀ c ∈ gap', isBlank c = true) → ∀ c ∈ gap ++ gap', isBlank c = true :=
    fun hgap' => List.forall_mem_append.mpr ⟨hgap, hgap'⟩
  cases h with
  | blank hgap' => exact .blank (hboth hgap')
  | last hgap' ht hbehind =>
    rw [← List.append_assoc]
    exact .last (hboth hgap') ht hbehind
  | line hgap' ht hbehind hrest =>
    rw [← List.append_assoc]
    exact .line (hboth hgap') ht hbehind hrest

theorem isBlank_of_nil (h : OnLines [] text) : ∀ c ∈ text, isBlank c = true := by
  cases h with
  | blank hgap => exact hgap

theorem alone {t : List Char} {o : Entries Value} (ht : Spells t o) : OnLines [o] t := by
  have halone : OnLines [o] ([] ++ (t ++ [])) := .last (List.forall_mem_nil _) ht (List.forall_mem_nil _)
  rwa [List.nil_append, List.append_nil] at halone

/-- Objects on lines stand from the brace of the first to the brace of the last one, with blanks around them. -/
theorem exists_middle (h : OnLines os text) (hsome : os ≠ []) : ∃ gap middle behind,
    text = gap ++ ('\x7b' :: (middle ++ ['\x7d']) ++ behind) ∧ (∀ c ∈ gap, isBlank c = true) ∧
    (∀ c ∈ behind, isBlank c = true) ∧ OnLines os ('\x7b' :: (middle ++ ['\x7d'])) := by
  induction h with
  | blank hgap => exact absurd rfl hsome
  | @last gap t behind o hgap ht hbehind =>
    obtain ⟨middle, rfl⟩ := ht.braces
    exact ⟨gap, middle, behind, rfl, hgap, hbehind, alone ht⟩
  | @line gap t behind rest o os hgap ht hbehind hrest ih =>
    obtain ⟨middle, rfl⟩ := ht.braces
    by_cases hos : os = []
    · subst hos
      refine ⟨gap, middle, behind ++ '\n' :: rest, rfl, hgap, ?_, alone ht⟩
      exact List.forall_mem_append.mpr ⟨hbehind, List.forall_mem_cons.mpr ⟨by decide, hrest.isBlank_of_nil⟩⟩
    · obtain ⟨gap', middle', behind', rfl, hgap', hbehind', hcore⟩ := ih hos
      have hjoined : OnLines (o :: os) ([] ++ ('\x7b' :: (middle ++ ['\x7d']) ++
          (behind ++ '\n' :: (gap' ++ ('\x7b' :: (middle' ++ ['\x7d'])))))) :=
        .line (List.forall_mem_nil _) ht hbehind (hcore.behind_gap hgap')
      refine ⟨gap, middle ++ '\x7d' :: (behind ++ '\n' :: (gap' ++ '\x7b' :: middle')), behind', ?_, hgap, hbehind', ?_⟩
      · simp
      · simpa using hjoined

end OnLines

/-! ### Documents -/

variable {os : List (Entries Value)} {text : List Char}

/-- **Objects on lines are the documents of their text.** -/
theorem documents_onLines (h : OnLines os text) : documents text = .ok (os.map .object) := by
  by_cases hos : os = []
  · subst hos
    rw [documents, trim_blank h.isBlank_of_nil]
    rfl
  · obtain ⟨gap, middle, behind, rfl, hgap, hbehind, hcore⟩ := h.exists_middle hos
    rw [documents, trim_between (by decide) (by decide) hgap hbehind]
    exact hcore.hold 1

/-- The objects of a list are the documents of its text. -/
theorem documents_lists (h : Lists os text) : documents text = .ok (os.map .object) := by
  obtain ⟨gap, middle, behind, rfl, hgap, hbehind, hread⟩ := h
  rw [documents, trim_between (by decide) (by decide) hgap hbehind]
  simp only [hread]

/-- The records of objects, one for each, or the fault of the first one that is no record. -/
theorem recordsFrom_objects (os : List (Entries Value)) :
    (∃ rs, recordsFrom 0 (os.map .object) = .ok rs ∧ List.Forall₂ (fun o r => Record.ofFields o = .ok r) os rs) ∨
    ∃ before o behind e, os = before ++ o :: behind ∧ (∀ b ∈ before, ∃ r, Record.ofFields b = .ok r) ∧
      Record.ofFields o = .error e ∧ recordsFrom 0 (os.map .object) = .error (.record before.length e) := by
  rcases exists_first_fault Record.ofFields os with ⟨rs, hrs⟩ | ⟨before, o, behind, e, rfl, hbefore, ho⟩
  · exact .inl ⟨rs, recordsFrom_eq_ok.mpr (List.forall₂_map_left_iff.mpr hrs), hrs⟩
  · refine .inr ⟨before, o, behind, e, rfl, hbefore, ho, ?_⟩
    rw [List.map_append, List.map_cons]
    refine recordsFrom_of_fault (List.forall_mem_map.mpr hbefore) ?_
    rw [List.length_map, Nat.zero_add, recordsFrom, ho]

/-- **Objects on lines and objects in a list are loaded alike.**  Files with the same objects in the two forms have one
outcome: the records of the objects, one for each and in their order, or the fault of the first object that is no
record, with its number. -/
theorem load_onLines {fs : Files} {lines list : String} {text' : List Char}
    (hlines : fs.read lines (plainPath lines) = .ok text) (honLines : OnLines os text)
    (hlist : fs.read list (plainPath list) = .ok text') (hlists : Lists os text') :
    load fs lines = load fs list ∧
    ((∃ rs, load fs list = .ok rs ∧ List.Forall₂ (fun o r => Record.ofFields o = .ok r) os rs) ∨
    ∃ before o behind e, os = before ++ o :: behind ∧ (∀ b ∈ before, ∃ r, Record.ofFields b = .ok r) ∧
      Record.ofFields o = .error e ∧ load fs list = .error (.record before.length e)) := by
  have hrecords : ∀ {cs}, documents cs = .ok (os.map .object) → records cs = recordsFrom 0 (os.map .object) := by
    intro cs hcs
    rw [records, hcs]
  rw [load_of_read hlines, load_of_read hlist, hrecords (documents_onLines honLines), hrecords (documents_lists hlists)]
  exact ⟨rfl, recordsFrom_objects os⟩

/-- The members of a record. -/
def dated : Entries Value := [("streamId", .string "s"), ("ts", .int 60)]

/-- Members without an instant. -/
def undated : Entries Value := [("streamId", .string "s")]

/-- The two objects on lines, with blanks and a blank line between them. -/
def mixedLines : String := "\x7b\"streamId\": \"s\", \"ts\": 60\x7d \r\n\t\r\n  \x7b\"streamId\": \"s\"\x7d\n"

/-- The two objects on lines, and in a list with one item on a line. -/
def mixedFiles : Files where
  texts := [("lines.ndjson", mixedLines),
    ("list.json", Json.write (.blanks 2) (.array [.object dated, .object undated]))]

/-- Both files fail alike, at the second object. -/
theorem load_mixedFiles : load mixedFiles "lines.ndjson" = load mixedFiles "list.json" ∧
    load mixedFiles "list.json" = .error (.record 1 (.noTimestamp "s")) := by
  have hdated : Expressible Lossless (.object dated) := .pair (by decide) (.string "s") (.int (by decide))
  have hundated : Expressible Lossless (.object undated) := .single _ (.string "s")
  have htext : plainLines mixedLines.toList = [] ++ (render none 0 (.object dated) ++ ([' '] ++
      '\n' :: (['\t', '\n', ' ', ' '] ++ (render none 0 (.object undated) ++ ['\n'])))) := by
    decide +kernel
  have honLines : OnLines [dated, undated] (plainLines mixedLines.toList) := by
    rw [htext]
    exact .line (List.forall_mem_nil _) (spells_render hdated) (forall_of_all (by decide))
      (.last (forall_of_all (by decide)) (spells_render hundated) (forall_of_all (by decide)))
  have hlines : mixedFiles.read "lines.ndjson" (plainPath "lines.ndjson") = .ok (plainLines mixedLines.toList) := by
    decide +kernel
  have hlist : mixedFiles.read "list.json" (plainPath "list.json") =
      .ok (render (.blanks 2) 0 (.array [.object dated, .object undated])) := by
    decide +kernel
  have hlists : Lists [dated, undated] (render (.blanks 2) 0 (.array [.object dated, .object undated])) :=
    lists_render (Layout.spaced_blanks 2)
      (List.forall_mem_cons.mpr ⟨hdated, List.forall_mem_cons.mpr ⟨hundated, nofun⟩⟩)
  obtain ⟨r, hrecord⟩ : ∃ r, Record.ofFields dated = .ok r := ⟨_, rfl⟩
  have hfault : Record.ofFields undated = .error (.noTimestamp "s") := rfl
  obtain ⟨hsame, ⟨rs, -, hrs⟩ | ⟨before, o, behind, e, hos, hbefore, ho, hload⟩⟩ :=
    load_onLines hlines honLines hlist hlists
  · obtain ⟨r, -, hr⟩ := exists_of_mem_left hrs (List.mem_cons_of_mem dated (List.mem_singleton_self undated))
    cases hfault.symm.trans hr
  · cases before with
    | nil =>
      cases hos
      cases hrecord.symm.trans ho
    | cons b before =>
      cases before with
      | nil =>
        cases hos
        cases hfault.symm.trans ho
        exact ⟨hsame, hload⟩
      | cons b' bs => simp at hos

end ComplianceHistory.RecordFile
