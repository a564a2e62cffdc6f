import ComplianceHistory.Proofs.Json.Scalars
import ComplianceHistory.Proofs.Json.Texts
import ComplianceHistory.Text.Classes
import ComplianceHistory.Text.Lines

/-!
# Reading back what was written

A text that is laid out with white space is read as the value it was made of (`read_write`), if the value is one that
a text can hold and its floating-point numbers are read back.  The induction is on the value; every step says that
the value is read in front of anything that may stand behind it (`ReadsBack`), which for an item is the separator and
the items behind it, or the break and the closing bracket.  The length of a text bounds the readings it takes.
-/

namespace ComplianceHistory.Json

open Decimal

/-- A floating-point number that is read back from its text. -/
def Lossless (x : Float) : Prop := scalar (floatText .json x).toList = .ok (.float x, [])

/-- The number of the text `1.5` is the double that is written so. -/
theorem lossless_oneAndHalf : Lossless 1.5 := by
  have hbits : (floatOf false ['1'] ['5'] 0).toBits = (1.5 : Float).toBits := by decide +kernel
  have hfloat : floatOf false ['1'] ['5'] 0 = 1.5 := by
    generalize floatOf false ['1'] ['5'] 0 = x at hbits
    generalize (1.5 : Float) = y at hbits
    obtain ⟨⟨a, ha⟩⟩ := x
    obtain ⟨⟨b, hb⟩⟩ := y
    obtain rfl : a = b := hbits
    rfl
  have htext : (floatText .json 1.5).toList = ['1', '.', '5'] := by decide +kernel
  have hword : word? ['1', '.', '5'] = none := word?_number (c := '1') (by decide) (by decide)
  have hsigned : signed? ['1', '.', '5'] = some (.ok (.float (floatOf false ['1'] ['5'] 0), [])) := rfl
  rw [Lossless, htext, scalar, hword, hsigned, hfloat]
  rfl

/-! ### White space of layouts -/

/-- A layout that indents by white space. -/
def Layout.Spaced (l : Layout) : Prop := ∀ indent, l = some indent → ∀ c ∈ indent, isSpace c = true

theorem Layout.mem_break_blanks {n : Int} {level : Nat} {c : Char} (h : c ∈ (Layout.blanks n).break level) :
    c = '\n' ∨ c = ' ' := by
  rcases List.mem_cons.mp h with rfl | h
  · exact .inl rfl
  · obtain ⟨copy, hcopy, hc⟩ := List.mem_flatten.mp h
    rw [List.eq_of_mem_replicate hcopy] at hc
    exact .inr (List.eq_of_mem_replicate hc)

theorem Layout.spaced_blanks (n : Int) : (Layout.blanks n).Spaced := by
  intro indent hindent c hc
  cases hindent
  rw [List.eq_of_mem_replicate hc]
  decide

theorem Layout.spaced_none : Layout.Spaced none := by
  intro indent hindent
  cases hindent

theorem Layout.Spaced.break {l : Layout} (hl : l.Spaced) (level : Nat) : ∀ c ∈ l.break level, isSpace c = true := by
  cases l with
  | none => nofun
  | some indent =>
    intro c hc
    rcases List.mem_cons.mp hc with rfl | hc
    · decide
    · obtain ⟨copy, hcopy, hc⟩ := List.mem_flatten.mp hc
      rw [List.eq_of_mem_replicate hcopy] at hc
      exact hl indent rfl c hc

/-- What stands between two items is a comma with white space behind it. -/
theorem Layout.Spaced.separator {l : Layout} (hl : l.Spaced) (level : Nat) :
    ∃ gap, l.separator level = ',' :: gap ∧ ∀ c ∈ gap, isSpace c = true := by
  cases l with
  | none => exact ⟨[' '], rfl, forall_of_all (by decide)⟩
  | some indent => exact ⟨_, rfl, hl.break level⟩

theorem skipSpace_append {gap : List Char} (hgap : ∀ c ∈ gap, isSpace c = true) (cs : List Char) :
    skipSpace (gap ++ cs) = skipSpace cs := List.dropWhile_append_of_pos hgap

theorem skipSpace_cons {c : Char} (hc : isSpace c = false) (cs : List Char) : skipSpace (c :: cs) = c :: cs := by
  rw [skipSpace, List.dropWhile_cons_of_neg]
  rw [hc]
  exact Bool.false_ne_true

theorem Layout.ends_break {l : Layout} (level : Nat) {c : Char} (hc : endsValue c = true) (rest : List Char) :
    Ends (l.break level ++ c :: rest) := by
  cases l with
  | none => exact Ends.cons hc rest
  | some indent => exact Ends.cons (by decide) _

/-! ### Readers step by step -/

section Steps

variable {fuel : Nat} {cs rest : List Char}

/-- Items are a value with the end behind it, or with a comma and further items. -/
theorem items_eq_ok {xs : List Value} : items (fuel + 1) cs = .ok (xs, rest) ↔
    ∃ x more, value fuel cs = .ok (x, more) ∧ (skipSpace more = ']' :: rest ∧ xs = [x] ∨
      ∃ gap ys, skipSpace more = ',' :: gap ∧ items fuel (skipSpace gap) = .ok (ys, rest) ∧ xs = x :: ys) := by
  rw [items, bind_eq_ok]
  constructor
  · rintro ⟨⟨x, more⟩, hx, h⟩
    refine ⟨x, more, hx, ?_⟩
    dsimp only at h
    split at h
    · cases h
      exact .inl ⟨‹_›, rfl⟩
    · rename_i gap hgap
      obtain ⟨⟨ys, rest'⟩, hys, h⟩ := bind_eq_ok.mp h
      cases h
      exact .inr ⟨gap, ys, hgap, hys, rfl⟩
    · cases h
  · rintro ⟨x, more, hx, ⟨hend, rfl⟩ | ⟨gap, ys, hgap, hys, rfl⟩⟩
    · refine ⟨(x, more), hx, ?_⟩
      dsimp only
      rw [hend]
      rfl
    · refine ⟨(x, more), hx, ?_⟩
      dsimp only
      rw [hgap]
      exact bind_eq_ok.mpr ⟨(ys, rest), hys, rfl⟩

/-- Members are a name with a colon and a value, and the end behind it or a comma and further members. -/
theorem members_eq_ok {fs : List (String × Value)} : members (fuel + 1) cs = .ok (fs, rest) ↔
    ∃ body name behind colon x more, cs = '"' :: body ∧ stringBody cs body = .ok (name, behind) ∧
      skipSpace behind = ':' :: colon ∧ value fuel (skipSpace colon) = .ok (x, more) ∧
      (skipSpace more = '\x7d' :: rest ∧ fs = [(String.ofList name, x)] ∨
        ∃ gap gs, skipSpace more = ',' :: gap ∧ members fuel (skipSpace gap) = .ok (gs, rest) ∧
          fs = (String.ofList name, x) :: gs) := by
  constructor
  · intro h
    rw [members.eq_def] at h
    dsimp only at h
    split at h
    · rename_i body
      obtain ⟨⟨name, behind⟩, hname, h⟩ := bind_eq_ok.mp h
      dsimp only at h
      split at h
      · rename_i colon hcolon
        obtain ⟨⟨x, more⟩, hx, h⟩ := bind_eq_ok.mp h
        refine ⟨body, name, behind, colon, x, more, rfl, hname, hcolon, hx, ?_⟩
        dsimp only at h
        split at h
        · cases h
          exact .inl ⟨‹_›, rfl⟩
        · rename_i gap hgap
          obtain ⟨⟨gs, rest'⟩, hgs, h⟩ := bind_eq_ok.mp h
          cases h
          exact .inr ⟨gap, gs, hgap, hgs, rfl⟩
        · cases h
      · cases h
    · cases h
  · rintro ⟨body, name, behind, colon, x, more, rfl, hname, hcolon, hx, h⟩
    rw [members]
    refine bind_eq_ok.mpr ⟨(name, behind), hname, ?_⟩
    dsimp only
    rw [hcolon]
    refine bind_eq_ok.mpr ⟨(x, more), hx, ?_⟩
    dsimp only
    rcases h with ⟨hend, rfl⟩ | ⟨gap, gs, hgap, hgs, rfl⟩
    · rw [hend]
      rfl
    · rw [hgap]
      exact bind_eq_ok.mpr ⟨(gs, rest), hgs, rfl⟩

theorem value_string (s : String) (rest : List Char) :
    value (fuel + 1) (stringText s ++ rest) = .ok (.string s, rest) := by
  obtain ⟨body, hbody, hread⟩ := stringText_append s rest
  rw [hbody, value]
  refine bind_eq_ok.mpr ⟨(s.toList, rest), hread _, ?_⟩
  dsimp only
  rw [String.ofList_toList]
  rfl

theorem value_word {c : Char} (hc : isWordChar c = true) (cs : List Char) :
    value (fuel + 1) (c :: cs) = scalar (c :: cs) := by
  have hne : ∀ d, isWordChar d = false → c ≠ d := by
    rintro d hd rfl
    rw [hc] at hd
    cases hd
  rw [value]
  · exact fun _ h => hne '"' (by decide) (List.cons.inj h).1
  · exact fun _ h => hne '[' (by decide) (List.cons.inj h).1
  · exact fun _ h => hne '\x7b' (by decide) (List.cons.inj h).1

theorem value_array {xs : List Value} {start : List Char} (hskip : skipSpace cs = start)
    (hc : start.head? ≠ some ']') (hxs : items fuel start = .ok (xs, rest)) :
    value (fuel + 1) ('[' :: cs) = .ok (.array xs, rest) := by
  rw [value]
  subst hskip
  split
  · rename_i hend
    exact absurd (by rw [hend]; rfl) hc
  · exact bind_eq_ok.mpr ⟨(xs, rest), hxs, rfl⟩

theorem value_object {fs : List (String × Value)} {start : List Char} (hskip : skipSpace cs = start)
    (hc : start.head? ≠ some '\x7d') (hfs : members fuel start = .ok (fs, rest)) :
    value (fuel + 1) ('\x7b' :: cs) = .ok (.object (Entries.ofList fs), rest) := by
  rw [value]
  subst hskip
  split
  · rename_i hend
    exact absurd (by rw [hend]; rfl) hc
  · exact bind_eq_ok.mpr ⟨(fs, rest), hfs, rfl⟩

end Steps

/-! ### Values in front of what stands behind them -/

/-- A value that is read in front of anything that may stand behind it. -/
def ReadsBack (l : Layout) (v : Value) : Prop := ∀ level fuel rest, (render l level v).length ≤ fuel → Ends rest →
  value fuel (render l level v ++ rest) = .ok (v, rest)

/-- White space in front of a value does not reach into it. -/
theorem skipSpace_render {P : Float → Prop} {l : Layout} {v : Value} (h : Expressible P v) (level : Nat)
    {gap : List Char} (hgap : ∀ c ∈ gap, isSpace c = true) (rest : List Char) :
    skipSpace (gap ++ (render l level v ++ rest)) = render l level v ++ rest := by
  obtain ⟨c, cs, hc, hstart⟩ := render_head (l := l) h level
  rw [skipSpace_append hgap, hc, List.cons_append, skipSpace_cons (startsValue_not_space hstart)]

theorem renderMember_head {l : Layout} (level : Nat) (f : String × Value) :
    ∃ cs, renderMember l level f = '"' :: cs := by
  obtain ⟨k, x⟩ := f
  exact ⟨_, rfl⟩

theorem skipSpace_renderMember {l : Layout} (level : Nat) {f : String × Value} {gap : List Char}
    (hgap : ∀ c ∈ gap, isSpace c = true) (rest : List Char) :
    skipSpace (gap ++ (renderMember l level f ++ rest)) = renderMember l level f ++ rest := by
  obtain ⟨cs, hcs⟩ := renderMember_head (l := l) level f
  rw [skipSpace_append hgap, hcs, List.cons_append, skipSpace_cons (by decide)]

/-- A member is read up to the end of its value, and then what follows it. -/
theorem members_of_rendered {l : Layout} {level : Nat} {f : String × Value} (hf : Expressible Lossless f.2)
    (hback : ReadsBack l f.2) {fuel : Nat} (hfuel : (renderMember l level f).length ≤ fuel) {more rest : List Char}
    (hmore : Ends more) {fs : List (String × Value)}
    (hnext : skipSpace more = '\x7d' :: rest ∧ fs = [f] ∨
      ∃ gap gs, skipSpace more = ',' :: gap ∧ members fuel (skipSpace gap) = .ok (gs, rest) ∧ fs = f :: gs) :
    members (fuel + 1) (renderMember l level f ++ more) = .ok (fs, rest) := by
  obtain ⟨k, x⟩ := f
  have htext : renderMember l level (k, x) ++ more =
      stringText k ++ (':' :: ([' '] ++ (render l level x ++ more))) := by
    simp [renderMember_mk]
  have hlength : (render l level x).length ≤ fuel := by
    rw [renderMember_mk, List.length_append] at hfuel
    omega
  obtain ⟨body, hbody, hname⟩ := stringText_append k (':' :: ([' '] ++ (render l level x ++ more)))
  rw [htext]
  refine members_eq_ok.mpr ⟨body, k.toList, _, _, x, more, hbody, hname _, skipSpace_cons (by decide) _, ?_, ?_⟩
  · rw [skipSpace_render hf level (forall_of_all (by decide))]
    exact hback level fuel more hlength hmore
  · rw [String.ofList_toList]
    exact hnext

section Collections

variable {l : Layout} (hl : l.Spaced)
include hl

/-- What is read of items, up to the bracket behind the break. -/
theorem items_rendered {outer level : Nat} {x : Value} {xs : List Value}
    (h : ∀ y ∈ x :: xs, Expressible Lossless y ∧ ReadsBack l y) {fuel : Nat}
    (hfuel : (render l level x).length + (renderItems l level xs).length < fuel) (rest : List Char) :
    items fuel (render l level x ++ (renderItems l level xs ++ (l.break outer ++ ']' :: rest))) =
      .ok (x :: xs, rest) := by
  induction xs generalizing x fuel with
  | nil =>
    cases fuel with
    | zero => omega
    | succ n =>
      have hx := (h x List.mem_cons_self).2 level n (l.break outer ++ ']' :: rest) (by omega)
        (Layout.ends_break outer (by decide) rest)
      refine items_eq_ok.mpr ⟨x, _, hx, .inl ⟨?_, rfl⟩⟩
      rw [skipSpace_append (hl.break outer), skipSpace_cons (by decide)]
  | cons y ys ih =>
    cases fuel with
    | zero => omega
    | succ n =>
      obtain ⟨gap, hgap, hspace⟩ := hl.separator level
      have htext : renderItems l level (y :: ys) ++ (l.break outer ++ ']' :: rest) =
          ',' :: (gap ++ (render l level y ++ (renderItems l level ys ++ (l.break outer ++ ']' :: rest)))) := by
        simp [renderItems_cons, hgap]
      have hlength : (render l level y).length + (renderItems l level ys).length <
          (renderItems l level (y :: ys)).length := by
        simp only [renderItems_cons, hgap, List.length_append, List.length_cons]
        omega
      have hys : items n _ = .ok (y :: ys, rest) := ih (fun z hz => h z (List.mem_cons_of_mem x hz)) (by omega)
      rw [htext]
      have hx := (h x List.mem_cons_self).2 level n (',' :: (gap ++ (render l level y ++ (renderItems l level ys ++
        (l.break outer ++ ']' :: rest))))) (by omega) (Ends.cons (by decide) _)
      refine items_eq_ok.mpr ⟨x, _, hx, .inr ⟨_, y :: ys, skipSpace_cons (by decide) _, ?_, rfl⟩⟩
      rw [skipSpace_render (h y (by simp)).1 level hspace]
      exact hys

/-- What is read of members, up to the brace behind the break. -/
theorem members_rendered {outer level : Nat} {f : String × Value} {fs : List (String × Value)}
    (h : ∀ g ∈ f :: fs, Expressible Lossless g.2 ∧ ReadsBack l g.2) {fuel : Nat}
    (hfuel : (renderMember l level f).length + (renderMembers l level fs).length < fuel) (rest : List Char) :
    members fuel (renderMember l level f ++ (renderMembers l level fs ++ (l.break outer ++ '\x7d' :: rest))) =
      .ok (f :: fs, rest) := by
  induction fs generalizing f fuel with
  | nil =>
    cases fuel with
    | zero => omega
    | succ n =>
      obtain ⟨hf, hback⟩ := h f List.mem_cons_self
      refine members_of_rendered hf hback (by omega) (Layout.ends_break outer (by decide) rest) (.inl ⟨?_, rfl⟩)
      rw [skipSpace_append (hl.break outer), skipSpace_cons (by decide)]
  | cons g gs ih =>
    cases fuel with
    | zero => omega
    | succ n =>
      obtain ⟨gap, hgap, hspace⟩ := hl.separator level
      have htext : renderMembers l level (g :: gs) ++ (l.break outer ++ '\x7d' :: rest) =
          ',' :: (gap ++ (renderMember l level g ++
            (renderMembers l level gs ++ (l.break outer ++ '\x7d' :: rest)))) := by
        simp [renderMembers_cons, hgap]
      have hlength : (renderMember l level g).length + (renderMembers l level gs).length <
          (renderMembers l level (g :: gs)).length := by
        simp only [renderMembers_cons, hgap, List.length_append, List.length_cons]
        omega
      have hgs : members n _ = .ok (g :: gs, rest) := ih (fun z hz => h z (List.mem_cons_of_mem f hz)) (by omega)
      obtain ⟨hf, hback⟩ := h f List.mem_cons_self
      rw [htext]
      refine members_of_rendered hf hback (by omega) (Ends.cons (by decide) _)
        (.inr ⟨_, g :: gs, skipSpace_cons (by decide) _, ?_, rfl⟩)
      rw [skipSpace_renderMember level hspace]
      exact hgs

end Collections

/-- A word or number is read back. -/
theorem readsBack_word {l : Layout} {v : Value} {cs : List Char} (htext : ∀ level, render l level v = cs)
    (hword : IsWord cs) (hread : scalar cs = .ok (v, [])) : ReadsBack l v := by
  intro level fuel rest hfuel hrest
  obtain ⟨c, ds, rfl⟩ := List.exists_cons_of_ne_nil hword.1
  rw [htext] at hfuel ⊢
  cases fuel with
  | zero => cases hfuel
  | succ n =>
    rw [List.cons_append, value_word (hword.2 c List.mem_cons_self), ← List.cons_append]
    exact scalar_append hrest hread

theorem readsBack_array {l : Layout} (hl : l.Spaced) {xs : List Value}
    (h : ∀ x ∈ xs, Expressible Lossless x ∧ ReadsBack l x) : ReadsBack l (.array xs) := by
  intro level fuel rest hfuel _
  cases fuel with
  | zero => cases xs <;> cases hfuel
  | succ n =>
    cases xs with
    | nil => rfl
    | cons x xs =>
      obtain ⟨c, cs, hc, hstart⟩ := render_head (l := l) (h x List.mem_cons_self).1 (level + 1)
      have hlength : (render l (level + 1) x).length + (renderItems l (level + 1) xs).length < n := by
        simp only [render_items, List.length_cons, List.length_append, List.length_nil] at hfuel
        omega
      have htext : render l level (.array (x :: xs)) ++ rest = '[' :: (l.break (level + 1) ++
          (render l (level + 1) x ++ (renderItems l (level + 1) xs ++ (l.break level ++ ']' :: rest)))) := by
        simp [render_items]
      rw [htext]
      refine value_array (skipSpace_render (h x List.mem_cons_self).1 _ (hl.break _) _) ?_
        (items_rendered hl h hlength rest)
      rw [hc, List.cons_append, List.head?_cons]
      exact fun hclose => startsValue_ne hstart (by decide) (Option.some.inj hclose)

theorem readsBack_object {l : Layout} (hl : l.Spaced) {fs : List (String × Value)} (hnames : (Keyed.keys fs).Nodup)
    (h : ∀ f ∈ fs, Expressible Lossless f.2 ∧ ReadsBack l f.2) : ReadsBack l (.object fs) := by
  intro level fuel rest hfuel _
  cases fuel with
  | zero => cases fs <;> cases hfuel
  | succ n =>
    cases fs with
    | nil => rfl
    | cons f fs =>
      have hlength : (renderMember l (level + 1) f).length + (renderMembers l (level + 1) fs).length < n := by
        simp only [render_members, List.length_cons, List.length_append, List.length_nil] at hfuel
        omega
      have htext : render l level (.object (f :: fs)) ++ rest = '\x7b' :: (l.break (level + 1) ++
          (renderMember l (level + 1) f ++ (renderMembers l (level + 1) fs ++ (l.break level ++ '\x7d' :: rest)))) := by
        simp [render_members]
      have hentries : Entries.ofList (f :: fs) = f :: fs := Entries.putAll_of_nodup [] hnames
      obtain ⟨cs, hcs⟩ := renderMember_head (l := l) (level + 1) f
      rw [htext, value_object (skipSpace_renderMember _ (hl.break _) _) ?_ (members_rendered hl h hlength rest),
        hentries]
      rw [hcs, List.cons_append, List.head?_cons]
      exact fun hclose => absurd (Option.some.inj hclose) (by decide)

/-- **A value that a text can hold is read back**, whatever stands behind its text. -/
theorem readsBack {l : Layout} (hl : l.Spaced) {v : Value} (h : Expressible Lossless v) : ReadsBack l v := by
  induction h with
  | null => exact readsBack_word (fun _ => rfl) isWord_null rfl
  | bool b =>
    cases b with
    | false => exact readsBack_word (fun _ => rfl) isWord_false rfl
    | true => exact readsBack_word (fun _ => rfl) isWord_true rfl
  | @int n hn => exact readsBack_word (fun _ => rfl) (isWord_int n) (scalar_int hn)
  | @float x hx => exact readsBack_word (fun _ => rfl) (isWord_float x) hx
  | string s =>
    intro level fuel rest hfuel _
    cases fuel with
    | zero => cases hfuel
    | succ n => exact value_string s rest
  | @array xs h ih => exact readsBack_array hl fun x hx => ⟨h x hx, ih x hx⟩
  | @object fs hnames h ih => exact readsBack_object hl hnames fun f hf => ⟨h f hf, ih f hf⟩

/-! ### Whole texts -/

/-- **The text of a value is read as the value**, also with white space behind it. -/
theorem read_write_append {l : Layout} (hl : l.Spaced) {v : Value} (h : Expressible Lossless v) {gap : List Char}
    (hgap : ∀ c ∈ gap, isSpace c = true) (hends : Ends gap) : read (write l v ++ String.ofList gap) = .ok v := by
  obtain ⟨c, cs, hc, hstart⟩ := render_head (l := l) h 0
  have hmark : (render l 0 v ++ gap).head? ≠ some '\ufeff' := by
    rw [hc, List.cons_append, List.head?_cons]
    exact fun hmark => startsValue_ne hstart (by decide) (Option.some.inj hmark)
  have hskip : skipSpace (render l 0 v ++ gap) = render l 0 v ++ gap := by
    rw [hc, List.cons_append, skipSpace_cons (startsValue_not_space hstart)]
  have hvalue : value ((render l 0 v ++ gap).length + 1) (render l 0 v ++ gap) = .ok (v, gap) :=
    readsBack hl h 0 _ gap (by rw [List.length_append]; omega) hends
  have hrest : skipSpace gap = [] := List.dropWhile_eq_nil_iff.mpr hgap
  unfold read write
  simp only [String.toList_append, String.toList_ofList, if_neg hmark, hskip, hvalue]
  rw [ok_bind]
  dsimp only
  rw [hrest]
  rfl

theorem read_write {l : Layout} (hl : l.Spaced) {v : Value} (h : Expressible Lossless v) :
    read (write l v) = .ok v := by
  have happend : read (write l v ++ String.ofList []) = .ok v :=
    read_write_append hl h (List.forall_mem_nil _) Ends.nil
  rwa [String.ofList_nil, String.append_empty] at happend

theorem Layout.not_mem_break_blanks (n : Int) (level : Nat) : '\r' ∉ (Layout.blanks n).break level := by
  intro hmem
  rcases Layout.mem_break_blanks hmem with h | h <;> cases h

/-- The text of a list stands between brackets. -/
theorem exists_render_array (l : Layout) (level : Nat) (xs : List Value) :
    ∃ middle, render l level (.array xs) = '[' :: (middle ++ [']']) := by
  cases xs with
  | nil => exact ⟨[], rfl⟩
  | cons x xs => exact ⟨_, rfl⟩

/-- The text of an object stands between braces. -/
theorem exists_render_object (l : Layout) (level : Nat) (fs : Entries Value) :
    ∃ middle, render l level (.object fs) = '\x7b' :: (middle ++ ['\x7d']) := by
  cases fs with
  | nil => exact ⟨[], rfl⟩
  | cons f fs => exact ⟨_, rfl⟩

/-- In a file the text of a value has line feeds at the ends of its lines only, as it was written. -/
theorem plainLines_write {P : Float → Prop} {l : Layout} (hbreak : ∀ level, '\r' ∉ l.break level) {v : Value}
    (h : Expressible P v) : Text.plainLines (write l v).toList = render l 0 v := by
  rw [write, String.toList_ofList]
  exact Text.plainLines_of_not_mem (not_mem_render (by decide) hbreak h 0)

/-- The text of a list in a file has no blanks at its ends. -/
theorem trim_plainLines_write {P : Float → Prop} {l : Layout} (hbreak : ∀ level, '\r' ∉ l.break level) {xs : List Value}
    (h : ∀ x ∈ xs, Expressible P x) :
    Text.trim (Text.plainLines (write l (.array xs)).toList) = render l 0 (.array xs) := by
  obtain ⟨middle, hmiddle⟩ := exists_render_array l 0 xs
  rw [plainLines_write hbreak (.array h), hmiddle, Text.trim_of_ends (by decide) (by decide)]

end ComplianceHistory.Json
