import ComplianceHistory.Json.Halves
import ComplianceHistory.Proofs.Json.RoundTrip

/-!
# Halves of pairs in texts that are written

A text is written with halves character by character of its strings (`Escaped.withHalves_append`), and nothing else in
it changes.  So whether a value has a stand-in in it does not depend on how its text is laid out
(`laidOutAlike`).
-/

namespace ComplianceHistory.Json

open Text

/-! ### Characters -/

/-- The digits of a code unit are no backslashes. -/
theorem ne_backslash_of_codeUnit? {a b c d : Char} {n : Nat} (h : codeUnit? a b c d = some n) :
    a ≠ '\\' ∧ b ≠ '\\' ∧ c ≠ '\\' ∧ d ≠ '\\' := by
  have hvalue : hexValue? '\\' = none := by decide
  refine ⟨?_, ?_, ?_, ?_⟩ <;> rintro rfl <;> simp [codeUnit?, hvalue] at h

theorem withHalves_cons {c : Char} (hc : c ≠ '\\') (cs : List Char) : withHalves (c :: cs) = c :: withHalves cs := by
  rw [withHalves]
  · exact fun _ _ _ _ _ _ _ _ _ h _ => hc h
  · exact fun _ _ h _ => hc h

theorem withHalves_append {cs : List Char} (hcs : '\\' ∉ cs) (rest : List Char) :
    withHalves (cs ++ rest) = cs ++ withHalves rest := by
  induction cs with
  | nil => rfl
  | cons c cs ih =>
    have hc : c ≠ '\\' := fun hc => hcs (hc ▸ List.mem_cons_self)
    rw [List.cons_append, withHalves_cons hc, ih fun hmem => hcs (List.mem_cons_of_mem c hmem), List.cons_append]

/-- A letter behind a backslash, if no code unit starts there. -/
theorem withHalves_escape {c : Char} (hunit : c ≠ 'u') (rest : List Char) :
    withHalves ('\\' :: c :: rest) = '\\' :: c :: withHalves rest := by
  rw [withHalves]
  exact fun _ _ _ _ _ _ _ _ _ h _ => hunit h

theorem halfOf?_eq_none {c : Char} (h : c.toNat < 0x10000) : halfOf? c = none := by
  have hstart : (standIn 0xD800).toNat = 0x10F800 := by decide
  rw [halfOf?, if_neg]
  omega

/-- A half is a code unit. -/
theorem lt_of_halfOf? {c : Char} {n : Nat} (h : halfOf? c = some n) : n < 0x10000 := by
  have hvalid : c.toNat < 0xD800 ∨ 0xDFFF < c.toNat ∧ c.toNat < 0x110000 := c.valid
  have hstart : (standIn 0xD800).toNat = 0x10F800 := by decide
  rw [halfOf?, hstart] at h
  split at h
  · obtain rfl := Option.some.inj h
    omega
  · cases h

/-- A code unit that is no first half of a pair stays as it is. -/
theorem withHalves_unit {n : Nat} (hn : n < 0x10000) (hhalf : isHighHalf n = false) (rest : List Char) :
    withHalves (codeEscape n ++ rest) = codeEscape n ++ withHalves rest := by
  obtain ⟨a, b, c, d, hhex, hunit⟩ := exists_hex_four hn
  obtain ⟨ha, hb, hc, hd⟩ := ne_backslash_of_codeUnit? hunit
  rw [codeEscape, hhex]
  by_cases hpair : ∃ e f g h more, rest = '\\' :: 'u' :: e :: f :: g :: h :: more
  · obtain ⟨e, f, g, h, more, rfl⟩ := hpair
    have hnone : halfOfUnits? a b c d e f g h = none := by
      rw [halfOfUnits?, hunit]
      cases codeUnit? e f g h with
      | none => rfl
      | some m =>
        show (if isHighHalf n && isLowHalf m then halfOf? (charOfPair n m) else none) = none
        rw [hhalf]
        rfl
    show withHalves ('\\' :: 'u' :: a :: b :: c :: d :: '\\' :: 'u' :: e :: f :: g :: h :: more) = _
    rw [withHalves, hnone]
    rfl
  · show withHalves ('\\' :: 'u' :: a :: b :: c :: d :: rest) = _
    rw [withHalves, withHalves_cons ha, withHalves_cons hb, withHalves_cons hc, withHalves_cons hd]
    · rfl
    · rintro a' b' c' d' e f g h more - hrest
      cases hrest
      exact hpair ⟨e, f, g, h, more, rfl⟩

/-- A pair of code units. -/
theorem withHalves_pair {high low : Nat} (hhigh : isHighHalf high = true) (hlow : isLowHalf low = true)
    (rest : List Char) : withHalves (codeEscape high ++ (codeEscape low ++ rest)) =
      ((halfOf? (charOfPair high low)).elim (codeEscape high ++ codeEscape low) codeEscape) ++ withHalves rest := by
  have hlow' : isHighHalf low = false := by
    simp only [isLowHalf, Bool.and_eq_true, decide_eq_true_eq] at hlow
    simp only [isHighHalf, Bool.and_eq_false_iff, decide_eq_false_iff_not]
    omega
  obtain ⟨a, b, c, d, hhex, hunit⟩ := exists_hex_four (lt_of_isHighHalf hhigh)
  obtain ⟨e, f, g, h, hhex', hunit'⟩ := exists_hex_four (lt_of_isLowHalf hlow)
  have hhalf : halfOfUnits? a b c d e f g h = halfOf? (charOfPair high low) := by
    rw [halfOfUnits?, hunit, hunit']
    show (if isHighHalf high && isLowHalf low then halfOf? (charOfPair high low) else none) = _
    rw [hhigh, hlow]
    exact if_pos rfl
  have htext : codeEscape low ++ rest = '\\' :: 'u' :: e :: f :: g :: h :: rest := by
    rw [codeEscape, hhex']
    rfl
  have hbehind := withHalves_unit (lt_of_isLowHalf hlow) hlow' rest
  rw [htext] at hbehind ⊢
  rw [codeEscape, hhex]
  show withHalves ('\\' :: 'u' :: a :: b :: c :: d :: '\\' :: 'u' :: e :: f :: g :: h :: rest) = _
  rw [withHalves, hhalf]
  cases halfOf? (charOfPair high low) with
  | some n => rfl
  | none =>
    dsimp only
    rw [hbehind, Option.elim_none, List.append_assoc]
    rfl

theorem halfOf?_of_ascii {c : Char} (h : c ≤ '~') : halfOf? c = none := by
  have hlt : c.toNat ≤ 126 := h
  exact halfOf?_eq_none (by omega)

/-- A character of a string is written with halves by itself: as the half that it stands for, or as it is. -/
theorem Escaped.withHalves_append {c : Char} {cs : List Char} (h : Escaped c cs) (rest : List Char) :
    withHalves (cs ++ rest) = (halfOf? c).elim cs codeEscape ++ withHalves rest := by
  cases h with
  | letter he =>
    obtain ⟨hunit, -, -, hascii⟩ := escapeChar?_eq_some he
    rw [halfOf?_of_ascii hascii]
    exact withHalves_escape hunit rest
  | plain _ hbackslash _ hascii =>
    rw [halfOf?_of_ascii hascii]
    exact withHalves_cons hbackslash rest
  | unit hc =>
    rw [halfOf?_eq_none hc]
    exact withHalves_unit hc (not_half c).1 rest
  | pair hhigh hlow hchar => rw [List.append_assoc, withHalves_pair hhigh hlow, hchar]

/-! ### Lengths -/

theorem length_codeEscape {n : Nat} (h : n < 0x10000) : (codeEscape n).length = 6 := by
  obtain ⟨a, b, c, d, hhex, -⟩ := exists_hex_four h
  rw [codeEscape, hhex]
  rfl

theorem length_withHalves_le (cs : List Char) : (withHalves cs).length ≤ cs.length := by
  fun_induction withHalves cs with
  | case1 a b c d e f g h rest n hn ih =>
    have hlength : (codeEscape n).length = 6 := by
      obtain ⟨high, -, hn⟩ := Option.bind_eq_some_iff.mp hn
      obtain ⟨low, -, hn⟩ := Option.bind_eq_some_iff.mp hn
      split at hn
      · exact length_codeEscape (lt_of_halfOf? hn)
      · cases hn
    rw [List.length_append, hlength]
    simp only [List.length_cons]
    omega
  | case2 a b c d e f g h rest hn ih =>
    simp only [List.length_cons] at ih ⊢
    omega
  | case3 c rest _ ih =>
    simp only [List.length_cons]
    omega
  | case4 c rest _ _ ih =>
    simp only [List.length_cons]
    omega
  | case5 => exact Nat.le_refl _

/-! ### Texts without halves -/

/-- Both of two texts stay as they are when they are written with halves, or none does. -/
def AlikeHalved (cs cs' : List Char) : Prop := withHalves cs = cs ↔ withHalves cs' = cs'

namespace AlikeHalved

variable {rest rest' : List Char}

/-- Without backslashes there are no halves. -/
theorem append (h : AlikeHalved rest rest') {cs cs' : List Char} (hcs : '\\' ∉ cs) (hcs' : '\\' ∉ cs') :
    AlikeHalved (cs ++ rest) (cs' ++ rest') := by
  rw [AlikeHalved, withHalves_append hcs, withHalves_append hcs', List.append_cancel_left_eq,
    List.append_cancel_left_eq]
  exact h

/-- A half is shorter than the character that stands for it. -/
theorem halved_ne {c : Char} {n : Nat} (hc : halfOf? c = some n) {cs : List Char} (h : Escaped c cs)
    (rest : List Char) : withHalves (cs ++ rest) ≠ cs ++ rest := by
  intro heq
  rw [h.withHalves_append, hc, Option.elim_some] at heq
  have hlength := congrArg List.length heq
  have hle := length_withHalves_le rest
  rw [List.length_append, List.length_append, length_codeEscape (lt_of_halfOf? hc)] at hlength
  cases h with
  | letter he => rw [halfOf?_of_ascii (escapeChar?_eq_some he).2.2.2] at hc; cases hc
  | plain _ _ _ hascii => rw [halfOf?_of_ascii hascii] at hc; cases hc
  | unit hlt => rw [halfOf?_eq_none hlt] at hc; cases hc
  | pair hhigh hlow _ =>
    rw [List.length_append, length_codeEscape (lt_of_isHighHalf hhigh),
      length_codeEscape (lt_of_isLowHalf hlow)] at hlength
    omega

theorem escaped (h : AlikeHalved rest rest') {c : Char} {cs : List Char} (hc : Escaped c cs) :
    AlikeHalved (cs ++ rest) (cs ++ rest') := by
  cases hhalf : halfOf? c with
  | some n => exact iff_of_false (halved_ne hhalf hc rest) (halved_ne hhalf hc rest')
  | none =>
    rw [AlikeHalved, hc.withHalves_append, hc.withHalves_append, hhalf, Option.elim_none, List.append_cancel_left_eq,
      List.append_cancel_left_eq]
    exact h

theorem stringText (h : AlikeHalved rest rest') (s : String) :
    AlikeHalved (stringText s ++ rest) (stringText s ++ rest') := by
  have hquote : '\\' ∉ ['"'] := by decide
  have hchars : ∀ cs : List Char, AlikeHalved (cs.flatMap escapedChar ++ ('"' :: rest))
      (cs.flatMap escapedChar ++ ('"' :: rest')) := by
    intro cs
    induction cs with
    | nil => exact h.append hquote hquote
    | cons c cs ih =>
      rw [List.flatMap_cons, List.append_assoc, List.append_assoc]
      exact ih.escaped (escaped_escapedChar c)
  have htext := (hchars s.toList).append hquote hquote
  simpa [Json.stringText] using htext

end AlikeHalved

/-! ### Layouts -/

section Layouts

variable {l l' : Layout}

/-- In front of texts that are alike, a value in one layout and in the other leaves them alike. -/
def LaidOutAlike (l l' : Layout) (v : Value) : Prop := ∀ level level' rest rest', AlikeHalved rest rest' →
  AlikeHalved (render l level v ++ rest) (render l' level' v ++ rest')

theorem laidOutAlike_word {v : Value} {cs : List Char} (htext : ∀ l level, render l level v = cs) (hcs : IsWord cs) :
    LaidOutAlike l l' v := by
  have hplain : '\\' ∉ cs := fun hmem => by
    have hword := hcs.2 _ hmem
    revert hword
    decide
  intro level level' rest rest' h
  rw [htext, htext]
  exact h.append hplain hplain

variable (hl : ∀ level, '\\' ∉ l.break level) (hl' : ∀ level, '\\' ∉ l'.break level)
include hl hl'

omit hl' in
theorem backslash_not_mem_separator (level : Nat) : '\\' ∉ l.separator level := by
  cases l with
  | none =>
    have hgap : '\\' ∉ [',', ' '] := by decide
    exact hgap
  | some indent => exact List.not_mem_cons_of_ne_of_not_mem (by decide) (hl level)

theorem alikeHalved_items (level level' : Nat) {rest rest' : List Char} (hrest : AlikeHalved rest rest')
    {xs : List Value} (h : ∀ x ∈ xs, LaidOutAlike l l' x) :
    AlikeHalved (renderItems l level xs ++ rest) (renderItems l' level' xs ++ rest') := by
  induction xs with
  | nil => exact hrest
  | cons x xs ih =>
    have hxs := ih fun y hy => h y (List.mem_cons_of_mem x hy)
    have hx := (h x List.mem_cons_self level level' _ _ hxs).append (backslash_not_mem_separator hl level)
      (backslash_not_mem_separator hl' level')
    simpa [renderItems_cons] using hx

omit hl hl' in
theorem alikeHalved_member (level level' : Nat) {rest rest' : List Char} (hrest : AlikeHalved rest rest')
    {f : String × Value} (h : LaidOutAlike l l' f.2) :
    AlikeHalved (renderMember l level f ++ rest) (renderMember l' level' f ++ rest') := by
  have hcolon : '\\' ∉ [':', ' '] := by decide
  obtain ⟨name, x⟩ := f
  have hx := ((h level level' rest rest' hrest).append hcolon hcolon).stringText name
  simpa [renderMember_mk] using hx

theorem alikeHalved_members (level level' : Nat) {rest rest' : List Char} (hrest : AlikeHalved rest rest')
    {fs : List (String × Value)} (h : ∀ f ∈ fs, LaidOutAlike l l' f.2) :
    AlikeHalved (renderMembers l level fs ++ rest) (renderMembers l' level' fs ++ rest') := by
  induction fs with
  | nil => exact hrest
  | cons f fs ih =>
    have hfs := ih fun g hg => h g (List.mem_cons_of_mem f hg)
    have hf := (alikeHalved_member level level' hfs (h f List.mem_cons_self)).append
      (backslash_not_mem_separator hl level) (backslash_not_mem_separator hl' level')
    simpa [renderMembers_cons] using hf

/-- **The layout of a value does not matter to its stand-ins.** -/
theorem laidOutAlike {P : Float → Prop} {v : Value} (h : Expressible P v) : LaidOutAlike l l' v := by
  induction h with
  | null => exact laidOutAlike_word (fun _ _ => rfl) isWord_null
  | bool b =>
    cases b with
    | false => exact laidOutAlike_word (fun _ _ => rfl) isWord_false
    | true => exact laidOutAlike_word (fun _ _ => rfl) isWord_true
  | @int n _ => exact laidOutAlike_word (fun _ _ => rfl) (isWord_int n)
  | @float x _ => exact laidOutAlike_word (fun _ _ => rfl) (isWord_float x)
  | string s =>
    intro level level' rest rest' hrest
    exact hrest.stringText s
  | @array xs _ ih =>
    intro level level' rest rest' hrest
    have hopen : '\\' ∉ ['['] := by decide
    have hclose : '\\' ∉ [']'] := by decide
    cases xs with
    | nil =>
      have hboth : '\\' ∉ ['[', ']'] := by decide
      exact hrest.append hboth hboth
    | cons x xs =>
      have hend := (hrest.append hclose hclose).append (hl level) (hl' level')
      have hitems := alikeHalved_items hl hl' (level + 1) (level' + 1) hend fun y hy =>
        ih y (List.mem_cons_of_mem x hy)
      have hfirst := ih x List.mem_cons_self (level + 1) (level' + 1) _ _ hitems
      have hall := (hfirst.append (hl (level + 1)) (hl' (level' + 1))).append hopen hopen
      simpa [render_items] using hall
  | @object fs _ _ ih =>
    intro level level' rest rest' hrest
    have hopen : '\\' ∉ ['\x7b'] := by decide
    have hclose : '\\' ∉ ['\x7d'] := by decide
    cases fs with
    | nil =>
      have hboth : '\\' ∉ ['\x7b', '\x7d'] := by decide
      exact hrest.append hboth hboth
    | cons f fs =>
      have hend := (hrest.append hclose hclose).append (hl level) (hl' level')
      have hmembers := alikeHalved_members hl hl' (level + 1) (level' + 1) hend fun g hg =>
        ih g (List.mem_cons_of_mem f hg)
      have hfirst := alikeHalved_member (level + 1) (level' + 1) hmembers (ih f List.mem_cons_self)
      have hall := (hfirst.append (hl (level + 1)) (hl' (level' + 1))).append hopen hopen
      simpa [render_members] using hall

end Layouts

/-- A list of one value has the stand-ins of the value. -/
theorem hasStandIn_singleton {P : Float → Prop} {v : Value} (h : Expressible P v) :
    hasStandIn (render none 0 (.array [v])) = hasStandIn (render none 0 v) := by
  have hnone : ∀ level, '\\' ∉ Layout.break none level := fun level => List.not_mem_nil
  have hopen : '\\' ∉ ['['] := by decide
  have hclose : '\\' ∉ [']'] := by decide
  have hend : AlikeHalved ([']'] ++ []) ([] ++ []) := AlikeHalved.append Iff.rfl hclose List.not_mem_nil
  have halike := (laidOutAlike hnone hnone h 1 0 _ _ hend).append hopen List.not_mem_nil
  have htext : render none 0 (.array [v]) = ['['] ++ (render none 1 v ++ ([']'] ++ [])) := by
    show '[' :: ([] ++ render none 1 v ++ [] ++ [] ++ [']']) = _
    simp
  have hvalue : render none 0 v = [] ++ (render none 0 v ++ ([] ++ [])) := by simp
  unfold hasStandIn
  rw [htext, decide_eq_decide, not_iff_not]
  rw [← hvalue] at halike
  exact halike

/-- A text without stand-ins is written with halves as it is, however it is laid out. -/
theorem withHalves_write {P : Float → Prop} {v : Value} (h : Expressible P v)
    (hwhole : hasStandIn (render none 0 v) = false) (n : Int) :
    withHalves (write (.blanks n) v).toList = (write (.blanks n) v).toList := by
  have hnone : ∀ level, '\\' ∉ Layout.break none level := fun level => List.not_mem_nil
  have hblanks : ∀ level, '\\' ∉ (Layout.blanks n).break level := fun level hmem => by
    rcases Layout.mem_break_blanks hmem with h | h <;> revert h <;> decide
  have halike := laidOutAlike hnone hblanks h 0 0 [] [] Iff.rfl
  rw [List.append_nil, List.append_nil] at halike
  rw [write, String.toList_ofList]
  exact halike.mp (by simpa [hasStandIn] using hwhole)

end ComplianceHistory.Json
