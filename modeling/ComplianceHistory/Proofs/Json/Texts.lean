import ComplianceHistory.Proofs.Json.Strings
import ComplianceHistory.Proofs.Lists

/-!
# Texts of values

A value that a text can hold has no instants or dates in it, no whole numbers of too many digits, and no names twice
in an object (`Expressible`).  Its text is written to the end (`written_eq`).  It starts with a character that is no
white space and closes nothing (`render_head`), and all its characters are printable ones of ASCII but for the breaks
of the layout (`forall_mem_render`).
-/

namespace ComplianceHistory.Json

open Decimal Text

/--
A value that a text can hold, if its floating-point numbers have a property.  It is stated for any property, since
some facts need that the numbers are read back and others need nothing of them.
-/
inductive Expressible (P : Float → Prop) : Value → Prop where
  | null : Expressible P .null
  | bool (b : Bool) : Expressible P (.bool b)
  | int {n : Int} (hn : (Nat.toDigits 10 n.natAbs).length ≤ maxDigits) : Expressible P (.int n)
  | float {x : Float} (hx : P x) : Expressible P (.float x)
  | string (s : String) : Expressible P (.string s)
  | array {xs : List Value} (h : ∀ x ∈ xs, Expressible P x) : Expressible P (.array xs)
  | object {fs : List (String × Value)} (hnames : (Keyed.keys fs).Nodup) (h : ∀ f ∈ fs, Expressible P f.2) :
      Expressible P (.object fs)

theorem Expressible.mono {P Q : Float → Prop} (hPQ : ∀ x, P x → Q x) {v : Value} (h : Expressible P v) :
    Expressible Q v := by
  induction h with
  | null => exact .null
  | bool b => exact .bool b
  | int hn => exact .int hn
  | float hx => exact .float (hPQ _ hx)
  | string s => exact .string s
  | array _ ih => exact .array ih
  | object hnames _ ih => exact .object hnames ih

variable {P : Float → Prop} {l : Layout}

/-! ### Parts of values -/

theorem Expressible.nil : Expressible P (.array []) := .array (List.forall_mem_nil _)

theorem Expressible.noMembers : Expressible P (.object []) := .object List.nodup_nil (List.forall_mem_nil _)

theorem Expressible.single (name : String) {v : Value} (h : Expressible P v) : Expressible P (.object [(name, v)]) := by
  refine .object (by simp) fun f hf => ?_
  rw [List.mem_singleton.mp hf]
  exact h

theorem Expressible.pair {name other : String} (hne : name ≠ other) {v w : Value} (hv : Expressible P v)
    (hw : Expressible P w) : Expressible P (.object [(name, v), (other, w)]) := by
  refine .object (by simp [hne]) fun f hf => ?_
  rcases List.mem_pair.mp hf with rfl | rfl
  · exact hv
  · exact hw

theorem Expressible.items {xs : List Value} (h : Expressible P (.array xs)) : ∀ x ∈ xs, Expressible P x := by
  cases h with
  | array h => exact h

theorem Expressible.members {fs : Entries Value} (h : Expressible P (.object fs)) :
    ∀ f ∈ fs, Expressible P f.2 := by
  cases h with
  | object _ h => exact h

theorem Expressible.nodup {fs : Entries Value} (h : Expressible P (.object fs)) : (Keyed.keys fs).Nodup := by
  cases h with
  | object hnames _ => exact hnames

theorem Expressible.put {fs : Entries Value} (h : Expressible P (.object fs)) (name : String) {v : Value}
    (hv : Expressible P v) : Expressible P (.object (fs.put name v)) := by
  refine .object (Keyed.nodup_keys_put h.nodup name v) fun f hf => ?_
  rcases Keyed.mem_of_mem_put hf with rfl | hf
  · exact hv
  · exact h.members f hf

theorem Expressible.putAll {fs gs : Entries Value} (h : Expressible P (.object fs))
    (hgs : ∀ g ∈ gs, Expressible P g.2) : Expressible P (.object (fs.putAll gs)) := by
  refine .object (Entries.nodup_keys_putAll h.nodup gs) fun f hf => ?_
  rcases Entries.mem_of_mem_putAll hf with hf | hf
  · exact hgs f hf
  · exact h.members f hf

/-! ### Writing to the end -/

section Parts

variable {level : Nat}

theorem render_items (x : Value) (xs : List Value) : render l level (.array (x :: xs)) =
    '[' :: (l.break (level + 1) ++ render l (level + 1) x ++ renderItems l (level + 1) xs ++ l.break level ++ [']']) :=
  rfl

theorem render_members (f : String × Value) (fs : List (String × Value)) : render l level (.object (f :: fs)) =
    '\x7b' :: (l.break (level + 1) ++ renderMember l (level + 1) f ++ renderMembers l (level + 1) fs ++ l.break level ++
      ['\x7d']) := rfl

theorem renderItems_cons (x : Value) (xs : List Value) :
    renderItems l level (x :: xs) = l.separator level ++ render l level x ++ renderItems l level xs := rfl

theorem renderMember_mk (name : String) (x : Value) :
    renderMember l level (name, x) = stringText name ++ [':', ' '] ++ render l level x := rfl

theorem renderMembers_cons (f : String × Value) (fs : List (String × Value)) :
    renderMembers l level (f :: fs) = l.separator level ++ renderMember l level f ++ renderMembers l level fs := rfl

end Parts

theorem Written.behind_whole (front cs : List Char) (item : Value) :
    (Written.whole cs).behind front item = .whole (front ++ cs) := by
  cases item <;> rfl

@[simp] theorem Written.append_whole (cs ds : List Char) :
    (Written.whole cs).append (.whole ds) = .whole (cs ++ ds) := rfl

theorem writtenItems_eq {level : Nat} {xs : List Value}
    (h : ∀ x ∈ xs, written l level x = .whole (render l level x)) :
    writtenItems l level xs = .whole (renderItems l level xs) := by
  induction xs with
  | nil => rfl
  | cons x xs ih =>
    show ((written l level x).behind (l.separator level) x).append (writtenItems l level xs) = _
    rw [h x List.mem_cons_self, ih fun y hy => h y (List.mem_cons_of_mem x hy),
      Written.behind_whole, Written.append_whole]
    rfl

theorem writtenMember_eq {level : Nat} {f : String × Value}
    (h : written l level f.2 = .whole (render l level f.2)) :
    writtenMember l level f = .whole (renderMember l level f) := by
  obtain ⟨k, x⟩ := f
  show (Written.whole (stringText k ++ [':', ' '])).append (written l level x) = _
  rw [h, Written.append_whole]
  rfl

theorem writtenMembers_eq {level : Nat} {fs : List (String × Value)}
    (h : ∀ f ∈ fs, written l level f.2 = .whole (render l level f.2)) :
    writtenMembers l level fs = .whole (renderMembers l level fs) := by
  induction fs with
  | nil => rfl
  | cons f fs ih =>
    show ((Written.whole (l.separator level)).append (writtenMember l level f)).append (writtenMembers l level fs) = _
    rw [writtenMember_eq (h f List.mem_cons_self), ih fun g hg => h g (List.mem_cons_of_mem f hg),
      Written.append_whole, Written.append_whole]
    rfl

/-- **A value that a text can hold is written to the end.** -/
theorem written_eq {v : Value} (h : Expressible P v) (level : Nat) :
    written l level v = .whole (render l level v) := by
  induction h generalizing level with
  | null => rfl
  | bool b => rfl
  | int hn => exact if_neg (Nat.not_lt.mpr hn)
  | float hx => rfl
  | string s => rfl
  | @array xs _ ih =>
    cases xs with
    | nil => rfl
    | cons x xs =>
      show (((written l (level + 1) x).behind ('[' :: l.break (level + 1)) x).append
        (writtenItems l (level + 1) xs)).append (.whole (l.break level ++ [']'])) = _
      rw [ih x List.mem_cons_self, writtenItems_eq fun y hy => ih y (List.mem_cons_of_mem x hy) (level + 1),
        Written.behind_whole]
      simp [render_items]
  | @object fs _ _ ih =>
    cases fs with
    | nil => rfl
    | cons f fs =>
      show (((Written.whole ('\x7b' :: l.break (level + 1))).append (writtenMember l (level + 1) f)).append
        (writtenMembers l (level + 1) fs)).append (.whole (l.break level ++ ['\x7d'])) = _
      rw [writtenMember_eq (ih f List.mem_cons_self _),
        writtenMembers_eq fun g hg => ih g (List.mem_cons_of_mem f hg) (level + 1)]
      simp [render_members]

/-! ### Words and numbers -/

/-- Whether a character can be in a word or a number. -/
def isWordChar (c : Char) : Bool := c.isAlphanum || c = '-' || c = '+' || c = '.'

/-- A text made of such characters. -/
def IsWord (cs : List Char) : Prop := cs ≠ [] ∧ ∀ c ∈ cs, isWordChar c = true

theorem isWordChar_of_isDigit {c : Char} (h : c.isDigit = true) : isWordChar c = true := by
  simp [isWordChar, Char.isAlphanum, h]

theorem isWordChar_toDigits {n : Nat} {c : Char} (h : c ∈ Nat.toDigits 10 n) : isWordChar c = true :=
  isWordChar_of_isDigit (Nat.isDigit_of_mem_toDigits (by decide) (by decide) h)

theorem isWord_null : IsWord "null".toList := ⟨by decide, forall_of_all (by decide)⟩

theorem isWord_true : IsWord "true".toList := ⟨by decide, forall_of_all (by decide)⟩

theorem isWord_false : IsWord "false".toList := ⟨by decide, forall_of_all (by decide)⟩

theorem isWord_int (n : Int) : IsWord (toString n).toList := by
  rw [Int.toString_eq_repr]
  cases n with
  | ofNat m =>
    have htext : (Int.repr (.ofNat m)).toList = Nat.toDigits 10 m := Nat.toList_repr
    rw [htext]
    exact ⟨Nat.toDigits_ne_nil, fun c hc => isWordChar_toDigits hc⟩
  | negSucc m =>
    have htext : (Int.repr (.negSucc m)).toList = '-' :: Nat.toDigits 10 (m + 1) := by
      show ("-" ++ Nat.repr (m + 1)).toList = _
      rw [String.toList_append, Nat.toList_repr]
      rfl
    rw [htext]
    refine ⟨List.cons_ne_nil _ _, fun c hc => ?_⟩
    rcases List.mem_cons.mp hc with rfl | hc
    · decide
    · exact isWordChar_toDigits hc

theorem isWordChar_shortest (b : Binary) : ∀ c ∈ b.shortest.digits, isWordChar c = true := by
  intro c h
  unfold Binary.shortest at h
  dsimp only at h
  split at h
  · rw [Binary.decimalOf, List.mem_reverse] at h
    exact isWordChar_toDigits (List.mem_reverse.mp ((List.dropWhile_suffix _).subset h))
  · cases h

theorem isWord_positional {d : Digits} (hd : ∀ c ∈ d.digits, isWordChar c = true) : IsWord d.positional := by
  have hzeros : ∀ n, ∀ c ∈ List.replicate n '0', isWordChar c = true := by
    intro n c hc
    rw [List.eq_of_mem_replicate hc]
    decide
  unfold Digits.positional
  split
  · refine ⟨List.cons_ne_nil _ _, fun c hc => ?_⟩
    simp only [List.mem_cons, List.mem_append] at hc
    rcases hc with rfl | rfl | hc | hc
    · decide
    · decide
    · exact hzeros _ c hc
    · exact hd c hc
  · refine ⟨by simp, fun c hc => ?_⟩
    simp only [List.mem_cons, List.mem_append] at hc
    rcases hc with (hc | hc) | rfl | hc
    · exact hd c (List.mem_of_mem_take hc)
    · exact hzeros _ c hc
    · decide
    · split at hc
      · obtain rfl := List.mem_singleton.mp hc
        decide
      · exact hd c (List.mem_of_mem_drop hc)

theorem isWord_scientific {pointAlways : Bool} {d : Digits} (hd : ∀ c ∈ d.digits, isWordChar c = true) :
    IsWord (d.scientific pointAlways) := by
  unfold Digits.scientific
  refine ⟨by simp, fun c hc => ?_⟩
  simp only [List.mem_cons, List.mem_append] at hc
  rcases hc with (hc | hc) | rfl | rfl | hc | hc
  · exact hd c (List.mem_of_mem_take hc)
  · split at hc
    · split at hc
      · simp only [List.mem_cons, List.not_mem_nil, or_false] at hc
        rcases hc with rfl | rfl <;> decide
      · cases hc
    · rcases List.mem_cons.mp hc with rfl | hc
      · decide
      · exact hd c (List.mem_of_mem_drop hc)
  · decide
  · split <;> decide
  · rw [List.eq_of_mem_replicate hc]
    decide
  · exact isWordChar_toDigits hc

theorem isWord_float (x : Float) : IsWord (floatText .json x).toList := by
  unfold floatText
  split
  · split
    · exact ⟨by decide, forall_of_all (by decide)⟩
    · split <;> exact ⟨by decide, forall_of_all (by decide)⟩
  · rename_i b _
    split
    · split <;> exact ⟨by decide, forall_of_all (by decide)⟩
    · have hbody : IsWord (b.shortest.text .json) := by
        unfold Digits.text
        split
        · exact isWord_positional (isWordChar_shortest b)
        · exact isWord_scientific (isWordChar_shortest b)
      show IsWord (String.ofList (if b.negative then '-' :: b.shortest.text .json else b.shortest.text .json)).toList
      rw [String.toList_ofList]
      split
      · refine ⟨List.cons_ne_nil _ _, fun c hc => ?_⟩
        rcases List.mem_cons.mp hc with rfl | hc
        · decide
        · exact hbody.2 c hc
      · exact hbody

/-! ### First characters -/

/-- Whether a value can start with a character. -/
def startsValue (c : Char) : Bool := c = '"' || c = '[' || c = '\x7b' || isWordChar c

theorem startsValue_ne {c d : Char} (hc : startsValue c = true) (hd : startsValue d = false) : c ≠ d := by
  rintro rfl
  rw [hc] at hd
  cases hd

theorem startsValue_not_space {c : Char} (h : startsValue c = true) : isSpace c = false := by
  have htab : c ≠ '\t' := startsValue_ne h (by decide)
  have hline : c ≠ '\n' := startsValue_ne h (by decide)
  have hreturn : c ≠ '\r' := startsValue_ne h (by decide)
  have hblank : c ≠ ' ' := startsValue_ne h (by decide)
  simp [isSpace, htab, hline, hreturn, hblank]

theorem IsWord.head {cs : List Char} (h : IsWord cs) : ∃ c rest, cs = c :: rest ∧ startsValue c = true := by
  obtain ⟨c, rest, rfl⟩ := List.exists_cons_of_ne_nil h.1
  refine ⟨c, rest, rfl, ?_⟩
  simp [startsValue, h.2 c List.mem_cons_self]

theorem render_head {v : Value} (h : Expressible P v) (level : Nat) :
    ∃ c rest, render l level v = c :: rest ∧ startsValue c = true := by
  cases h with
  | null => exact ⟨_, _, rfl, by decide⟩
  | bool b => cases b <;> exact ⟨_, _, rfl, by decide⟩
  | @int n _ => exact (isWord_int n).head
  | @float x _ => exact (isWord_float x).head
  | string s => exact ⟨_, _, rfl, by decide⟩
  | @array xs _ => cases xs <;> exact ⟨_, _, rfl, by decide⟩
  | @object fs _ _ => cases fs <;> exact ⟨_, _, rfl, by decide⟩

/-! ### All characters -/

/-- Whether a character is a printable one of ASCII. -/
def isPlain (c : Char) : Bool := ' ' ≤ c && c ≤ '~'

theorem isPlain_iff {c : Char} : isPlain c = true ↔ 32 ≤ c.toNat ∧ c.toNat ≤ 126 := by
  simp only [isPlain, Bool.and_eq_true, decide_eq_true_eq]
  rfl

theorem isPlain_of_isWordChar {c : Char} (h : isWordChar c = true) : isPlain c = true := by
  simp only [isWordChar, Bool.or_eq_true, decide_eq_true_eq] at h
  rcases h with ((h | rfl) | rfl) | rfl
  · have hranges : (decide (65 ≤ c.val ∧ c.val ≤ 90) || 97 ≤ c.val && c.val ≤ 122 ||
        48 ≤ c.val && c.val ≤ 57) = true := h
    simp only [Bool.or_eq_true, Bool.and_eq_true, decide_eq_true_eq, UInt32.le_iff_toNat_le,
      UInt32.reduceToNat] at hranges
    have hval : c.toNat = c.val.toNat := rfl
    rw [isPlain_iff]
    omega
  all_goals decide

theorem isPlain_codeEscape {n : Nat} (hn : n < 0x10000) : ∀ c ∈ codeEscape n, isPlain c = true := by
  have hdigit : ∀ d < 16, isPlain (Nat.digitChar d) = true := by decide
  intro c hc
  rw [codeEscape, hex_four hn] at hc
  simp only [List.mem_cons, List.not_mem_nil, or_false] at hc
  rcases hc with rfl | rfl | rfl | rfl | rfl | rfl
  · decide
  · decide
  all_goals exact hdigit _ (by omega)

theorem Escaped.isPlain {c : Char} {cs : List Char} (h : Escaped c cs) : ∀ d ∈ cs, Json.isPlain d = true := by
  have hplain : ∀ d : Char, ' ' ≤ d → d ≤ '~' → Json.isPlain d = true := by
    intro d hfirst hlast
    simp [Json.isPlain, hfirst, hlast]
  intro d hd
  cases h with
  | letter he =>
    obtain ⟨-, hfirst, hlast, -⟩ := escapeChar?_eq_some he
    rcases List.mem_pair.mp hd with rfl | rfl
    · decide
    · exact hplain _ hfirst hlast
  | plain _ _ hfirst hlast =>
    rw [List.mem_singleton.mp hd]
    exact hplain c hfirst hlast
  | unit hc => exact isPlain_codeEscape hc d hd
  | pair hhigh hlow _ =>
    rcases List.mem_append.mp hd with hd | hd
    · exact isPlain_codeEscape (lt_of_isHighHalf hhigh) d hd
    · exact isPlain_codeEscape (lt_of_isLowHalf hlow) d hd

theorem isPlain_stringText (s : String) : ∀ c ∈ stringText s, isPlain c = true := by
  intro c hc
  rw [stringText, List.mem_cons, List.mem_append, List.mem_flatMap, List.mem_singleton] at hc
  rcases hc with rfl | ⟨d, -, hd⟩ | rfl
  · decide
  · exact (escaped_escapedChar d).isPlain c hd
  · decide

section Characters

variable {p : Char → Prop} (hplain : ∀ c, isPlain c = true → p c)
include hplain

theorem forall_mem_renderMember {level : Nat} {f : String × Value} (h : ∀ c ∈ render l level f.2, p c) :
    ∀ c ∈ renderMember l level f, p c := by
  have hcolon : ∀ c ∈ [':', ' '], isPlain c = true := forall_of_all (by decide)
  obtain ⟨k, x⟩ := f
  intro c hc
  simp only [renderMember_mk, List.mem_append] at hc
  rcases hc with (hc | hc) | hc
  · exact hplain c (isPlain_stringText _ c hc)
  · exact hplain c (hcolon c hc)
  · exact h c hc

variable (hbreak : ∀ level, ∀ c ∈ l.break level, p c)
include hbreak

theorem forall_mem_separator (level : Nat) : ∀ c ∈ l.separator level, p c := by
  intro c hc
  cases l with
  | none =>
    have hall : ∀ d ∈ [',', ' '], isPlain d = true := forall_of_all (by decide)
    exact hplain c (hall c hc)
  | some indent =>
    rcases List.mem_cons.mp hc with rfl | hc
    · exact hplain _ (by decide)
    · exact hbreak level c hc

theorem forall_mem_renderItems {level : Nat} {xs : List Value} (h : ∀ x ∈ xs, ∀ c ∈ render l level x, p c) :
    ∀ c ∈ renderItems l level xs, p c := by
  induction xs with
  | nil => exact List.forall_mem_nil _
  | cons x xs ih =>
    intro c hc
    simp only [renderItems_cons, List.mem_append] at hc
    rcases hc with (hc | hc) | hc
    · exact forall_mem_separator hplain hbreak level c hc
    · exact h x List.mem_cons_self c hc
    · exact ih (fun y hy => h y (List.mem_cons_of_mem x hy)) c hc

theorem forall_mem_renderMembers {level : Nat} {fs : List (String × Value)}
    (h : ∀ f ∈ fs, ∀ c ∈ render l level f.2, p c) : ∀ c ∈ renderMembers l level fs, p c := by
  induction fs with
  | nil => exact List.forall_mem_nil _
  | cons f fs ih =>
    intro c hc
    simp only [renderMembers_cons, List.mem_append] at hc
    rcases hc with (hc | hc) | hc
    · exact forall_mem_separator hplain hbreak level c hc
    · exact forall_mem_renderMember hplain (h f List.mem_cons_self) c hc
    · exact ih (fun g hg => h g (List.mem_cons_of_mem f hg)) c hc

/-- **What holds of the printable characters of ASCII and of the breaks of a layout holds of a text.** -/
theorem forall_mem_render {v : Value} (h : Expressible P v) (level : Nat) : ∀ c ∈ render l level v, p c := by
  have hfixed : ∀ cs : List Char, cs.all isPlain = true → ∀ c ∈ cs, p c := fun cs hcs c hc =>
    hplain c (List.all_eq_true.mp hcs c hc)
  have hword : ∀ {cs : List Char}, IsWord cs → ∀ c ∈ cs, p c := fun hcs c hc =>
    hplain c (isPlain_of_isWordChar (hcs.2 c hc))
  induction h generalizing level with
  | null => exact hfixed "null".toList (by decide)
  | bool b =>
    cases b with
    | false => exact hfixed "false".toList (by decide)
    | true => exact hfixed "true".toList (by decide)
  | @int n _ => exact hword (isWord_int n)
  | @float x _ => exact hword (isWord_float x)
  | string s => exact fun c hc => hplain c (isPlain_stringText s c hc)
  | @array xs _ ih =>
    cases xs with
    | nil => exact hfixed ['[', ']'] (by decide)
    | cons x xs =>
      intro c hc
      simp only [render_items, List.mem_cons, List.mem_append, List.not_mem_nil, or_false] at hc
      rcases hc with rfl | (((hc | hc) | hc) | hc) | rfl
      · exact hplain _ (by decide)
      · exact hbreak _ c hc
      · exact ih x List.mem_cons_self _ c hc
      · exact forall_mem_renderItems hplain hbreak (fun y hy => ih y (List.mem_cons_of_mem x hy) _) c hc
      · exact hbreak _ c hc
      · exact hplain _ (by decide)
  | @object fs _ _ ih =>
    cases fs with
    | nil => exact hfixed ['\x7b', '\x7d'] (by decide)
    | cons f fs =>
      intro c hc
      simp only [render_members, List.mem_cons, List.mem_append, List.not_mem_nil, or_false] at hc
      rcases hc with rfl | (((hc | hc) | hc) | hc) | rfl
      · exact hplain _ (by decide)
      · exact hbreak _ c hc
      · exact forall_mem_renderMember hplain (ih f List.mem_cons_self _) c hc
      · exact forall_mem_renderMembers hplain hbreak (fun g hg => ih g (List.mem_cons_of_mem f hg) _) c hc
      · exact hbreak _ c hc
      · exact hplain _ (by decide)

end Characters

/-- A character that is not printable stands in a text only where the layout breaks it. -/
theorem not_mem_render {c : Char} (hc : isPlain c = false) (hbreak : ∀ level, c ∉ l.break level) {v : Value}
    (h : Expressible P v) (level : Nat) : c ∉ render l level v := by
  have hplain : ∀ d, isPlain d = true → d ≠ c := by
    rintro d hd rfl
    rw [hc] at hd
    cases hd
  have hbroken : ∀ level, ∀ d ∈ l.break level, d ≠ c := by
    rintro level d hd rfl
    exact hbreak level hd
  exact fun hmem => forall_mem_render hplain hbroken h level c hmem rfl

end ComplianceHistory.Json
