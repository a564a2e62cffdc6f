import Mathlib.Data.List.Infix
import Mathlib.Data.List.TakeWhile
import ComplianceHistory.Json.Reader
import ComplianceHistory.Json.Writer
import ComplianceHistory.Proofs.Lists

/-!
# Words and numbers of JSON texts

What stands behind a value is a comma, a closing bracket or brace, or the end of a line.  None of them goes on with a
word or a number, so what is read of a text is read in front of them as well (`scalar_append`), and it is enough to
look at words and numbers that stand alone.
-/

namespace ComplianceHistory.Json

open Decimal

/-! ### The text behind a value -/

/-- Whether a character ends a value that is not in quotes, brackets or braces. -/
def endsValue (c : Char) : Bool := c = ',' || c = ']' || c = '\x7d' || c = '\n'

/-- A text that may stand behind a value. -/
def Ends (rest : List Char) : Prop := ∀ c, rest.head? = some c → endsValue c = true

theorem Ends.nil : Ends [] := nofun

theorem Ends.cons {c : Char} (h : endsValue c = true) (rest : List Char) : Ends (c :: rest) := by
  intro d hd
  cases hd
  exact h

/-- What ends a value is in no class without the four characters. -/
theorem Ends.any_eq_false {rest : List Char} (h : Ends rest) {p : Char → Bool} (hcomma : p ',' = false)
    (hbracket : p ']' = false) (hbrace : p '\x7d' = false) (hline : p '\n' = false) : rest.head?.any p = false := by
  cases rest with
  | nil => rfl
  | cons c rest =>
    have hc := h c rfl
    simp only [endsValue, Bool.or_eq_true, decide_eq_true_eq] at hc
    rcases hc with ((rfl | rfl) | rfl) | rfl <;> assumption

theorem Ends.ne {c d : Char} {rest : List Char} (h : Ends (c :: rest)) (hd : endsValue d = false) : c ≠ d := by
  rintro rfl
  rw [h c rfl] at hd
  cases hd

/-- What may stand behind a text does not make it start with a character that ends no value. -/
theorem Ends.append_ne {d : Char} {cs rest : List Char} (h : Ends rest) (hd : endsValue d = false)
    (hcs : ¬∃ r, cs = d :: r) : ∀ r, cs ++ rest ≠ d :: r := by
  intro r hr
  cases cs with
  | nil =>
    have hends : endsValue d = true := h d (by rw [← List.nil_append rest, hr]; rfl)
    rw [hends] at hd
    cases hd
  | cons c cs =>
    obtain ⟨rfl, -⟩ := List.cons.inj hr
    exact hcs ⟨cs, rfl⟩

/-- What stands behind the first stretch of a class of characters does not matter to it. -/
theorem span_append {p : Char → Bool} {rest : List Char} (hrest : rest.head?.any p = false) (cs : List Char) :
    (cs ++ rest).span p = ((cs.span p).1, (cs.span p).2 ++ rest) := by
  simp only [List.span_eq_takeWhile_dropWhile]
  induction cs with
  | nil =>
    cases rest with
    | nil => rfl
    | cons c rest =>
      rw [List.head?_cons, Option.any_some] at hrest
      simp [hrest]
  | cons c cs ih =>
    by_cases hc : p c = true
    · simp_all
    · simp [hc]

/-! ### Parts of words and numbers -/

/-- A word has more than one character, and none of them ends a value or is a digit. -/
theorem words_shape : ∀ w ∈ words, 2 ≤ w.1.toList.length ∧
    ∀ c ∈ w.1.toList, endsValue c = false ∧ c.isDigit = false := by
  intro w hw
  simp only [words, List.mem_cons, List.not_mem_nil, or_false] at hw
  rcases hw with rfl | rfl | rfl | rfl | rfl | rfl <;> exact ⟨by decide, forall_of_all (by decide)⟩

section Append

variable {rest : List Char} (h : Ends rest)
include h

theorem span_isDigit_append (cs : List Char) :
    (cs ++ rest).span Char.isDigit = ((cs.span Char.isDigit).1, (cs.span Char.isDigit).2 ++ rest) :=
  span_append (h.any_eq_false (by decide) (by decide) (by decide) (by decide)) cs

theorem takeSign_append (cs : List Char) :
    takeSign (cs ++ rest) = ((takeSign cs).1, (takeSign cs).2 ++ rest) := by
  cases cs with
  | nil =>
    cases rest with
    | nil => rfl
    | cons c rest =>
      have hminus : c ≠ '-' := h.ne (by decide)
      have hplus : c ≠ '+' := h.ne (by decide)
      simp [takeSign, hminus, hplus]
  | cons c cs =>
    unfold takeSign
    split <;> split <;> simp_all

theorem fraction?_append (cs : List Char) :
    fraction? (cs ++ rest) = (fraction? cs).map fun r => (r.1, r.2 ++ rest) := by
  cases cs with
  | nil =>
    cases rest with
    | nil => rfl
    | cons c rest =>
      have hpoint : c ≠ '.' := h.ne (by decide)
      simp [fraction?, hpoint]
  | cons c cs =>
    by_cases hc : c = '.'
    · subst hc
      rw [List.cons_append, fraction?, fraction?, span_isDigit_append h]
      rcases cs.span Char.isDigit with ⟨_ | ⟨d, ds⟩, r⟩ <;> rfl
    · simp [fraction?, hc]

theorem exponent?_append (cs : List Char) :
    exponent? (cs ++ rest) = (exponent? cs).map fun r => (r.1, r.2 ++ rest) := by
  cases cs with
  | nil =>
    cases rest with
    | nil => rfl
    | cons c rest =>
      have hsmall : c ≠ 'e' := h.ne (by decide)
      have hcapital : c ≠ 'E' := h.ne (by decide)
      simp [exponent?, hsmall, hcapital]
  | cons c cs =>
    rw [List.cons_append, exponent?, exponent?]
    by_cases hc : c = 'e' ∨ c = 'E'
    · rw [if_pos hc, if_pos hc, takeSign_append h]
      simp only [span_isDigit_append h]
      rcases (takeSign cs).2.span Char.isDigit with ⟨_ | ⟨d, ds⟩, r⟩ <;> rfl
    · rw [if_neg hc, if_neg hc]
      rfl

theorem whole?_append (cs : List Char) :
    whole? (cs ++ rest) = (whole? cs).map fun r => (r.1, r.2 ++ rest) := by
  by_cases hzero : ∃ r, cs = '0' :: r
  · obtain ⟨r, rfl⟩ := hzero
    rfl
  · rw [whole?.eq_2 (cs ++ rest) (h.append_ne (by decide) hzero), whole?.eq_2 cs fun r hr => hzero ⟨r, hr⟩,
      span_isDigit_append h]
    rcases cs.span Char.isDigit with ⟨_ | ⟨d, ds⟩, r⟩ <;> rfl

theorem numberOf_append (negative : Bool) (ds cs : List Char) : numberOf negative ds (cs ++ rest) =
    (numberOf negative ds cs).map fun r => (r.1, r.2 ++ rest) := by
  unfold numberOf
  rw [fraction?_append h, exponent?_append h]
  cases hf : fraction? cs with
  | some r =>
    obtain ⟨fs, r⟩ := r
    simp only [Option.map_some, exponent?_append h]
    cases exponent? r <;> rfl
  | none =>
    cases he : exponent? cs with
    | some r => rfl
    | none =>
      simp only [Option.map_none]
      split <;> rfl

theorem number?_append (negative : Bool) (cs : List Char) : number? negative (cs ++ rest) =
    (number? negative cs).map fun outcome => outcome.map fun r => (r.1, r.2 ++ rest) := by
  unfold number?
  rw [whole?_append h]
  cases whole? cs with
  | none => rfl
  | some r => exact congrArg some (numberOf_append h negative r.1 r.2)

/-! ### Words -/

theorem afterWord?_append {word : String} (hword : ∀ c ∈ word.toList, endsValue c = false) (cs : List Char) :
    afterWord? word (cs ++ rest) = (afterWord? word cs).map (· ++ rest) := by
  have hstarts : word.toList <+: cs ++ rest ↔ word.toList <+: cs := by
    refine ⟨fun hp => ?_, fun hp => hp.trans (List.prefix_append cs rest)⟩
    rcases List.prefix_or_prefix_of_prefix hp (List.prefix_append cs rest) with hp' | ⟨behind, hbehind⟩
    · exact hp'
    · -- the word would reach into the rest, which starts with none of its characters
      cases behind with
      | nil => exact ⟨[], by rw [List.append_nil, ← hbehind, List.append_nil]⟩
      | cons c behind =>
        obtain ⟨more, hmore⟩ := hp
        rw [← hbehind, List.append_assoc] at hmore
        have hc : endsValue c = true := h c (by rw [← List.append_cancel_left hmore]; rfl)
        rw [hword c (by rw [← hbehind]; simp)] at hc
        cases hc
  unfold afterWord?
  by_cases hp : word.toList <+: cs
  · rw [if_pos (List.isPrefixOf_iff_prefix.mpr (hstarts.mpr hp)), if_pos (List.isPrefixOf_iff_prefix.mpr hp)]
    have hlength : word.length ≤ cs.length := by
      rw [← String.length_toList]
      exact hp.length_le
    rw [List.drop_append_of_le_length hlength]
    rfl
  · rw [if_neg (fun hn => hp (hstarts.mp (List.isPrefixOf_iff_prefix.mp hn))),
      if_neg (fun hn => hp (List.isPrefixOf_iff_prefix.mp hn))]
    rfl

theorem word?_append (cs : List Char) : word? (cs ++ rest) = (word? cs).map fun r => (r.1, r.2 ++ rest) := by
  have hwords : ∀ w ∈ words, ∀ c ∈ w.1.toList, endsValue c = false := fun w hw c hc =>
    ((words_shape w hw).2 c hc).1
  unfold word?
  generalize words = ws at hwords ⊢
  induction ws with
  | nil => rfl
  | cons w ws ih =>
    rw [List.findSome?_cons, List.findSome?_cons, afterWord?_append h (hwords w List.mem_cons_self),
      ih fun w' hw' => hwords w' (List.mem_cons_of_mem w hw')]
    cases afterWord? w.1 cs <;> rfl

theorem signed?_append (cs : List Char) : signed? (cs ++ rest) =
    (signed? cs).map fun outcome => outcome.map fun r => (r.1, r.2 ++ rest) := by
  by_cases hminus : ∃ r, cs = '-' :: r
  · obtain ⟨r, rfl⟩ := hminus
    exact number?_append h true r
  · rw [signed?.eq_2 (cs ++ rest) (h.append_ne (by decide) hminus), signed?.eq_2 cs fun r hr => hminus ⟨r, hr⟩]
    exact number?_append h false cs

/-- **What is read as a word or a number is read in front of what may stand behind it.** -/
theorem scalar_append {cs : List Char} {v : Value} {r : List Char} (hread : scalar cs = .ok (v, r)) :
    scalar (cs ++ rest) = .ok (v, r ++ rest) := by
  unfold scalar at hread ⊢
  rw [word?_append h, signed?_append h]
  cases hw : word? cs with
  | some r' =>
    rw [hw] at hread
    cases hread
    rfl
  | none =>
    rw [hw] at hread
    cases hs : signed? cs with
    | none => rw [hs] at hread; cases hread
    | some outcome =>
      rw [hs] at hread
      obtain rfl : outcome = .ok (v, r) := hread
      rfl

end Append

/-! ### Whole numbers -/

/-- The digits of a number that is not zero do not start with a zero. -/
theorem toDigits_ne_zero_cons {m : Nat} (hm : 0 < m) (rest : List Char) : Nat.toDigits 10 m ≠ '0' :: rest := by
  induction m using Nat.strongRecOn generalizing rest with
  | ind m ih =>
    intro hzero
    by_cases hlt : m < 10
    · have hdigit : ∀ d < 10, 0 < d → Nat.digitChar d ≠ '0' := by decide
      rw [Nat.toDigits_of_lt_base hlt] at hzero
      exact hdigit m hlt hm (List.cons.inj hzero).1
    · rw [Nat.toDigits_of_base_le (by decide) (by omega)] at hzero
      cases hfirst : Nat.toDigits 10 (m / 10) with
      | nil => exact Nat.toDigits_ne_nil hfirst
      | cons c cs =>
        rw [hfirst] at hzero
        rw [(List.cons.inj hzero).1] at hfirst
        exact ih (m / 10) (by omega) (by omega) cs hfirst

/-- Digits are read to their end, if a zero is not the first of them. -/
theorem whole?_digits {c : Char} {ds : List Char} (hc : c ≠ '0') (hds : ∀ d ∈ c :: ds, d.isDigit = true) :
    whole? (c :: ds) = some (c :: ds, []) := by
  have hspan : (c :: ds).span Char.isDigit = (c :: ds, []) := by
    rw [List.span_eq_takeWhile_dropWhile, List.takeWhile_eq_self_iff.mpr hds, List.dropWhile_eq_nil_iff.mpr hds]
  rw [whole?.eq_2, hspan]
  rintro rest hzero
  exact hc (List.cons.inj hzero).1

theorem whole?_toDigits (m : Nat) : whole? (Nat.toDigits 10 m) = some (Nat.toDigits 10 m, []) := by
  rcases Nat.eq_zero_or_pos m with rfl | hm
  · rfl
  · have hall : ∀ c ∈ Nat.toDigits 10 m, c.isDigit = true := fun c hc =>
      Nat.isDigit_of_mem_toDigits (by decide) (by decide) hc
    have hzero := toDigits_ne_zero_cons hm
    cases hdigits : Nat.toDigits 10 m with
    | nil => exact absurd hdigits Nat.toDigits_ne_nil
    | cons c cs =>
      rw [hdigits] at hall hzero
      exact whole?_digits (fun hc => hzero cs (hc ▸ rfl)) hall

theorem number?_toDigits (negative : Bool) {m : Nat} (hm : (Nat.toDigits 10 m).length ≤ maxDigits) :
    number? negative (Nat.toDigits 10 m) = some (.ok (.int (if negative then -m else m), [])) := by
  have hread : numberOf negative (Nat.toDigits 10 m) [] =
      if (Nat.toDigits 10 m).length > maxDigits then .error (.tooManyDigits (Nat.toDigits 10 m).length)
      else .ok (.int (if negative then -natOf (Nat.toDigits 10 m) else natOf (Nat.toDigits 10 m)), []) := rfl
  rw [number?, whole?_toDigits, Option.map_some]
  show some (numberOf negative (Nat.toDigits 10 m) []) = _
  rw [hread, if_neg (Nat.not_lt.mpr hm), natOf_toDigits]

/-- No word starts as a number does, with a digit or with a sign and a digit. -/
theorem word?_number {c : Char} {cs : List Char} (hc : c.isDigit = true) (hmem : c ∈ cs.take 2) :
    word? cs = none := by
  refine List.findSome?_eq_none_iff.mpr fun w hw => ?_
  obtain ⟨hlength, hletters⟩ := words_shape w hw
  rw [Option.map_eq_none_iff, afterWord?, if_neg]
  intro hstarts
  have hword : w.1.toList = cs.take w.1.toList.length :=
    List.prefix_iff_eq_take.mp (List.isPrefixOf_iff_prefix.mp hstarts)
  have hletter : c ∈ w.1.toList := by
    rw [hword]
    exact (List.take_prefix_take_left hlength).subset hmem
  rw [(hletters c hletter).2] at hc
  cases hc

/-- Without a sign, a number starts with its digits. -/
theorem signed?_digit {c : Char} (hc : c.isDigit = true) (cs : List Char) :
    signed? (c :: cs) = number? false (c :: cs) := by
  refine signed?.eq_2 _ fun r hr => ?_
  rw [(List.cons.inj hr).1] at hc
  cases hc

/-- **Too many digits stop the reading**, whatever may stand behind them. -/
theorem scalar_tooManyDigits {c : Char} {ds rest : List Char} (hc : c ≠ '0') (hds : ∀ d ∈ c :: ds, d.isDigit = true)
    (hmax : maxDigits < (c :: ds).length) (hrest : Ends rest) :
    scalar (c :: ds ++ rest) = .error (.tooManyDigits (c :: ds).length) := by
  have hdigit : c.isDigit = true := hds c List.mem_cons_self
  have hread : numberOf false (c :: ds) [] =
      if (c :: ds).length > maxDigits then .error (.tooManyDigits (c :: ds).length)
      else .ok (.int (natOf (c :: ds)), []) := rfl
  have hnumber : number? false (c :: ds) = some (.error (.tooManyDigits (c :: ds).length)) := by
    rw [number?, whole?_digits hc hds, Option.map_some]
    exact congrArg some (hread.trans (if_pos hmax))
  have hword : word? (c :: ds ++ rest) = none := word?_number hdigit List.mem_cons_self
  have hsigned : signed? (c :: ds ++ rest) = some (.error (.tooManyDigits (c :: ds).length)) := by
    rw [List.cons_append, signed?_digit hdigit, ← List.cons_append, number?_append hrest, hnumber]
    rfl
  rw [scalar, hword, hsigned]
  rfl

/-- A whole number is read back, if it has not too many digits. -/
theorem scalar_int {n : Int} (hn : (Nat.toDigits 10 n.natAbs).length ≤ maxDigits) :
    scalar (toString n).toList = .ok (.int n, []) := by
  have hfirst : ∀ m, ∃ c cs, Nat.toDigits 10 m = c :: cs ∧ c.isDigit = true := by
    intro m
    obtain ⟨c, cs, hdigits⟩ := List.exists_cons_of_ne_nil (Nat.toDigits_ne_nil (n := m) (b := 10))
    exact ⟨c, cs, hdigits, Nat.isDigit_of_mem_toDigits (by decide) (by decide) (hdigits ▸ List.mem_cons_self)⟩
  rw [Int.toString_eq_repr]
  cases n with
  | ofNat m =>
    obtain ⟨c, cs, hdigits, hc⟩ := hfirst m
    have htext : (Int.repr (.ofNat m)).toList = Nat.toDigits 10 m := Nat.toList_repr
    have hword : word? (Nat.toDigits 10 m) = none := word?_number hc (by rw [hdigits]; exact List.mem_cons_self)
    have hunsigned : signed? (Nat.toDigits 10 m) = number? false (Nat.toDigits 10 m) := by
      rw [hdigits]
      exact signed?_digit hc cs
    rw [htext, scalar, hword, hunsigned, number?_toDigits (m := m) false hn]
    rfl
  | negSucc m =>
    obtain ⟨c, cs, hdigits, hc⟩ := hfirst (m + 1)
    have htext : (Int.repr (.negSucc m)).toList = '-' :: Nat.toDigits 10 (m + 1) := by
      show ("-" ++ Nat.repr (m + 1)).toList = _
      rw [String.toList_append, Nat.toList_repr]
      rfl
    have hword : word? ('-' :: Nat.toDigits 10 (m + 1)) = none :=
      word?_number hc (by rw [hdigits]; exact List.mem_cons_of_mem _ List.mem_cons_self)
    have hsigned : signed? ('-' :: Nat.toDigits 10 (m + 1)) = number? true (Nat.toDigits 10 (m + 1)) := rfl
    rw [htext, scalar, hword, hsigned, number?_toDigits (m := m + 1) true hn]
    rfl

end ComplianceHistory.Json
