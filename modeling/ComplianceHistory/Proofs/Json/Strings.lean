import ComplianceHistory.Json.Reader
import ComplianceHistory.Json.Writer

/-!
# Strings of JSON texts

Every character of a string is escaped by itself in one of four ways (`Escaped`): a character beyond the first plane
as the two halves of its pair, which are never characters of their own.  It is read back whatever follows it as long
as the string is not at its end (`Escaped.stringBody_append`), and so is a string (`stringText_append`).
-/

namespace ComplianceHistory.Json

open Text

/-! ### Hexadecimal digits -/

/-- The last digit of a number stands behind the digits of the others. -/
theorem hex_succ {width m d : Nat} (hwidth : 0 < width) (hd : d < 16) :
    hex (width + 1) (16 * m + d) = hex width m ++ [Nat.digitChar d] := by
  unfold hex
  rcases Nat.eq_zero_or_pos m with rfl | hm
  · obtain ⟨w, rfl⟩ := Nat.exists_eq_add_of_lt hwidth
    rw [Nat.mul_zero, Nat.zero_add, Nat.toDigits_of_lt_base hd, Nat.toDigits_zero]
    simp [List.replicate_succ']
  · rw [← Nat.toDigits_append_toDigits (by decide) hm hd, Nat.toDigits_of_lt_base hd]
    simp [List.append_assoc]

/-- Four digits of a code unit. -/
theorem hex_four {n : Nat} (h : n < 0x10000) : hex 4 n =
    [Nat.digitChar (n / 4096), Nat.digitChar (n / 256 % 16), Nat.digitChar (n / 16 % 16), Nat.digitChar (n % 16)] := by
  have hsplit : n = 16 * (16 * (16 * (n / 4096) + n / 256 % 16) + n / 16 % 16) + n % 16 := by omega
  have hone : hex 1 (n / 4096) = [Nat.digitChar (n / 4096)] := by
    rw [hex, Nat.toDigits_of_lt_base (by omega)]
    rfl
  have hdigits : hex 4 (16 * (16 * (16 * (n / 4096) + n / 256 % 16) + n / 16 % 16) + n % 16) =
      [Nat.digitChar (n / 4096), Nat.digitChar (n / 256 % 16), Nat.digitChar (n / 16 % 16),
        Nat.digitChar (n % 16)] := by
    rw [hex_succ (by decide) (Nat.mod_lt _ (by decide)), hex_succ (by decide) (Nat.mod_lt _ (by decide)),
      hex_succ (by decide) (Nat.mod_lt _ (by decide)), hone]
    rfl
  rwa [← hsplit] at hdigits

theorem hexValue?_digitChar {d : Nat} (h : d < 16) : hexValue? (Nat.digitChar d) = some d := by
  have hall : ∀ d < 16, hexValue? (Nat.digitChar d) = some d := by decide
  exact hall d h

/-- The digits of a code unit are read back. -/
theorem exists_hex_four {n : Nat} (h : n < 0x10000) :
    ∃ a b c d, hex 4 n = [a, b, c, d] ∧ codeUnit? a b c d = some n := by
  refine ⟨_, _, _, _, hex_four h, ?_⟩
  rw [codeUnit?, hexValue?_digitChar (by omega), hexValue?_digitChar (Nat.mod_lt _ (by decide)),
    hexValue?_digitChar (Nat.mod_lt _ (by decide)), hexValue?_digitChar (Nat.mod_lt _ (by decide))]
  simp only [Option.bind_eq_bind, Option.bind_some, Option.pure_def, Option.some.injEq]
  omega

/-! ### How characters are escaped -/

theorem lt_of_isHighHalf {n : Nat} (h : isHighHalf n = true) : n < 0x10000 := by
  simp only [isHighHalf, Bool.and_eq_true, decide_eq_true_eq] at h
  omega

theorem lt_of_isLowHalf {n : Nat} (h : isLowHalf n = true) : n < 0x10000 := by
  simp only [isLowHalf, Bool.and_eq_true, decide_eq_true_eq] at h
  omega

/-- No character is a half of a pair. -/
theorem not_half (c : Char) : isHighHalf c.toNat = false ∧ isLowHalf c.toNat = false := by
  have hvalid : c.toNat < 0xD800 ∨ 0xDFFF < c.toNat ∧ c.toNat < 0x110000 := c.valid
  simp only [isHighHalf, isLowHalf, Bool.and_eq_false_iff, decide_eq_false_iff_not]
  omega

/-- A letter behind a backslash is a printable character other than the one for code units, and stands for a character
of ASCII. -/
theorem escapeChar?_eq_some {e c : Char} (h : escapeChar? e = some c) : e ≠ 'u' ∧ ' ' ≤ e ∧ e ≤ '~' ∧ c ≤ '~' := by
  unfold escapeChar? at h
  split at h <;> cases h
  all_goals decide

/-- The ways a character stands in a JSON string. -/
inductive Escaped (c : Char) : List Char → Prop where
  | letter {e : Char} (he : escapeChar? e = some c) : Escaped c ['\\', e]
  | plain (hquote : c ≠ '"') (hbackslash : c ≠ '\\') (hfirst : ' ' ≤ c) (hlast : c ≤ '~') : Escaped c [c]
  | unit (hc : c.toNat < 0x10000) : Escaped c (codeEscape c.toNat)
  | pair {high low : Nat} (hhigh : isHighHalf high = true) (hlow : isLowHalf low = true)
    (hchar : charOfPair high low = c) : Escaped c (codeEscape high ++ codeEscape low)

/-- A character beyond the first plane stands for its pair. -/
theorem escaped_pair {c : Char} (h : 0x10000 ≤ c.toNat) : Escaped c
    (codeEscape (0xD800 + (c.toNat - 0x10000) / 0x400) ++ codeEscape (0xDC00 + (c.toNat - 0x10000) % 0x400)) := by
  have hlt : c.toNat < 0x110000 := by
    have hvalid : c.toNat < 0xD800 ∨ 0xDFFF < c.toNat ∧ c.toNat < 0x110000 := c.valid
    omega
  refine .pair ?_ ?_ ?_
  · simp only [isHighHalf, Bool.and_eq_true, decide_eq_true_eq]
    omega
  · simp only [isLowHalf, Bool.and_eq_true, decide_eq_true_eq]
    omega
  · have hchar : 0x10000 + (0xD800 + (c.toNat - 0x10000) / 0x400 - 0xD800) * 0x400 +
        (0xDC00 + (c.toNat - 0x10000) % 0x400 - 0xDC00) = c.toNat := by omega
    rw [charOfPair, hchar, Char.ofNat_toNat]

theorem escaped_escapedChar (c : Char) : Escaped c (escapedChar c) := by
  unfold escapedChar
  split
  · rename_i h
    rcases h with rfl | rfl <;> exact .letter rfl
  rename_i hquoted
  rw [not_or] at hquoted
  split
  · subst c; exact .letter rfl
  split
  · subst c; exact .letter rfl
  split
  · subst c; exact .letter rfl
  split
  · subst c; exact .letter rfl
  split
  · subst c; exact .letter rfl
  split
  · rename_i h
    exact .plain hquoted.1 hquoted.2 h.1 h.2
  split
  · rename_i h
    exact .unit h
  · rename_i h
    exact escaped_pair (Nat.not_lt.mp h)

/-! ### Single characters -/

section Characters

variable {opening rest : List Char}

/-- A character that stands for itself. -/
theorem stringBody_plain {c : Char} (hquote : c ≠ '"') (hbackslash : c ≠ '\\') (hcontrol : ¬c.toNat < 0x20) :
    stringBody opening (c :: rest) = prepend c (stringBody opening rest) := by
  rw [stringBody, if_neg hcontrol]
  · exact hquote
  · exact fun h _ => hbackslash h
  · exact fun _ _ _ _ _ h _ => hbackslash h
  · exact fun _ _ h _ => hbackslash h

/-- A letter behind a backslash. -/
theorem stringBody_escape {c e : Char} (hunit : c ≠ 'u') (he : escapeChar? c = some e) :
    stringBody opening ('\\' :: c :: rest) = prepend e (stringBody opening rest) := by
  rw [stringBody, if_neg hunit, he]
  exact fun _ _ _ _ _ h _ => hunit h

/-- A code unit that is no first half of a pair. -/
theorem stringBody_unit {n : Nat} (hn : n < 0x10000) (hhalf : isHighHalf n = false) (hrest : rest ≠ []) :
    stringBody opening (codeEscape n ++ rest) = prepend (charOfUnit n) (stringBody opening rest) := by
  obtain ⟨a, b, c, d, hhex, hunit⟩ := exists_hex_four hn
  obtain ⟨y, more, rfl⟩ := List.exists_cons_of_ne_nil hrest
  rw [codeEscape, hhex]
  by_cases hpair : ∃ e f g h x more', y = '\\' ∧ more = 'u' :: e :: f :: g :: h :: x :: more'
  · obtain ⟨e, f, g, h, x, more', rfl, rfl⟩ := hpair
    show stringBody opening ('\\' :: 'u' :: a :: b :: c :: d :: '\\' :: 'u' :: e :: f :: g :: h :: x :: more') = _
    rw [stringBody.eq_6 _ _ _ _ _ _ _ _ _ _ _ _ hunit, hhalf]
    rfl
  · refine stringBody.eq_7 _ _ _ _ _ _ _ _ ?_ hunit
    intro e f g h x more' hy hmore
    exact hpair ⟨e, f, g, h, x, more', hy, hmore⟩

/-- The two code units of a pair. -/
theorem stringBody_pair {high low : Nat} (hhigh : isHighHalf high = true) (hlow : isLowHalf low = true)
    (hrest : rest ≠ []) : stringBody opening (codeEscape high ++ (codeEscape low ++ rest)) =
      prepend (charOfPair high low) (stringBody opening rest) := by
  obtain ⟨a, b, c, d, hhex, hunit⟩ := exists_hex_four (lt_of_isHighHalf hhigh)
  obtain ⟨e, f, g, h, hhex', hunit'⟩ := exists_hex_four (lt_of_isLowHalf hlow)
  obtain ⟨x, more, rfl⟩ := List.exists_cons_of_ne_nil hrest
  rw [codeEscape, codeEscape, hhex, hhex']
  show stringBody opening ('\\' :: 'u' :: a :: b :: c :: d :: '\\' :: 'u' :: e :: f :: g :: h :: x :: more) = _
  rw [stringBody.eq_6 _ _ _ _ _ _ _ _ _ _ _ _ hunit, hhigh, hunit']
  simp only [if_true, hlow]

/-- **A character of a string is read back** in front of whatever follows it in the string. -/
theorem Escaped.stringBody_append {c : Char} {cs : List Char} (h : Escaped c cs) (hrest : rest ≠ []) :
    stringBody opening (cs ++ rest) = prepend c (stringBody opening rest) := by
  cases h with
  | letter he => exact stringBody_escape (escapeChar?_eq_some he).1 he
  | plain hquote hbackslash hfirst _ => exact stringBody_plain hquote hbackslash (Nat.not_lt.mpr hfirst)
  | unit hc =>
    obtain ⟨hhigh, hlow⟩ := not_half c
    have hunit : charOfUnit c.toNat = c := by
      rw [charOfUnit, hhigh, hlow]
      exact Char.ofNat_toNat c
    rw [stringBody_unit hc hhigh hrest, hunit]
  | pair hhigh hlow hchar => rw [List.append_assoc, stringBody_pair hhigh hlow hrest, hchar]

/-- The characters of a string are read back up to the closing quote. -/
theorem stringBody_escaped (cs : List Char) :
    stringBody opening (cs.flatMap escapedChar ++ '"' :: rest) = .ok (cs, rest) := by
  induction cs with
  | nil => exact stringBody.eq_2 opening rest
  | cons c cs ih =>
    rw [List.flatMap_cons, List.append_assoc, (escaped_escapedChar c).stringBody_append (by simp), ih]
    rfl

end Characters

/-- **A string is read back**, whatever follows it. -/
theorem stringText_append (s : String) (rest : List Char) : ∃ body, stringText s ++ rest = '"' :: body ∧
    ∀ opening, stringBody opening body = .ok (s.toList, rest) := by
  refine ⟨s.toList.flatMap escapedChar ++ '"' :: rest, ?_, fun opening => stringBody_escaped s.toList⟩
  rw [stringText, List.cons_append, List.append_assoc]
  rfl

end ComplianceHistory.Json
