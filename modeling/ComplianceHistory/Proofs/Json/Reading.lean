import ComplianceHistory.Proofs.Json.RoundTrip

/-!
# What texts hold

Whatever is read from a text is a value that a text can hold (`isJson_of_read`): whole numbers have no more
digits than were read, no object has a name twice, and there are no instants or dates.  At a number of too many digits
the reading stops (`read_tooManyDigits`), also inside of objects (`value_member_stop`).
-/

namespace ComplianceHistory.Json

open Decimal

/--
A value that a text can hold, whatever its floating-point numbers.  These are the values that are read from texts
(`isJson_of_read`); a whole number of more digits than a reader takes is not among them.
-/
abbrev IsJson : Value → Prop := Expressible fun _ => True

/-- A floating-point number inside a value. -/
inductive FloatIn (x : Float) : Value → Prop where
  | self : FloatIn x (.float x)
  | item {xs : List Value} {v : Value} (hv : v ∈ xs) (h : FloatIn x v) : FloatIn x (.array xs)
  | member {fs : List (String × Value)} {f : String × Value} (hf : f ∈ fs) (h : FloatIn x f.2) :
      FloatIn x (.object fs)

theorem Expressible.of_floatIn {P : Float → Prop} {x : Float} {v : Value} (h : Expressible P v) (hx : FloatIn x v) :
    P x := by
  induction hx with
  | self =>
    cases h with
    | float hx => exact hx
  | item hv _ ih => exact ih (h.items _ hv)
  | member hf _ ih => exact ih (h.members _ hf)

/-- The floating-point numbers of a value can be looked at one by one. -/
theorem expressible_iff {P : Float → Prop} {v : Value} :
    Expressible P v ↔ IsJson v ∧ ∀ x, FloatIn x v → P x := by
  refine ⟨fun h => ⟨h.mono fun _ _ => trivial, fun x hx => h.of_floatIn hx⟩, fun h => ?_⟩
  obtain ⟨hjson, hfloats⟩ := h
  induction hjson with
  | null => exact .null
  | bool b => exact .bool b
  | int hn => exact .int hn
  | float _ => exact .float (hfloats _ .self)
  | string s => exact .string s
  | array _ ih => exact .array fun v hv => ih v hv fun x hx => hfloats x (.item hv hx)
  | object hnames _ ih => exact .object hnames fun f hf => ih f hf fun x hx => hfloats x (.member hf hx)

/-! ### Words and numbers -/

theorem isDigit_of_whole? {cs ds rest : List Char} (h : whole? cs = some (ds, rest)) :
    ∀ c ∈ ds, c.isDigit = true := by
  rw [whole?.eq_def] at h
  split at h
  · cases h
    exact forall_of_all (by decide)
  · split at h
    · cases h
    · rename_i hspan
      cases h
      rw [List.span_eq_takeWhile_dropWhile, Prod.mk.injEq] at hspan
      intro c hc
      rw [← hspan.1] at hc
      exact List.mem_takeWhile_imp hc

theorem isJson_of_numberOf {negative : Bool} {ds cs rest : List Char} {v : Value} (hds : ∀ c ∈ ds, c.isDigit = true)
    (h : numberOf negative ds cs = .ok (v, rest)) : IsJson v := by
  unfold numberOf at h
  split at h
  · cases h
    exact .float trivial
  · cases h
    exact .float trivial
  · split at h
    · cases h
    · rename_i hmax
      cases h
      have hlength : (Nat.toDigits 10 (natOf ds)).length ≤ maxDigits :=
        length_toDigits_natOf hds (by decide) (Nat.not_lt.mp hmax)
      cases negative with
      | false => exact .int hlength
      | true =>
        refine .int ?_
        rw [if_pos rfl, Int.natAbs_neg]
        exact hlength

theorem isJson_of_number? {negative : Bool} {cs rest : List Char} {v : Value}
    (h : number? negative cs = some (.ok (v, rest))) : IsJson v := by
  obtain ⟨⟨ds, more⟩, hwhole, hread⟩ := Option.map_eq_some_iff.mp h
  exact isJson_of_numberOf (isDigit_of_whole? hwhole) hread

theorem isJson_of_word? {cs rest : List Char} {v : Value} (h : word? cs = some (v, rest)) : IsJson v := by
  obtain ⟨w, hw, hread⟩ := List.exists_of_findSome?_eq_some h
  obtain ⟨more, -, hmore⟩ := Option.map_eq_some_iff.mp hread
  cases hmore
  simp only [words, List.mem_cons, List.not_mem_nil, or_false] at hw
  rcases hw with rfl | rfl | rfl | rfl | rfl | rfl
  · exact .null
  · exact .bool true
  · exact .bool false
  all_goals exact .float trivial

theorem isJson_of_scalar {cs rest : List Char} {v : Value} (h : scalar cs = .ok (v, rest)) : IsJson v := by
  unfold scalar at h
  cases hword : word? cs with
  | some r =>
    rw [hword] at h
    cases h
    exact isJson_of_word? hword
  | none =>
    rw [hword] at h
    cases hsigned : signed? cs with
    | none => rw [hsigned] at h; cases h
    | some outcome =>
      rw [hsigned] at h
      obtain rfl : outcome = .ok (v, rest) := h
      rw [signed?.eq_def] at hsigned
      split at hsigned <;> exact isJson_of_number? hsigned

/-! ### Values -/

/-- What the readers give, for a bound of their depth. -/
theorem isJson_of_readers (fuel : Nat) :
    (∀ cs v rest, value fuel cs = .ok (v, rest) → IsJson v) ∧
      (∀ cs xs rest, items fuel cs = .ok (xs, rest) → ∀ x ∈ xs, IsJson x) ∧
      ∀ cs fs rest, members fuel cs = .ok (fs, rest) → ∀ f ∈ fs, IsJson f.2 := by
  induction fuel with
  | zero =>
    refine ⟨?_, ?_, ?_⟩
    · intro cs v rest h
      rw [value] at h
      cases h
    · intro cs xs rest h
      rw [items] at h
      cases h
    · intro cs fs rest h
      rw [members] at h
      cases h
  | succ fuel ih =>
    obtain ⟨ihvalue, ihitems, ihmembers⟩ := ih
    refine ⟨?_, ?_, ?_⟩
    · intro cs v rest h
      rw [value.eq_def] at h
      dsimp only at h
      split at h
      · obtain ⟨⟨s, more⟩, -, h⟩ := bind_eq_ok.mp h
        cases h
        exact .string _
      · split at h
        · cases h
          exact .nil
        · obtain ⟨⟨xs, more⟩, hxs, h⟩ := bind_eq_ok.mp h
          cases h
          exact .array (ihitems _ _ _ hxs)
      · split at h
        · cases h
          exact .noMembers
        · obtain ⟨⟨fs, more⟩, hfs, h⟩ := bind_eq_ok.mp h
          cases h
          refine .object (Entries.nodup_keys_ofList fs) fun f hf => ?_
          rcases Entries.mem_of_mem_putAll hf with hf | hf
          · exact ihmembers _ _ _ hfs f hf
          · cases hf
      · exact isJson_of_scalar h
    · intro cs xs rest h
      obtain ⟨x, more, hx, ⟨-, rfl⟩ | ⟨gap, ys, -, hys, rfl⟩⟩ := items_eq_ok.mp h
      · intro y hy
        rw [List.mem_singleton.mp hy]
        exact ihvalue _ _ _ hx
      · intro y hy
        rcases List.mem_cons.mp hy with rfl | hy
        · exact ihvalue _ _ _ hx
        · exact ihitems _ _ _ hys y hy
    · intro cs fs rest h
      obtain ⟨body, name, behind, colon, x, more, -, -, -, hx, h⟩ := members_eq_ok.mp h
      rcases h with ⟨-, rfl⟩ | ⟨gap, gs, -, hgs, rfl⟩
      · intro f hf
        rw [List.mem_singleton.mp hf]
        exact ihvalue _ _ _ hx
      · intro f hf
        rcases List.mem_cons.mp hf with rfl | hf
        · exact ihvalue _ _ _ hx
        · exact ihmembers _ _ _ hgs f hf

/-- **Whatever is read from a text is a value that a text can hold.** -/
theorem isJson_of_read {text : String} {v : Value} (h : read text = .ok v) : IsJson v := by
  have h := mapError_eq_ok.mp h
  split at h
  · cases h
  · obtain ⟨⟨w, rest⟩, hw, h⟩ := bind_eq_ok.mp h
    dsimp only at h
    split at h
    · cases h
      exact (isJson_of_readers _).1 _ _ _ hw
    · cases h

/-! ### Numbers of too many digits -/

/-- Too many digits stop the reading of a value. -/
theorem value_tooManyDigits {c : Char} {ds rest : List Char} (hc : c ≠ '0') (hds : ∀ d ∈ c :: ds, d.isDigit = true)
    (hmax : maxDigits < (c :: ds).length) (hrest : Ends rest) (fuel : Nat) :
    value (fuel + 1) (c :: ds ++ rest) = .error (.tooManyDigits (c :: ds).length) := by
  have hword : isWordChar c = true := isWordChar_of_isDigit (hds c List.mem_cons_self)
  rw [List.cons_append, value_word hword, ← List.cons_append]
  exact scalar_tooManyDigits hc hds hmax hrest

/-- What stops the reading of the first member of an object stops the reading of the object. -/
theorem value_member_stop {fuel : Nat} {cs : List Char} {e : Stop} (h : value fuel (skipSpace cs) = .error e)
    (name : String) : value (fuel + 2) ('\x7b' :: (stringText name ++ ':' :: cs)) = .error e := by
  obtain ⟨body, hbody, hname⟩ := stringText_append name (':' :: cs)
  have hskip : skipSpace ('"' :: body) = '"' :: body := skipSpace_cons (by decide) body
  have hcolon : skipSpace (':' :: cs) = ':' :: cs := skipSpace_cons (by decide) cs
  have hmembers : members (fuel + 1) ('"' :: body) = .error e := by
    rw [members, hname, ok_bind]
    dsimp only
    rw [hcolon]
    show (value fuel (skipSpace cs) >>= _) = _
    rw [h, error_bind]
  rw [hbody, value, hskip]
  split
  · rename_i hend
    cases hend
  · rw [hmembers, error_bind]

/-- **A text is not read if the reading of its value stops** at a number of too many digits. -/
theorem read_tooManyDigits {c : Char} {cs : List Char} {n : Nat} (hmark : c ≠ '\ufeff') (hspace : isSpace c = false)
    (h : value (cs.length + 2) (c :: cs) = .error (.tooManyDigits n)) :
    read (String.ofList (c :: cs)) = .error (.tooManyDigits n) := by
  have hfirst : (c :: cs).head? ≠ some '\ufeff' := fun h => hmark (Option.some.inj h)
  unfold read
  simp only [String.toList_ofList, if_neg hfirst, skipSpace_cons hspace, List.length_cons, h]
  rfl

/-! ### Texts without a value at their start -/

theorem value_nil (fuel : Nat) : value fuel [] = .error (.fault .expectedValue 0) := by
  have hwords : ∀ w ∈ words, afterWord? w.1 [] = none := by
    intro w hw
    simp only [words, List.mem_cons, List.not_mem_nil, or_false] at hw
    rcases hw with rfl | rfl | rfl | rfl | rfl | rfl <;> rfl
  have hword : word? [] = none := List.findSome?_eq_none_iff.mpr fun w hw => by rw [hwords w hw]; rfl
  cases fuel with
  | zero => rfl
  | succ n =>
    show scalar [] = _
    rw [scalar, hword]
    rfl

theorem read_empty : read "" = .error (.malformed .expectedValue 1 1 0) := by
  have hchars : "".toList = [] := rfl
  unfold read
  rw [hchars]
  show (value 1 [] >>= _).mapError _ = _
  rw [value_nil]
  rfl

theorem read_of_mark {text : String} (h : text.toList.head? = some '\ufeff') :
    ∃ line column offset, read text = .error (.malformed .byteOrderMark line column offset) := by
  unfold read
  simp only [if_pos h]
  exact ⟨_, _, _, rfl⟩

end ComplianceHistory.Json
