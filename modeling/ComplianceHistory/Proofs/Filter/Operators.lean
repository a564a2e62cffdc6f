import ComplianceHistory.Proofs.Lists
import ComplianceHistory.Filter.Basic
import ComplianceHistory.Text.Case

/-!
# The operators of queries in any case

Which connective an operator stands for is found from its ASCII letters alone, although the case of letters
is defined for all scripts.  Nothing is lost by that: among the letters of all scripts only `a` and `A` have
the lower case `a`, and so for `n`, `d`, `o` and `r` (`mapCase_append_eq_iff`).  So an operator is a connective if
and only if its lower case is the word (`Connective.ofOperator?_eq`).
-/

namespace ComplianceHistory.Text

/-- The letters of the words `and` and `or`. -/
def connectiveLetters : List Char := ['a', 'n', 'd', 'o', 'r']

/-! ### Runs of letters -/

/-- The run of the capital letters of ASCII. -/
def asciiRun : CaseRun := ⟨0x41, 0x5A, 1, 32⟩

/-- A run behind the capital letters that neither holds one of the letters nor leads to one. -/
def CaseRun.IsForeign (r : CaseRun) : Prop :=
  0x5A < r.first ∧ ∀ t ∈ connectiveLetters,
    (t.toNat < r.first ∨ r.last < t.toNat) ∧
      ((t.toNat : Int) < r.first + r.shift ∨ r.last + r.shift < (t.toNat : Int))

instance (r : CaseRun) : Decidable r.IsForeign :=
  @instDecidableAnd _ _ inferInstance (List.decidableBAll _ _)

theorem isForeign_of_mem : ∀ r ∈ lowerRuns.tail, r.IsForeign := by decide +kernel

theorem map?_eq_some {r : CaseRun} {n m : Nat} (h : r.map? n = some m) :
    r.first ≤ n ∧ n ≤ r.last ∧ m = (n + r.shift).toNat := by
  unfold CaseRun.map? at h
  split at h
  · rename_i hn
    exact ⟨hn.1, hn.2.1, (Option.some.inj h).symm⟩
  · cases h

/-! ### Single letters -/

theorem toNat_toLower (c : Char) :
    c.toLower.toNat = if 0x41 ≤ c.toNat ∧ c.toNat ≤ 0x5A then c.toNat + 32 else c.toNat := by
  unfold Char.toLower
  simp only [Char.toNat, UInt32.le_iff_toNat_le]
  split
  · rename_i h
    have h1 : 0x41 ≤ c.val.toNat := h.1
    have h2 : c.val.toNat ≤ 0x5A := h.2
    rw [if_pos ⟨h1, h2⟩]
    show (c.val + 32).toNat = c.val.toNat + 32
    rw [UInt32.toNat_add]
    show (c.val.toNat + 32) % 4294967296 = _
    omega
  · rename_i h
    exact (if_neg h).symm

theorem toNat_of_ofNat_eq {n : Nat} {c : Char} (h : Char.ofNat n = c) (hc : c ≠ Char.ofNat 0) :
    c.toNat = n := by
  by_cases hn : n.isValidChar
  · have hvalid : Char.ofNat n = Char.ofNatAux n hn := dif_pos hn
    rw [← h, hvalid]
    rfl
  · have hdefault : Char.ofNat n = Char.ofNat 0 := dif_neg hn
    exact absurd (h.symm.trans hdefault) hc

theorem connectiveLetters_bounds : ∀ t ∈ connectiveLetters,
    0x5A < t.toNat ∧ t.toNat < 0x7B ∧ t ≠ Char.ofNat 0 ∧ t ≠ 'i' := forall_of_all (by decide)

theorem asciiRun_map? {n : Nat} (h : 0x41 ≤ n ∧ n ≤ 0x5A) : asciiRun.map? n = some (n + 32) := by
  unfold CaseRun.map?
  rw [if_pos ⟨h.1, h.2, Nat.mod_one _⟩]
  rfl

theorem asciiRun_map?_none {n : Nat} (h : ¬ (0x41 ≤ n ∧ n ≤ 0x5A)) : asciiRun.map? n = none := by
  unfold CaseRun.map?
  rw [if_neg (fun hn => h ⟨hn.1, hn.2.1⟩)]

/-- A letter behind the capital letters of ASCII never becomes one of the letters. -/
theorem foreign_map? {rs : List CaseRun} (hrs : ∀ r ∈ rs, r.IsForeign) {n m : Nat}
    (h : rs.findSome? (·.map? n) = some m) {t : Char} (ht : t ∈ connectiveLetters) :
    n ≠ t.toNat ∧ Char.ofNat m ≠ t := by
  obtain ⟨r, hr, hm⟩ := List.exists_of_findSome?_eq_some h
  obtain ⟨h1, h2, rfl⟩ := map?_eq_some hm
  obtain ⟨h3, h4⟩ := (hrs r hr).2 t ht
  obtain ⟨hlow, -, hzero, -⟩ := connectiveLetters_bounds t ht
  refine ⟨by omega, fun he => ?_⟩
  have := toNat_of_ofNat_eq he hzero
  omega

/-- The single lower case letter of a character is one of the letters as its ASCII form is. -/
theorem findSome?_eq_iff (c : Char) {t : Char} (ht : t ∈ connectiveLetters) :
    ((lowerRuns.findSome? (·.map? c.toNat)).map Char.ofNat).getD c = t ↔ c.toLower = t := by
  have hruns : lowerRuns = asciiRun :: lowerRuns.tail := rfl
  obtain ⟨hlow, hhigh, hzero, -⟩ := connectiveLetters_bounds t ht
  rw [hruns, List.findSome?_cons, ← Char.toNat_inj (c := c.toLower), toNat_toLower]
  by_cases hup : 0x41 ≤ c.toNat ∧ c.toNat ≤ 0x5A
  · rw [asciiRun_map? hup, if_pos hup]
    show Char.ofNat (c.toNat + 32) = t ↔ _
    constructor
    · intro h
      exact (toNat_of_ofNat_eq h hzero).symm
    · intro h
      rw [h, Char.ofNat_toNat]
  · rw [asciiRun_map?_none hup, if_neg hup, Char.toNat_inj]
    cases hf : lowerRuns.tail.findSome? (·.map? c.toNat) with
    | none => rfl
    | some m =>
      obtain ⟨h1, h2⟩ := foreign_map? isForeign_of_mem hf ht
      exact ⟨fun h => absurd h h2, fun h => absurd (congrArg Char.toNat h) h1⟩

/-- The one letter with a longer lower case is a capital `i` with a dot. -/
theorem expansion_eq {n : Nat} {ns : List Nat} (h : lowerExpansions.lookup n = some ns) :
    n = 0x130 ∧ ns = [0x69, 0x307] := by
  unfold lowerExpansions at h
  rw [List.lookup_cons] at h
  split at h
  · rename_i hn
    exact ⟨by simpa using hn, (Option.some.inj h).symm⟩
  · cases h

theorem mapCase_ne_nil (c : Char) : mapCase lowerExpansions lowerRuns c ≠ [] := by
  unfold mapCase
  cases hl : lowerExpansions.lookup c.toNat with
  | none => exact List.cons_ne_nil _ _
  | some ns =>
    obtain ⟨-, rfl⟩ := expansion_eq hl
    exact List.cons_ne_nil _ _

/-- The lower case of a character starts a text with one of the letters as its ASCII form does. -/
theorem mapCase_append_eq_iff (c : Char) {t : Char} (ht : t ∈ connectiveLetters) (ds w : List Char) :
    mapCase lowerExpansions lowerRuns c ++ ds = t :: w ↔ c.toLower = t ∧ ds = w := by
  unfold mapCase
  cases hl : lowerExpansions.lookup c.toNat with
  | none =>
    rw [← findSome?_eq_iff c ht]
    exact List.cons_eq_cons
  | some ns =>
    obtain ⟨hc, rfl⟩ := expansion_eq hl
    obtain ⟨-, hhigh, -, hi⟩ := connectiveLetters_bounds t ht
    constructor
    · intro h
      exact absurd (List.cons.inj h).1.symm hi
    · rintro ⟨h, -⟩
      rw [← Char.toNat_inj, toNat_toLower, hc] at h
      simp at h
      omega

/-! ### Words -/

/-- A word of the letters is the lower case of a text if and only if it is its ASCII form. -/
theorem lowerAfter_eq_iff (before cs : List Char) {w : List Char} (hw : ∀ t ∈ w, t ∈ connectiveLetters) :
    lowerAfter before cs = w ↔ cs.map Char.toLower = w := by
  induction cs generalizing before w with
  | nil => rfl
  | cons c cs ih =>
    rw [lowerAfter, List.map_cons]
    cases w with
    | nil =>
      refine ⟨fun h => absurd (List.append_eq_nil_iff.mp h).1 ?_, fun h => nomatch h⟩
      split
      · split <;> exact List.cons_ne_nil _ _
      · exact mapCase_ne_nil c
    | cons t w =>
      have ht : t ∈ connectiveLetters := hw t List.mem_cons_self
      rw [List.cons_eq_cons, ← ih (c :: before) fun u hu => hw u (List.mem_cons_of_mem _ hu)]
      by_cases hc : c = 'Σ'
      · -- neither form of the small sigma is one of the letters
        have hσ : ∀ u ∈ connectiveLetters, u ≠ 'ς' ∧ u ≠ 'σ' ∧ u ≠ Char.toLower 'Σ' :=
          forall_of_all (by decide)
        obtain ⟨h1, h2, h3⟩ := hσ t ht
        rw [if_pos hc]
        constructor
        · intro h
          split at h
          · exact absurd (List.cons.inj h).1.symm h1
          · exact absurd (List.cons.inj h).1.symm h2
        · rintro ⟨h, -⟩
          exact absurd (hc ▸ h).symm h3
      · rw [if_neg hc]
        exact mapCase_append_eq_iff c ht _ w

/-- The lower case of a text is a word of the letters if and only if its ASCII form is. -/
theorem lower_eq_iff (s : String) {w : String} (hw : ∀ t ∈ w.toList, t ∈ connectiveLetters) :
    lower s = w ↔ lowerAscii s = w.toList := by
  rw [lower, lowerAscii, ← lowerAfter_eq_iff [] s.toList hw]
  constructor
  · rintro rfl
    exact String.toList_ofList.symm
  · intro h
    rw [h, String.ofList_toList]

end ComplianceHistory.Text

namespace ComplianceHistory

/-- An operator stands for the connective whose name is its lower case. -/
theorem Connective.ofOperator?_eq (operator : String) :
    Connective.ofOperator? operator =
      if Text.lower operator = "and" then some .and
      else if Text.lower operator = "or" then some .or
      else none := by
  have hand := Text.lower_eq_iff operator (w := "and") (forall_of_all (by decide))
  have hor := Text.lower_eq_iff operator (w := "or") (forall_of_all (by decide))
  unfold Connective.ofOperator?
  simp only [hand, hor]
  rfl

end ComplianceHistory
