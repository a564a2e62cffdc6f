import ComplianceHistory.Proofs.Filter.Documents
import ComplianceHistory.Proofs.Json.RoundTrip

/-!
# Texts of filters

The document of a filter is made of texts, lists and objects, so a text can hold it (`Filter.expressible_toValue`), and
the text of a filter with labels is read as the filter (`Filter.ofText_toText`).  Filters that differ have documents
that differ, with labels or without (`Filter.toValue_injective`), and so have different texts whatever their indents
(`Filter.indented_text_lossless`).
-/

namespace ComplianceHistory

open Json

variable {P : Float → Prop}

theorem Scope.expressible_toValue (s : Scope) : Expressible P s.toValue := by
  induction s using Scope.induct with
  | condition c =>
    rw [toValue]
    refine .single _ (.object (by simp) fun f hf => ?_)
    simp only [List.mem_cons, List.not_mem_nil, or_false] at hf
    rcases hf with rfl | rfl | rfl <;> exact .string _
  | query operator scopes ih =>
    rw [toValue, toValues_eq]
    refine .single _ (.pair (by decide) (.string operator) (.array fun d hd => ?_))
    obtain ⟨t, ht, rfl⟩ := List.mem_map.mp hd
    exact ih t ht
  | empty =>
    rw [toValue]
    exact .noMembers

/-- The document of a filter is made of texts, lists and objects. -/
theorem Filter.expressible_toValue (f : Filter) : Expressible P f.toValue := by
  refine .single _ ?_
  obtain ⟨_ | s⟩ := f
  · exact .null
  · exact s.expressible_toValue

/-- The text of a filter with labels is read as the filter. -/
theorem Filter.ofText_toText {l : Layout} (hl : l.Spaced) {f : Filter} (hf : f.Labelled) :
    ofText (f.toText l) = .ok f := by
  unfold ofText toText
  rw [read_write hl f.expressible_toValue]
  simp only [ofValue_toValue hf]
  rfl

/-- The text of a filter is read from a file as it was written. -/
theorem Filter.plainLines_toText {l : Layout} (hbreak : ∀ level, '\r' ∉ l.break level) (f : Filter) :
    String.ofList (Text.plainLines (f.toText l).toList) = f.toText l := by
  rw [toText, plainLines_write (P := fun _ => True) hbreak f.expressible_toValue]
  rfl

/-! ### Different filters -/

/-- Lists are equal if their elements are told apart by what they are mapped to. -/
theorem Scope.eq_of_toValues {ss ts : List Scope} (h : ∀ s ∈ ss, ∀ t : Scope, s.toValue = t.toValue → s = t)
    (hvalues : ss.map toValue = ts.map toValue) : ss = ts := by
  induction ss generalizing ts with
  | nil => exact (List.map_eq_nil_iff.mp hvalues.symm).symm
  | cons s ss ih =>
    obtain ⟨t, ts, rfl, ht, hts⟩ := List.map_eq_cons_iff.mp hvalues.symm
    rw [h s List.mem_cons_self t ht.symm, ih (fun u hu => h u (List.mem_cons_of_mem s hu)) hts.symm]

theorem Scope.toValue_injective : Function.Injective toValue := by
  intro s
  induction s using Scope.induct with
  | condition c =>
    intro t h
    cases t with
    | condition d =>
      simp only [toValue, Value.object.injEq, List.cons.injEq, Prod.mk.injEq, Value.string.injEq, true_and,
        and_true] at h
      obtain ⟨hlabel, hoperator, hvalue⟩ := h
      cases c
      cases d
      simp_all
    | query operator scopes => simp [toValue] at h
    | empty => simp [toValue] at h
  | query operator scopes ih =>
    intro t h
    cases t with
    | condition d => simp [toValue] at h
    | query operator' scopes' =>
      simp only [toValue, toValues_eq, Value.object.injEq, List.cons.injEq, Prod.mk.injEq, Value.string.injEq,
        Value.array.injEq, true_and, and_true] at h
      obtain ⟨rfl, hscopes⟩ := h
      rw [Scope.eq_of_toValues (fun s hs t => @ih s hs t) hscopes]
    | empty => simp [toValue] at h
  | empty =>
    intro t h
    cases t with
    | empty => rfl
    | _ => simp [toValue] at h

theorem Scope.toValue_ne_null (s : Scope) : s.toValue ≠ .null := by
  cases s <;> simp [toValue]

/-- Filters that differ have documents that differ. -/
theorem Filter.toValue_injective : Function.Injective Filter.toValue := by
  rintro ⟨_ | s⟩ ⟨_ | t⟩ h <;>
    simp only [toValue, Value.object.injEq, List.cons.injEq, Prod.mk.injEq, true_and, and_true] at h
  · rfl
  · exact absurd h.symm t.toValue_ne_null
  · exact absurd h s.toValue_ne_null
  · rw [Scope.toValue_injective h]

/-! ### Indents -/

theorem Layout.spaced_indent (indent : Option Int) : Layout.Spaced (indent.bind Layout.blanks) := by
  cases indent with
  | none => exact Layout.spaced_none
  | some n => exact Layout.spaced_blanks n

/--
**The text of a filter loses nothing.**  With any indent or on one line, the text of a filter with labels is read as
the filter, and whatever their indents, filters with the same text are the same.
-/
theorem Filter.indented_text_lossless (indent : Option Int) :
    (∀ f : Filter, f.Labelled → ofText (f.toText (indent.bind Layout.blanks)) = .ok f) ∧
    ∀ (indent' : Option Int) (f g : Filter),
      f.toText (indent.bind Layout.blanks) = g.toText (indent'.bind Layout.blanks) → f = g := by
  refine ⟨fun f hf => ofText_toText (Layout.spaced_indent indent) hf, fun indent' f g h => toValue_injective ?_⟩
  have hf := read_write (Layout.spaced_indent indent) f.expressible_toValue
  have hg := read_write (Layout.spaced_indent indent') g.expressible_toValue
  exact Except.ok.inj (hf.symm.trans ((congrArg read h).trans hg))

/-- A filter with quotes, control characters, letters above the first plane and a query of nothing. -/
def spelledFilter : Filter :=
  ⟨some (.query "\"aNd\\" [.condition ⟨"app.tier\x00", "?", "\uD55C\uAE00 😀\t\x7f"⟩, .query "" [], .empty])⟩

theorem labelled_spelledFilter : spelledFilter.Labelled := by
  intro s hs
  cases hs
  refine .query fun t ht => ?_
  simp only [List.mem_cons, List.not_mem_nil, or_false] at ht
  rcases ht with rfl | rfl | rfl
  · exact .condition (by decide)
  · exact .query nofun
  · exact .empty

theorem indented_text_lossless_spelled :
    Filter.ofText (spelledFilter.toText none) = .ok spelledFilter ∧
    Filter.ofText (spelledFilter.toText (Layout.blanks (-2))) = .ok spelledFilter ∧
    spelledFilter.toText none ≠ Filter.toText (Layout.blanks 4) ⟨none⟩ := by
  refine ⟨(Filter.indented_text_lossless none).1 _ labelled_spelledFilter,
    (Filter.indented_text_lossless (some (-2))).1 _ labelled_spelledFilter, fun h => ?_⟩
  have heq := (Filter.indented_text_lossless none).2 (some 4) _ _ h
  cases heq

end ComplianceHistory
