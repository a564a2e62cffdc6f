import Mathlib.Data.List.Forall2
import Mathlib.Data.List.Nodup
import Mathlib.Data.List.TakeDrop

/-!
# Lists and outcomes

Facts about lists, and about steps that may fail, that several developments need.
-/

namespace ComplianceHistory

variable {α β ε : Type}

/-- A stretch of one class of items, up to a rest that does not go on with it. -/
theorem takeWhile_exact {p : α → Bool} {xs rest : List α} (hxs : ∀ x ∈ xs, p x = true)
    (hrest : rest.head?.any p = false) : (xs ++ rest).takeWhile p = xs := by
  rw [List.takeWhile_append_of_pos hxs]
  cases rest with
  | nil => simp
  | cons x rest =>
    rw [List.head?_cons, Option.any_some] at hrest
    simp [hrest]

/-- A stretch of one class of items is cut off in front of a rest that does not go on with it. -/
theorem span_exact {p : α → Bool} {xs rest : List α} (hxs : ∀ x ∈ xs, p x = true)
    (hrest : rest.head?.any p = false) : (xs ++ rest).span p = (xs, rest) := by
  rw [List.span_eq_takeWhile_dropWhile, takeWhile_exact hxs hrest, List.dropWhile_append_of_pos hxs]
  cases rest with
  | nil => rfl
  | cons x rest =>
    rw [List.head?_cons, Option.any_some] at hrest
    rw [List.dropWhile_cons_of_neg (Bool.eq_false_iff.mp hrest)]

/-- A list is its longest stretch of one class of items, and a rest that does not go on with it. -/
theorem exists_takeWhile (p : α → Bool) (xs : List α) :
    ∃ rest, xs = xs.takeWhile p ++ rest ∧ rest.head?.any p = false := by
  refine ⟨xs.dropWhile p, List.takeWhile_append_dropWhile.symm, ?_⟩
  have hhead := List.head?_dropWhile_not p xs
  cases h : (xs.dropWhile p).head? with
  | none => rfl
  | some x =>
    rw [h] at hhead
    simpa using hhead

theorem ok_bind (a : α) (f : α → Except ε β) : Except.ok a >>= f = f a := rfl

theorem error_bind (e : ε) (f : α → Except ε β) : Except.error e >>= f = .error e := rfl

/-- Two steps succeed one after the other if the second one does with what comes of the first. -/
theorem bind_eq_ok {r : Except ε α} {f : α → Except ε β} {b : β} :
    r >>= f = .ok b ↔ ∃ a, r = .ok a ∧ f a = .ok b := by
  cases r with
  | error e => exact ⟨nofun, fun ⟨_, h, _⟩ => nomatch h⟩
  | ok a => exact ⟨fun h => ⟨a, rfl, h⟩, fun ⟨_, ha, h⟩ => by cases ha; exact h⟩

theorem map_eq_ok {r : Except ε α} {f : α → β} {b : β} : r.map f = .ok b ↔ ∃ a, r = .ok a ∧ f a = b := by
  cases r with
  | error e => exact ⟨nofun, fun ⟨_, h, _⟩ => nomatch h⟩
  | ok a => exact ⟨fun h => ⟨a, rfl, Except.ok.inj h⟩, fun ⟨_, ha, h⟩ => by cases ha; exact congrArg Except.ok h⟩

theorem mapError_eq_ok {ε' : Type} {f : ε → ε'} {r : Except ε α} {a : α} : r.mapError f = .ok a ↔ r = .ok a := by
  cases r with
  | error e => exact ⟨nofun, nofun⟩
  | ok b => exact ⟨fun h => by cases h; rfl, fun h => by cases h; rfl⟩

/-- What is in a list after an item of it was replaced is the new item or was there before. -/
theorem eq_or_mem_of_mem_replaced {before behind : List α} {x y z : α} (h : z ∈ before ++ y :: behind) :
    z = y ∨ z ∈ before ++ x :: behind := by
  rw [List.mem_append, List.mem_cons] at h ⊢
  rcases h with h | h | h
  · exact .inr (.inl h)
  · exact .inl h
  · exact .inr (.inr (.inr h))

/-- Either a step has a result for every item, or there is a first item for which it has none. -/
theorem exists_first_fault (f : α → Except ε β) (xs : List α) :
    (∃ ys, List.Forall₂ (fun x y => f x = .ok y) xs ys) ∨
    ∃ before x behind e, xs = before ++ x :: behind ∧ (∀ b ∈ before, ∃ y, f b = .ok y) ∧ f x = .error e := by
  induction xs with
  | nil => exact .inl ⟨[], .nil⟩
  | cons x xs ih =>
    cases hx : f x with
    | error e => exact .inr ⟨[], x, xs, e, rfl, List.forall_mem_nil _, hx⟩
    | ok y =>
      rcases ih with ⟨ys, hys⟩ | ⟨before, z, behind, e, rfl, hbefore, hz⟩
      · exact .inl ⟨y :: ys, .cons hx hys⟩
      · exact .inr ⟨x :: before, z, behind, e, rfl, List.forall_mem_cons.mpr ⟨⟨y, hx⟩, hbefore⟩, hz⟩

/-- A step that never fails makes a walk that never fails. -/
theorem mapM_of_ok {f : α → Except ε β} {g : α → β} {xs : List α} (h : ∀ x ∈ xs, f x = .ok (g x)) :
    xs.mapM f = .ok (xs.map g) := by
  induction xs with
  | nil => rfl
  | cons x xs ih =>
    rw [List.mapM_cons, h x List.mem_cons_self, ih fun y hy => h y (List.mem_cons_of_mem _ hy)]
    rfl

/-- A walk with one kind of fault fails with it where a step does. -/
theorem mapM_of_error {f : α → Except ε β} {e : ε} {xs : List α} (hfault : ∀ x ∈ xs, ∀ e', f x = .error e' → e' = e)
    (h : ∃ x ∈ xs, f x = .error e) : xs.mapM f = .error e := by
  induction xs with
  | nil =>
    obtain ⟨x, hx, -⟩ := h
    cases hx
  | cons x xs ih =>
    rw [List.mapM_cons]
    cases hfx : f x with
    | error e' =>
      obtain rfl := hfault x List.mem_cons_self e' hfx
      rfl
    | ok y =>
      have hrest : ∃ z ∈ xs, f z = .error e := by
        obtain ⟨z, hz, hfz⟩ := h
        rcases List.mem_cons.mp hz with rfl | hz
        · rw [hfx] at hfz
          cases hfz
        · exact ⟨z, hz, hfz⟩
      have htail := ih (fun z hz => hfault z (List.mem_cons_of_mem _ hz)) hrest
      show (xs.mapM f).bind _ = _
      rw [htail]
      rfl

/-- A walk depends on its step at the members of the list alone. -/
theorem mapM_congr {f g : α → Except ε β} {xs : List α} (h : ∀ x ∈ xs, f x = g x) : xs.mapM f = xs.mapM g := by
  induction xs with
  | nil => rfl
  | cons x xs ih =>
    rw [List.mapM_cons, List.mapM_cons, h x List.mem_cons_self, ih fun y hy => h y (List.mem_cons_of_mem _ hy)]

/-- A walk whose steps all succeed succeeds, with what the steps tell of their results. -/
theorem mapM_forall₂ {f : α → Except ε β} {R : α → β → Prop} {xs : List α}
    (h : ∀ x ∈ xs, ∃ y, f x = .ok y ∧ R x y) : ∃ ys, xs.mapM f = .ok ys ∧ List.Forall₂ R xs ys := by
  induction xs with
  | nil => exact ⟨[], rfl, .nil⟩
  | cons x xs ih =>
    obtain ⟨y, hy, hxy⟩ := h x List.mem_cons_self
    obtain ⟨ys, hys, hall⟩ := ih fun z hz => h z (List.mem_cons_of_mem _ hz)
    refine ⟨y :: ys, ?_, .cons hxy hall⟩
    rw [List.mapM_cons, hy]
    show (xs.mapM f).bind _ = _
    rw [hys]
    rfl

/-- What is on the left of related lists is related to something on the right. -/
theorem exists_of_mem_left {R : α → β → Prop} {xs : List α} {ys : List β} (h : List.Forall₂ R xs ys) {x : α}
    (hx : x ∈ xs) : ∃ y ∈ ys, R x y := by
  induction h with
  | nil => cases hx
  | cons hxy _ ih =>
    rcases List.mem_cons.mp hx with rfl | hx
    · exact ⟨_, List.mem_cons_self, hxy⟩
    · obtain ⟨y, hy, hR⟩ := ih hx
      exact ⟨y, List.mem_cons_of_mem _ hy, hR⟩

/-- Related members of lists may be related otherwise. -/
theorem forall₂_imp_mem {R S : α → β → Prop} {xs : List α} {ys : List β} (h : List.Forall₂ R xs ys)
    (himp : ∀ x ∈ xs, ∀ y ∈ ys, R x y → S x y) : List.Forall₂ S xs ys := by
  induction h with
  | nil => exact .nil
  | cons hxy _ ih =>
    refine .cons (himp _ List.mem_cons_self _ List.mem_cons_self hxy) (ih fun x hx y hy => ?_)
    exact himp x (List.mem_cons_of_mem _ hx) y (List.mem_cons_of_mem _ hy)

/-- A decidable property of all members of a list, decided member by member. -/
theorem forall_of_all {p : α → Prop} [DecidablePred p] {xs : List α} (h : (xs.all fun x => decide (p x)) = true) :
    ∀ x ∈ xs, p x := fun x hx => of_decide_eq_true (List.all_eq_true.mp h x hx)

/-- Blocks that are dropped as a whole. -/
theorem flatMap_ite (p : α → Bool) (f : α → List β) (xs : List α) :
    (xs.flatMap fun x => if p x then f x else []) = (xs.filter p).flatMap f := by
  induction xs with
  | nil => rfl
  | cons x xs ih =>
    rw [List.flatMap_cons, ih, List.filter_cons]
    split
    · rw [List.flatMap_cons]
    · rfl

/-- A part of a list without repetitions and what it lacks of the list make the list. -/
theorem append_missing_perm [DecidableEq α] {part xs : List α} (hpart : part.Nodup) (hxs : xs.Nodup)
    (h : ∀ x ∈ part, x ∈ xs) : (part ++ xs.filter fun x => !part.contains x).Perm xs := by
  have hmissing : ∀ x, x ∈ (xs.filter fun x => !part.contains x) ↔ x ∈ xs ∧ x ∉ part := by
    simp [List.mem_filter]
  refine (List.perm_ext_iff_of_nodup ?_ hxs).mpr fun x => ?_
  · refine List.nodup_append.mpr ⟨hpart, hxs.sublist List.filter_sublist, fun x hx y hy => ?_⟩
    rintro rfl
    exact ((hmissing x).mp hy).2 hx
  · rw [List.mem_append, hmissing]
    constructor
    · rintro (hx | ⟨hx, -⟩)
      · exact h x hx
      · exact hx
    · intro hx
      by_cases htaken : x ∈ part
      · exact .inl htaken
      · exact .inr ⟨hx, htaken⟩

/-- Sorting forgets the order of a list where no two of its members are equally placed. -/
theorem mergeSort_eq_of_perm {le : α → α → Bool} (htrans : ∀ a b c, le a b = true → le b c = true → le a c = true)
    (htotal : ∀ a b, (le a b || le b a) = true) {xs ys : List α}
    (hanti : ∀ a ∈ xs, ∀ b ∈ xs, le a b = true → le b a = true → a = b) (h : xs.Perm ys) :
    xs.mergeSort le = ys.mergeSort le := by
  have hperm : (xs.mergeSort le).Perm (ys.mergeSort le) :=
    (List.mergeSort_perm xs le).trans (h.trans (List.mergeSort_perm ys le).symm)
  refine List.Perm.eq_of_pairwise (fun a b ha hb => ?_) (List.pairwise_mergeSort htrans htotal xs)
    (List.pairwise_mergeSort htrans htotal ys) hperm
  exact hanti a (List.mem_mergeSort.mp ha) b (h.mem_iff.mpr (List.mem_mergeSort.mp hb))

/-! ### Ascending texts -/

/-- Texts in order, none of which is there twice, ascend. -/
theorem ascending_of_nodup {xs : List String} (hle : xs.Pairwise (· ≤ ·)) (hnodup : xs.Nodup) :
    xs.Pairwise (· < ·) := by
  refine (hle.and hnodup).imp fun ⟨hab, hne⟩ => ?_
  by_contra hlt
  exact hne (String.le_antisymm hab (String.not_lt.mp hlt))

/-- Ascending texts are told by their members. -/
theorem eq_of_ascending {xs ys : List String} (hxs : xs.Pairwise (· < ·)) (hys : ys.Pairwise (· < ·))
    (h : ∀ x, x ∈ xs ↔ x ∈ ys) : xs = ys := by
  have hnodup : ∀ {zs : List String}, zs.Pairwise (· < ·) → zs.Nodup := by
    intro zs hzs
    refine hzs.imp fun {a b} hlt heq => ?_
    subst heq
    exact String.lt_irrefl a hlt
  refine List.Perm.eq_of_pairwise (fun a b _ _ hab hba => ?_) hxs hys
    ((List.perm_ext_iff_of_nodup (hnodup hxs) (hnodup hys)).mpr h)
  exact absurd hba (String.lt_asymm hab)

section Named

theorem name_trans (a b c : String × α) (hab : decide (a.1 ≤ b.1) = true) (hbc : decide (b.1 ≤ c.1) = true) :
    decide (a.1 ≤ c.1) = true := by
  rw [decide_eq_true_eq] at hab hbc ⊢
  exact String.le_trans hab hbc

theorem name_total (a b : String × α) : (decide (a.1 ≤ b.1) || decide (b.1 ≤ a.1)) = true := by
  rw [Bool.or_eq_true, decide_eq_true_eq, decide_eq_true_eq]
  exact String.le_total _ _

variable {es es' : List (String × α)} (h : (es.map Prod.fst).Nodup)
include h

/-- Pairs that are sorted by their names have ascending names, if no name is there twice. -/
theorem ascending_mergeSort : ((es.mergeSort fun a b => a.1 ≤ b.1).map Prod.fst).Pairwise (· < ·) := by
  have hsorted : (es.mergeSort fun a b => a.1 ≤ b.1).Pairwise fun a b => a.1 ≤ b.1 :=
    (List.pairwise_mergeSort name_trans name_total es).imp fun hab => of_decide_eq_true hab
  exact ascending_of_nodup (List.pairwise_map.mpr hsorted)
    (((List.mergeSort_perm es _).map Prod.fst).nodup_iff.mpr h)

/-- Pairs have one order by their names, if no name is there twice. -/
theorem mergeSort_names_eq (hperm : es.Perm es') :
    (es.mergeSort fun a b => a.1 ≤ b.1) = es'.mergeSort fun a b => a.1 ≤ b.1 := by
  refine mergeSort_eq_of_perm name_trans name_total (fun a ha b hb hab hba => ?_) hperm
  exact List.inj_on_of_nodup_map h ha hb (String.le_antisymm (of_decide_eq_true hab) (of_decide_eq_true hba))

end Named

end ComplianceHistory
