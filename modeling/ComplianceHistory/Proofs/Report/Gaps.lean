import Mathlib.Data.List.Nodup
import ComplianceHistory.Proofs.Lists
import ComplianceHistory.Proofs.Report.Grid
import ComplianceHistory.Report.Gaps

/-!
# Filled gaps

Items on the grid, each in a bucket of its own, are filled up to one item in each bucket from the earliest to
the latest one (`fill_spec`).  Since both ends are on the grid, the steps between them meet every bucket that is
taken, so filling neither misses an item nor doubles one.
-/

namespace ComplianceHistory.Report

open Time

section Order

variable {α : Type} (place : α → Instant)

theorem inOrder_perm (xs : List α) : (inOrder place xs).Perm xs := List.mergeSort_perm _ _

theorem place_trans (a b c : α) (hab : decide ((place a).micros ≤ (place b).micros) = true)
    (hbc : decide ((place b).micros ≤ (place c).micros) = true) :
    decide ((place a).micros ≤ (place c).micros) = true := by
  rw [decide_eq_true_eq] at hab hbc ⊢
  exact Int.le_trans hab hbc

theorem place_total (a b : α) : (decide ((place a).micros ≤ (place b).micros) ||
    decide ((place b).micros ≤ (place a).micros)) = true := by
  rw [Bool.or_eq_true, decide_eq_true_eq, decide_eq_true_eq]
  exact Int.le_total _ _

theorem inOrder_sorted (xs : List α) :
    (inOrder place xs).Pairwise fun a b => (place a).micros ≤ (place b).micros :=
  (List.pairwise_mergeSort (place_trans place) (place_total place) xs).imp fun hab => of_decide_eq_true hab

/-- Items whose places are steps, in any order, are put in the order of the steps. -/
theorem map_inOrder {xs : List α} {steps : List Int} (hsteps : steps.Pairwise (· < ·))
    (h : (xs.map fun y => (place y).micros).Perm steps) :
    (inOrder place xs).map (fun y => (place y).micros) = steps := by
  have hsorted : ((inOrder place xs).map fun y => (place y).micros).Pairwise (· ≤ ·) :=
    List.pairwise_map.mpr (inOrder_sorted place xs)
  exact List.Perm.eq_of_pairwise (fun _ _ _ _ => Int.le_antisymm) hsorted (hsteps.imp Int.le_of_lt)
    (((inOrder_perm place xs).map _).trans h)

/-- The first of the lowest items of a list: those in front of it are higher, and those behind it not lower. -/
def IsFirstLowest {β : Type} (rank : β → Int) (first : β) (items : List β) : Prop :=
  ∃ before behind, items = before ++ first :: behind ∧ (∀ y ∈ before, rank first < rank y) ∧
    ∀ y ∈ behind, rank first ≤ rank y

section Lowest

variable {β : Type} {rank : β → Int} {first : β} {items : List β}

theorem IsFirstLowest.mem (h : IsFirstLowest rank first items) : first ∈ items := by
  obtain ⟨before, behind, rfl, -, -⟩ := h
  simp

theorem IsFirstLowest.le (h : IsFirstLowest rank first items) : ∀ y ∈ items, rank first ≤ rank y := by
  obtain ⟨before, behind, rfl, hbefore, hbehind⟩ := h
  intro y hy
  rcases List.mem_append.mp hy with hy | hy
  · exact Int.le_of_lt (hbefore y hy)
  · rcases List.mem_cons.mp hy with rfl | hy
    · exact Int.le_refl _
    · exact hbehind y hy

/-- A walk that keeps the lower one of two items, and of equal ones the former, ends with the first of the lowest.  The
induction is on the list, for any item kept so far. -/
theorem isFirstLowest_foldl (rank : β → Int) (x : β) (xs : List β) :
    IsFirstLowest rank (xs.foldl (fun best y => if rank y < rank best then y else best) x) (x :: xs) := by
  induction xs generalizing x with
  | nil => exact ⟨[], [], rfl, nofun, nofun⟩
  | cons y xs ih =>
    rw [List.foldl_cons]
    by_cases h : rank y < rank x
    · rw [if_pos h]
      have hle := (ih y).le y List.mem_cons_self
      obtain ⟨before, behind, heq, hbefore, hbehind⟩ := ih y
      refine ⟨x :: before, behind, congrArg (x :: ·) heq, fun z hz => ?_, hbehind⟩
      rcases List.mem_cons.mp hz with rfl | hz
      · exact Int.lt_of_le_of_lt hle h
      · exact hbefore z hz
    · rw [if_neg h]
      obtain ⟨before, behind, heq, hbefore, hbehind⟩ := ih x
      generalize xs.foldl _ x = first at heq hbefore hbehind ⊢
      cases before with
      | nil =>
        -- the item kept so far is the first of the lowest, and the new one stands behind it
        obtain ⟨hx, rfl⟩ := List.cons.inj heq
        refine ⟨[], y :: xs, by rw [← hx]; rfl, nofun, fun z hz => ?_⟩
        rcases List.mem_cons.mp hz with rfl | hz
        · rw [← hx]
          exact Int.not_lt.mp h
        · exact hbehind z hz
      | cons w before =>
        obtain ⟨rfl, rfl⟩ := List.cons.inj heq
        have hx := hbefore x List.mem_cons_self
        refine ⟨x :: y :: before, behind, rfl, fun z hz => ?_, hbehind⟩
        rcases List.mem_cons.mp hz with rfl | hz
        · exact hx
        rcases List.mem_cons.mp hz with rfl | hz
        · exact Int.lt_of_lt_of_le hx (Int.not_lt.mp h)
        · exact hbefore z (List.mem_cons_of_mem _ hz)

end Lowest

theorem isFirstLowest_earliest (x : α) (xs : List α) :
    IsFirstLowest (fun y => (place y).micros) (earliest place x xs) (x :: xs) :=
  isFirstLowest_foldl _ x xs

/-- The earliest item is one of the items, and no item is earlier. -/
theorem earliest_spec (x : α) (xs : List α) : earliest place x xs ∈ x :: xs ∧
    ∀ y ∈ x :: xs, (place (earliest place x xs)).micros ≤ (place y).micros :=
  ⟨(isFirstLowest_earliest place x xs).mem, (isFirstLowest_earliest place x xs).le⟩

/-- The latest place is the one of an item, and no item is later. -/
theorem latestPlace_spec (x : α) (xs : List α) : (∃ y ∈ x :: xs, latestPlace place x xs = place y) ∧
    ∀ y ∈ x :: xs, (place y).micros ≤ (latestPlace place x xs).micros := by
  have hwalk : latestPlace place x xs =
      (xs.map place).foldl (fun best t => if -t.micros < -best.micros then t else best) (place x) := by
    rw [List.foldl_map, latestPlace]
    simp only [Int.neg_lt_neg_iff]
  have hlowest := isFirstLowest_foldl (fun t : Instant => -t.micros) (place x) (xs.map place)
  rw [← hwalk, ← List.map_cons] at hlowest
  constructor
  · obtain ⟨y, hy, he⟩ := List.mem_map.mp hlowest.mem
    exact ⟨y, hy, he.symm⟩
  · intro y hy
    exact Int.neg_le_neg_iff.mp (hlowest.le _ (List.mem_map_of_mem hy))

end Order

/-! ### Filling -/

section Fill

variable {α : Type} {place : α → Instant} {interval : Duration}

/-- The range of items on the grid meets every bucket that is taken. -/
theorem bucketRange_spec (hinterval : 0 < interval.micros) {anchor : Int} {x : α} {xs : List α}
    (hgrid : ∀ y ∈ x :: xs, OnGrid interval.micros anchor (place y).micros)
    (hlast : ∀ y ∈ x :: xs, (place y).micros + interval.micros ≤ lastMicro) :
    ∃ points count, bucketRange (place (earliest place x xs)) (latestPlace place x xs) interval = .ok points ∧
      (latestPlace place x xs).micros = (place (earliest place x xs)).micros + (count : Nat) * interval.micros ∧
      points.map Instant.micros =
        stepsOf interval.micros (place (earliest place x xs)).micros (count + 1) ∧
      ∀ t ∈ (x :: xs).map place, t ∈ points := by
  obtain ⟨hfirst, hearliest⟩ := earliest_spec place x xs
  obtain ⟨⟨z, hz, hzlast⟩, hlatest⟩ := latestPlace_spec place x xs
  -- the range ends on the grid
  obtain ⟨count, hcount⟩ := (hgrid _ hfirst).exists_steps hinterval (hgrid z hz) (hearliest z hz)
  rw [← hzlast] at hcount
  have hmet : ∀ k < count + 1, (place (earliest place x xs)).micros + (k : Int) * interval.micros ≤
      (latestPlace place x xs).micros := by
    intro k hk
    have hle : (k : Int) * interval.micros ≤ count * interval.micros :=
      Int.mul_le_mul_of_nonneg_right (by omega) (by omega)
    omega
  have hnext : (place (earliest place x xs)).micros + ((count + 1 : Nat) : Int) * interval.micros =
      (latestPlace place x xs).micros + interval.micros := by
    rw [Int.natCast_succ, Int.add_mul]
    omega
  have hpast : (latestPlace place x xs).micros <
      (place (earliest place x xs)).micros + ((count + 1 : Nat) : Int) * interval.micros := by omega
  have hend : (place (earliest place x xs)).micros + ((count + 1 : Nat) : Int) * interval.micros ≤ lastMicro := by
    rw [hnext, hzlast]
    exact hlast z hz
  obtain ⟨points, hpoints, hmicros⟩ := stepsFrom_eq ⟨_, hinterval⟩ hmet hpast hend
  refine ⟨points, count, ?_, hcount, hmicros, fun t ht => ?_⟩
  · unfold bucketRange Width.ofDuration
    rw [dif_pos hinterval]
    exact hpoints
  · obtain ⟨y, hy, rfl⟩ := List.mem_map.mp ht
    obtain ⟨n, hn⟩ := (hgrid _ hfirst).exists_steps hinterval (hgrid y hy) (hearliest y hy)
    have hle := hlatest y hy
    have hncount : n < count + 1 := by
      have hlt : (n : Int) * interval.micros < ((count + 1 : Nat) : Int) * interval.micros := by omega
      have := Int.lt_of_mul_lt_mul_right hlt (Int.le_of_lt hinterval)
      omega
    have hmem : (place y).micros ∈ points.map Instant.micros := by
      rw [hmicros]
      exact mem_stepsOf.mpr ⟨n, hncount, hn⟩
    obtain ⟨t, ht, he⟩ := List.mem_map.mp hmem
    rw [← Instant.eq_of_micros he]
    exact ht

/-- The items of a list that are filled up to the latest one: one in each bucket, the given ones and blank ones
where there was none, and the earliest one first. -/
structure Filled (place : α → Instant) (blank : α → Instant → α) (width : Int) (items : List α) (first : α)
    (latest : Instant) (filled : List α) : Prop where
  places : ∃ count : Nat, latest.micros = (place first).micros + count * width ∧
    filled.map (fun y => (place y).micros) = stepsOf width (place first).micros (count + 1)
  perm : ∃ missing : List Instant, (∀ t ∈ missing, t ∉ items.map place) ∧
    filled.Perm (items ++ missing.map (blank first))
  head : filled.head? = some first

/-- The first of the filled items is the earliest one, and not a blank one in its bucket. -/
theorem head_of_perm {items filled : List α} {missing : List Instant} {blank : Instant → α} {first : α}
    {steps : List Int} (hblank : ∀ t, place (blank t) = t) (hnodup : (items.map place).Nodup)
    (hfirst : first ∈ items) (hmissing : ∀ t ∈ missing, t ∉ items.map place)
    (hperm : filled.Perm (items ++ missing.map blank))
    (hplaces : filled.map (fun y => (place y).micros) = (place first).micros :: steps) :
    filled.head? = some first := by
  cases filled with
  | nil => cases hplaces
  | cons y ys =>
    have hplace : place y = place first := Instant.eq_of_micros (List.cons.inj hplaces).1
    rcases List.mem_append.mp (hperm.mem_iff.mp List.mem_cons_self) with hy | hy
    · rw [List.head?_cons, List.inj_on_of_nodup_map hnodup hy hfirst hplace]
    · obtain ⟨t, ht, rfl⟩ := List.mem_map.mp hy
      rw [hblank] at hplace
      exact absurd (hplace ▸ List.mem_map_of_mem hfirst) (hmissing t ht)

/-- **Items on the grid, each in its own bucket, are filled up.**  The last step past the latest bucket must stay
in the calendar. -/
theorem fill_spec {blank : α → Instant → α} (hblank : ∀ y t, place (blank y t) = t)
    (hinterval : 0 < interval.micros) {anchor : Int} {x : α} {xs : List α}
    (hgrid : ∀ y ∈ x :: xs, OnGrid interval.micros anchor (place y).micros)
    (hnodup : ((x :: xs).map place).Nodup)
    (hlast : ∀ y ∈ x :: xs, (place y).micros + interval.micros ≤ lastMicro) :
    ∃ filled, fill place blank interval (x :: xs) = .ok filled ∧
      Filled place blank interval.micros (x :: xs) (earliest place x xs) (latestPlace place x xs) filled := by
  obtain ⟨points, count, hrange, hcount, hmicros, hmet⟩ := bucketRange_spec hinterval hgrid hlast
  obtain ⟨hfirst, -⟩ := earliest_spec place x xs
  have hascending := stepsOf_ascending hinterval (place (earliest place x xs)).micros (count + 1)
  have hpoints : points.Nodup := by
    refine List.Nodup.of_map Instant.micros ?_
    rw [hmicros]
    exact hascending.imp Int.ne_of_lt
  have hmissing : ∀ t ∈ points.filter (fun t => !((x :: xs).map place).contains t), t ∉ (x :: xs).map place := by
    intro t ht
    have := (List.mem_filter.mp ht).2
    simpa using this
  have hperm := inOrder_perm place
    (x :: xs ++ (points.filter fun t => !((x :: xs).map place).contains t).map (blank (earliest place x xs)))
  have hplaces : (inOrder place (x :: xs ++ (points.filter fun t => !((x :: xs).map place).contains t).map
      (blank (earliest place x xs)))).map (fun y => (place y).micros) =
      stepsOf interval.micros (place (earliest place x xs)).micros (count + 1) := by
    refine map_inOrder place hascending ?_
    have hcomp : (x :: xs ++ (points.filter fun t => !((x :: xs).map place).contains t).map
        (blank (earliest place x xs))).map (fun y => (place y).micros) =
        ((x :: xs).map place ++ points.filter fun t => !((x :: xs).map place).contains t).map Instant.micros := by
      simp [List.map_append, List.map_map, Function.comp_def, hblank]
    rw [hcomp, ← hmicros]
    exact (append_missing_perm hnodup hpoints hmet).map _
  refine ⟨_, ?_, ⟨count, hcount, hplaces⟩, ⟨_, hmissing, hperm⟩, ?_⟩
  · rw [fill]
    simp only [hrange]
  · rw [stepsOf_succ] at hplaces
    exact head_of_perm (hblank _) hnodup hfirst hmissing hperm hplaces

end Fill

end ComplianceHistory.Report
