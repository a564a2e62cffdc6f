import ComplianceHistory.Proofs.Report.Ranges

/-!
# Filling items at any place

Items need not be on a grid or in buckets of their own to have their gaps filled.  The steps are counted from the first
of the earliest items, and each step that no item stands at gets a new one (`Completed`).  Filling again finds the same
ends, and so the same steps, of which none is left (`fill_completed`).
-/

namespace ComplianceHistory.Report

open Time

/-- A step from the first item on that no item stands at, and that does not pass all items. -/
structure IsGap {α : Type} (place : α → Instant) (width : Int) (items : List α) (first : α) (t : Instant) : Prop where
  isStep : IsStep width (place first) t
  reached : ∃ y ∈ items, t.micros ≤ (place y).micros
  free : t ∉ items.map place

/-- What items are filled up to: each of them once, those at one place in their order, and a new item for each gap, made
from the first of the earliest items; all in order of time. -/
inductive Completed {α : Type} (place : α → Instant) (blank : α → Instant → α) (width : Int) :
    List α → List α → Prop
  | none : Completed place blank width [] []
  | some {items filled : List α} {first : α} {gaps : List Instant}
      (hfirst : IsFirstLowest (fun y => (place y).micros) first items) (hnodup : gaps.Nodup)
      (hgaps : ∀ t, t ∈ gaps ↔ IsGap place width items first t)
      (hperm : filled.Perm (items ++ gaps.map (blank first)))
      (hsorted : filled.Pairwise fun a b => (place a).micros ≤ (place b).micros)
      (hstable : ∀ t ∈ items.map place, (filled.filter fun y => place y = t) = items.filter fun y => place y = t) :
      Completed place blank width items filled

section Order

variable {α : Type} (place : α → Instant)

/-- Items at one place keep their order. -/
theorem filter_inOrder (items : List α) (t : Instant) :
    ((inOrder place items).filter fun y => place y = t) = items.filter fun y => place y = t := by
  have hsame : (items.filter fun y => place y = t).Pairwise
      fun a b => decide ((place a).micros ≤ (place b).micros) = true := by
    refine List.pairwise_of_forall_mem_list fun a ha b hb => ?_
    rw [List.mem_filter, decide_eq_true_eq] at ha hb
    rw [decide_eq_true_eq]
    exact Int.le_of_eq (congrArg Instant.micros (ha.2.trans hb.2.symm))
  have hsub : (items.filter fun y => place y = t).Sublist (inOrder place items) :=
    List.sublist_mergeSort (place_trans place) (place_total place) hsame List.filter_sublist
  have hfilter := hsub.filter fun y => place y = t
  rw [List.filter_filter] at hfilter
  simp only [Bool.and_self] at hfilter
  exact (hfilter.eq_of_length (((inOrder_perm place items).filter _).length_eq.symm)).symm

end Order

section Fill

variable {α : Type} {place : α → Instant} {blank : α → Instant → α} {interval : Duration} {x : α} {xs : List α}

/-- The steps up to the latest place that no item stands at are the gaps. -/
theorem mem_missing_iff {points : List Instant}
    (hpoints : StepsUpTo interval.micros (place (earliest place x xs)) (latestPlace place x xs) points) (t : Instant) :
    t ∈ points.filter (fun t => !((x :: xs).map place).contains t) ↔
      IsGap place interval.micros (x :: xs) (earliest place x xs) t := by
  obtain ⟨⟨z, hz, hlast⟩, hlatest⟩ := latestPlace_spec place x xs
  have hfree : (!((x :: xs).map place).contains t) = true ↔ t ∉ (x :: xs).map place := by
    rw [Bool.not_eq_true', Bool.eq_false_iff, ne_eq, List.contains_iff_mem]
  rw [List.mem_filter, hpoints.mem_iff, hfree]
  constructor
  · rintro ⟨⟨hstep, hle⟩, hnot⟩
    exact ⟨hstep, ⟨z, hz, hlast ▸ hle⟩, hnot⟩
  · rintro ⟨hstep, ⟨y, hy, hle⟩, hnot⟩
    exact ⟨⟨hstep, Int.le_trans hle (hlatest y hy)⟩, hnot⟩

/-- Items are filled up if the step behind the latest one is in the calendar. -/
theorem exists_fill (hblank : ∀ y t, place (blank y t) = t) {points : List Instant}
    (hrange : bucketRange (place (earliest place x xs)) (latestPlace place x xs) interval = .ok points)
    (hpoints : StepsUpTo interval.micros (place (earliest place x xs)) (latestPlace place x xs) points) :
    ∃ filled, fill place blank interval (x :: xs) = .ok filled ∧
      Completed place blank interval.micros (x :: xs) filled := by
  have hnodup : points.Nodup := hpoints.ascending.imp fun hlt he => absurd (congrArg Instant.micros he) (Int.ne_of_lt hlt)
  have hgaps := mem_missing_iff hpoints
  generalize hmissing : points.filter (fun t => !((x :: xs).map place).contains t) = gaps at hgaps
  have hfill : fill place blank interval (x :: xs) =
      .ok (inOrder place (x :: xs ++ gaps.map (blank (earliest place x xs)))) := by
    rw [fill]
    simp only [hrange, hmissing]
  refine ⟨_, hfill, .some (isFirstLowest_earliest place x xs) (hmissing ▸ hnodup.filter _) hgaps (inOrder_perm place _)
    (inOrder_sorted place _) fun t ht => ?_⟩
  -- the new items stand where no item does
  have hnone : (gaps.map (blank (earliest place x xs))).filter (fun y => place y = t) = [] := by
    refine List.filter_eq_nil_iff.mpr fun y hy => ?_
    obtain ⟨u, hu, rfl⟩ := List.mem_map.mp hy
    rw [hblank, decide_eq_true_eq]
    rintro rfl
    exact ((hgaps u).mp hu).free ht
  rw [filter_inOrder, List.filter_append, hnone, List.append_nil]

/-- Filled items stand where the items do, and at the gaps. -/
theorem mem_places_iff (hblank : ∀ y t, place (blank y t) = t) {width : Int} {items filled : List α} {first : α}
    {gaps : List Instant} (hgaps : ∀ t, t ∈ gaps ↔ IsGap place width items first t)
    (hperm : filled.Perm (items ++ gaps.map (blank first))) (t : Instant) :
    t ∈ filled.map place ↔ t ∈ items.map place ∨ IsGap place width items first t := by
  have hplaces : (gaps.map (blank first)).map place = gaps := by
    simp [Function.comp_def, hblank]
  rw [(hperm.map place).mem_iff, List.map_append, List.mem_append, hplaces, hgaps]

/-- An earliest and a latest place are known by the places that are taken. -/
theorem ends_eq {y : α} {ys : List α} {first latest : Instant}
    (hfirst : first ∈ (y :: ys).map place) (hlatest : latest ∈ (y :: ys).map place)
    (hbetween : ∀ t ∈ (y :: ys).map place, first.micros ≤ t.micros ∧ t.micros ≤ latest.micros) :
    place (earliest place y ys) = first ∧ latestPlace place y ys = latest := by
  obtain ⟨hmem, hle⟩ := earliest_spec place y ys
  obtain ⟨⟨z, hz, hlast⟩, hge⟩ := latestPlace_spec place y ys
  obtain ⟨a, ha, rfl⟩ := List.mem_map.mp hfirst
  obtain ⟨b, hb, rfl⟩ := List.mem_map.mp hlatest
  have h1 := (hbetween _ (List.mem_map_of_mem hmem)).1
  have h2 := (hbetween _ (List.mem_map_of_mem hz)).2
  have h3 := hle a ha
  have h4 := hge b hb
  rw [hlast] at h4 ⊢
  exact ⟨Instant.eq_of_micros (by omega), Instant.eq_of_micros (by omega)⟩

/-- Filling items that are filled changes nothing. -/
theorem Completed.fill_eq {filled : List α} (h : Completed place blank interval.micros (x :: xs) filled)
    (hblank : ∀ y t, place (blank y t) = t) (hinterval : 0 < interval.micros) {points : List Instant}
    (hrange : bucketRange (place (earliest place x xs)) (latestPlace place x xs) interval = .ok points)
    (hpoints : StepsUpTo interval.micros (place (earliest place x xs)) (latestPlace place x xs) points) :
    fill place blank interval filled = .ok filled := by
  cases h with
  | @some _ _ first gaps hfirst _ hgaps hperm hsorted _ =>
  have hplaces := mem_places_iff hblank hgaps hperm
  obtain ⟨⟨z, hz, hlast⟩, hlatest⟩ := latestPlace_spec place x xs
  obtain ⟨hmem, hle⟩ := earliest_spec place x xs
  have hstart : place (earliest place x xs) = place first :=
    Instant.eq_of_micros (Int.le_antisymm (hle first hfirst.mem) (hfirst.le _ hmem))
  cases filled with
  | nil => cases hperm.symm.eq_nil
  | cons y ys =>
    have hends : place (earliest place y ys) = place (earliest place x xs) ∧
        latestPlace place y ys = latestPlace place x xs := by
      refine ends_eq ((hplaces _).mpr (.inl (List.mem_map_of_mem hmem)))
        ((hplaces _).mpr (.inl (hlast ▸ List.mem_map_of_mem hz))) fun t ht => ?_
      rcases (hplaces t).mp ht with ht | ⟨⟨k, hk⟩, ⟨w, hw, hreached⟩, -⟩
      · obtain ⟨w, hw, rfl⟩ := List.mem_map.mp ht
        exact ⟨hle w hw, hlatest w hw⟩
      · have hnonneg : 0 ≤ (k : Int) * interval.micros := Int.mul_nonneg (by omega) (by omega)
        rw [hstart]
        exact ⟨by omega, Int.le_trans hreached (hlatest w hw)⟩
    rw [← hends.1, ← hends.2] at hrange
    refine fill_of_complete hrange (fun t ht => ?_) hsorted
    obtain ⟨hstep, hend⟩ := (hpoints.mem_iff t).mp ht
    rw [hplaces]
    by_cases hfree : t ∈ (x :: xs).map place
    · exact .inl hfree
    · exact .inr ⟨hstart ▸ hstep, ⟨z, hz, hlast ▸ hend⟩, hfree⟩

/-- **Items at any place are filled up, and filling again changes nothing**, if the step behind the latest item is in
the calendar. -/
theorem fill_completed (hblank : ∀ y t, place (blank y t) = t) (hinterval : 0 < interval.micros) {items : List α}
    (hlast : ∀ y ∈ items, (place y).micros + interval.micros ≤ lastMicro) :
    ∃ filled, fill place blank interval items = .ok filled ∧
      Completed place blank interval.micros items filled ∧ fill place blank interval filled = .ok filled := by
  cases items with
  | nil => exact ⟨[], rfl, .none, rfl⟩
  | cons x xs =>
    obtain ⟨⟨z, hz, hlatest⟩, -⟩ := latestPlace_spec place x xs
    have hpasses := passes_of_le hinterval (place (earliest place x xs)) (hlatest ▸ hlast z hz)
    obtain ⟨points, hrange, hpoints⟩ := exists_bucketRange hinterval hpasses
    obtain ⟨filled, hfill, hcompleted⟩ := exists_fill hblank hrange hpoints
    exact ⟨filled, hfill, hcompleted, hcompleted.fill_eq hblank hinterval hrange hpoints⟩

end Fill

/-! ### Histories and histograms -/

/-- **Gaps are filled whatever is in a history or in a histogram.**  Let the width be positive, and let the step behind
the latest entry be in the calendar.  Then the history is filled with entries without records and without states, of the
title of the first of the earliest entries; it stays the history of its stream, and filling it again changes nothing.
The same is true of a histogram, which is filled with groups without states. -/
theorem gaps_completed {interval : Duration} (hinterval : 0 < interval.micros) :
    (∀ report : StreamReport, (∀ e ∈ report.entries, e.interval.micros + interval.micros ≤ lastMicro) →
      ∃ filled, report.fillGaps interval = .ok filled ∧ filled.streamId = report.streamId ∧
        Completed StreamEntry.interval (fun first t => ⟨t, first.title, [], false⟩) interval.micros
          report.entries filled.entries ∧
        filled.fillGaps interval = .ok filled) ∧
    ∀ groups : List StatusGroup, (∀ g ∈ groups, g.interval.micros + interval.micros ≤ lastMicro) →
      ∃ filled, fillStatusGaps interval groups = .ok filled ∧
        Completed StatusGroup.interval (fun _ t => ⟨t, []⟩) interval.micros groups filled ∧
        fillStatusGaps interval filled = .ok filled := by
  constructor
  · rintro ⟨stream, entries⟩ hlast
    have hplace : ∀ e t, (StreamEntry.blank e t).interval = t := fun _ _ => rfl
    obtain ⟨filled, hfill, hcompleted, hagain⟩ := fill_completed hplace hinterval hlast
    refine ⟨⟨stream, filled⟩, ?_, rfl, hcompleted, ?_⟩
    · exact congrArg (Except.map fun es => (⟨stream, es⟩ : StreamReport)) hfill
    · exact congrArg (Except.map fun es => (⟨stream, es⟩ : StreamReport)) hagain
  · intro groups hlast
    have hplace : ∀ g t, (StatusGroup.blank g t).interval = t := fun _ _ => rfl
    exact fill_completed hplace hinterval hlast

/-- A history out of order, with two entries at the epoch and one two and a half days behind it. -/
def disordered : StreamReport where
  streamId := "s1"
  entries := [⟨⟨216000000000, by decide⟩, "late", [("failed", 1)], true⟩, ⟨.epoch, "first", [("passed", 1)], true⟩,
    ⟨.epoch, "second", [], false⟩]

theorem gaps_completed_disordered : 0 < day.micros ∧
    ∃ filled, disordered.fillGaps day = .ok filled ∧ filled.streamId = "s1" ∧
      Completed StreamEntry.interval (fun first t => ⟨t, first.title, [], false⟩) day.micros
        disordered.entries filled.entries ∧
      filled.fillGaps day = .ok filled := by
  have hinterval : 0 < day.micros := by decide
  have hlast : ∀ e ∈ disordered.entries, e.interval.micros + day.micros ≤ lastMicro := forall_of_all (by decide +kernel)
  exact ⟨hinterval, (gaps_completed hinterval).1 disordered hlast⟩

end ComplianceHistory.Report
