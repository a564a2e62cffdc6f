import ComplianceHistory.Proofs.Lists
import ComplianceHistory.Proofs.Report.Gaps
import ComplianceHistory.Report.History

/-!
# Records that stand for their buckets

Records are sorted by time and keep their order where they are equally late, so the last of the sorted records
with some property is the last given one of the latest (`isLatest_of_getLast?`).  A reduction has one
representative for each stream and bucket of the records, made from the latest record there
(`isLatest_of_mem_groups`), and they stand in the order of their streams.
-/

namespace ComplianceHistory.Report

open Time

/-- The record is the latest one, and the last given one of those that are equally late. -/
def IsLatest (r : Record) (rs : List Record) : Prop :=
  ∃ before after, rs = before ++ r :: after ∧
    (∀ q ∈ before, q.timestamp.micros ≤ r.timestamp.micros) ∧
    ∀ q ∈ after, q.timestamp.micros < r.timestamp.micros

theorem IsLatest.head {r : Record} {rs : List Record} (h : ∀ q ∈ rs, q.timestamp.micros < r.timestamp.micros) :
    IsLatest r (r :: rs) := by
  refine ⟨[], rs, rfl, fun q hq => ?_, h⟩
  cases hq

theorem IsLatest.cons {q r : Record} {rs : List Record} (h : IsLatest r rs)
    (hq : q.timestamp.micros ≤ r.timestamp.micros) : IsLatest r (q :: rs) := by
  obtain ⟨before, after, rfl, hbefore, hafter⟩ := h
  refine ⟨q :: before, after, rfl, fun p hp => ?_, hafter⟩
  rcases List.mem_cons.mp hp with rfl | hp
  · exact hq
  · exact hbefore p hp

/-! ### Records in order of time -/

theorem mem_byTime {r : Record} {rs : List Record} : r ∈ byTime rs ↔ r ∈ rs :=
  (inOrder_perm Record.timestamp rs).mem_iff

/-- A record that is given in front of others is sorted in front of those that are not earlier. -/
theorem byTime_cons (r : Record) (rs : List Record) : ∃ before after,
    byTime (r :: rs) = before ++ r :: after ∧ byTime rs = before ++ after ∧
      (∀ q ∈ before, q.timestamp.micros < r.timestamp.micros) ∧
      ∀ q ∈ after, r.timestamp.micros ≤ q.timestamp.micros := by
  obtain ⟨before, after, hcons, hrs, hbefore⟩ :=
    List.mergeSort_cons (place_trans Record.timestamp) (place_total Record.timestamp) r rs
  refine ⟨before, after, hcons, hrs, fun q hq => ?_, fun q hq => ?_⟩
  · have := hbefore q hq
    simp only [Bool.not_eq_true', decide_eq_false_iff_not] at this
    omega
  · have hsorted := inOrder_sorted Record.timestamp (r :: rs)
    have : inOrder Record.timestamp (r :: rs) = before ++ r :: after := hcons
    rw [this, List.pairwise_append] at hsorted
    exact List.rel_of_pairwise_cons hsorted.2.1 hq

/-- **The last of the sorted records with a property is the latest of them.**  The induction puts one record in
front: either a record behind it in the order of time stays the last one, or it is later than all others. -/
theorem isLatest_of_getLast? {p : Record → Bool} {rs : List Record} {r : Record}
    (h : ((byTime rs).filter p).getLast? = some r) : IsLatest r (rs.filter p) := by
  induction rs generalizing r with
  | nil =>
    have hnil : byTime [] = [] := List.mergeSort_nil
    rw [hnil] at h
    cases h
  | cons q rs ih =>
    obtain ⟨before, after, hcons, hrs, hbefore, hafter⟩ := byTime_cons q rs
    rw [hcons, List.filter_append, List.filter_cons] at h
    rw [hrs, List.filter_append] at ih
    rw [List.filter_cons]
    by_cases hq : p q = true
    · rw [if_pos hq] at h ⊢
      cases hlast : (after.filter p).getLast? with
      | none =>
        have hnil : after.filter p = [] := List.getLast?_eq_none_iff.mp hlast
        rw [hnil, List.getLast?_append, List.getLast?_singleton, Option.some_or] at h
        obtain rfl := Option.some.inj h
        refine .head fun r hr => ?_
        obtain ⟨hr, hpr⟩ := List.mem_filter.mp hr
        rw [← mem_byTime, hrs] at hr
        rcases List.mem_append.mp hr with hr | hr
        · exact hbefore r hr
        · exact absurd hpr (List.filter_eq_nil_iff.mp hnil r hr)
      | some r' =>
        rw [List.getLast?_append, List.getLast?_cons, hlast] at h
        obtain rfl : r' = r := by simpa using h
        have hrest : (before.filter p ++ after.filter p).getLast? = some r' := by
          rw [List.getLast?_append, hlast]
          rfl
        exact (ih hrest).cons (hafter r' (List.mem_filter.mp (List.mem_of_getLast? hlast)).1)
    · rw [if_neg hq] at h ⊢
      exact ih h

/-! ### The last record of each key -/

section Keys

variable {κ : Type} [DecidableEq κ] {key : Record → κ} {rs : List Record} {k : κ}

/-- The keys are those of the records. -/
theorem mem_keys_lastOf :
    k ∈ Keyed.keys (Keyed.lastOf ((byTime rs).map fun r => (key r, r))) ↔ ∃ r ∈ rs, key r = k := by
  unfold Keyed.lastOf
  rw [Keyed.mem_keys_collect, List.map_map, List.mem_map]
  constructor
  · rintro ⟨r, hr, rfl⟩
    exact ⟨r, mem_byTime.mp hr, rfl⟩
  · rintro ⟨r, hr, rfl⟩
    exact ⟨r, mem_byTime.mpr hr, rfl⟩

/-- The record of a key is the latest one that has it. -/
theorem isLatest_of_mem_lastOf {r : Record}
    (h : (k, r) ∈ Keyed.lastOf ((byTime rs).map fun q => (key q, q))) :
    IsLatest r (rs.filter fun q => key q = k) := by
  have hget := Keyed.get?_of_mem (Keyed.nodup_keys_collect _ _ _) h
  have hvalues : Keyed.valuesOf ((byTime rs).map fun q => (key q, q)) k =
      (byTime rs).filter fun q => key q = k := by
    unfold Keyed.valuesOf
    rw [List.filter_map, List.map_map]
    exact List.map_id _
  have hlast := Keyed.get?_lastOf ((byTime rs).map fun q => (key q, q)) k
  rw [hvalues] at hlast
  exact isLatest_of_getLast? (hlast.symm.trans hget)

end Keys

/-! ### Groups -/

section Groups

variable (interval : Duration) (anchor : Instant)

/-- The start of the bucket of a record. -/
def startOf (r : Record) : Int := bucketStart interval.micros anchor.micros r.timestamp.micros

/-- The calendar reaches the bucket of a record and the one after it. -/
def Reaches (r : Record) : Prop :=
  firstMicro ≤ startOf interval anchor r ∧ startOf interval anchor r + interval.micros ≤ lastMicro

instance (r : Record) : Decidable (Reaches interval anchor r) := inferInstanceAs (Decidable (_ ∧ _))

/-- The bucket of a record that the calendar reaches. -/
def bucketAt (r : Record) : Instant := (Instant.ofMicros? (startOf interval anchor r)).getD .epoch

/-- What a record is counted under. -/
def keyOf (r : Record) : String × Instant := (r.streamId, bucketAt interval anchor r)

/-- The last record in the order of time for each stream and bucket. -/
def groups (rs : List Record) : Keyed (String × Instant) Record :=
  Keyed.lastOf ((byTime rs).map fun r => (keyOf interval anchor r, r))

variable {interval anchor}

theorem micros_bucketAt (hinterval : 0 < interval.micros) {r : Record} (hr : Reaches interval anchor r) :
    (bucketAt interval anchor r).micros = startOf interval anchor r := by
  have hrange : firstMicro ≤ startOf interval anchor r ∧ startOf interval anchor r ≤ lastMicro := by
    obtain ⟨h1, h2⟩ := hr
    omega
  unfold bucketAt Instant.ofMicros?
  rw [dif_pos hrange]
  rfl

theorem bucketOf_eq (hinterval : 0 < interval.micros) {r : Record} (hr : Reaches interval anchor r) :
    bucketOf r.timestamp interval anchor = .ok (bucketAt interval anchor r) := by
  have hrange : firstMicro ≤ startOf interval anchor r ∧ startOf interval anchor r ≤ lastMicro := by
    obtain ⟨h1, h2⟩ := hr
    omega
  rw [bucketOf_of_range hinterval hrange]
  exact congrArg Except.ok (Instant.eq_of_micros (micros_bucketAt hinterval hr).symm)

theorem nodup_keys_groups (rs : List Record) : (Keyed.keys (groups interval anchor rs)).Nodup :=
  Keyed.nodup_keys_collect _ _ _

/-- There is a group for each stream and bucket of the records. -/
theorem mem_keys_groups {rs : List Record} {k : String × Instant} :
    k ∈ Keyed.keys (groups interval anchor rs) ↔ ∃ r ∈ rs, keyOf interval anchor r = k :=
  mem_keys_lastOf

/-- The record of a group is the latest one of its stream and bucket. -/
theorem isLatest_of_mem_groups {rs : List Record} {k : String × Instant} {r : Record}
    (h : (k, r) ∈ groups interval anchor rs) :
    IsLatest r (rs.filter fun q => keyOf interval anchor q = k) :=
  isLatest_of_mem_lastOf h

/-- Records that have buckets are reduced to the representatives of their groups. -/
theorem reduce_of_buckets {rs : List Record}
    (hrs : ∀ r ∈ rs, bucketOf r.timestamp interval anchor = .ok (bucketAt interval anchor r)) :
    reduce rs interval anchor =
      .ok (((groups interval anchor rs).map .ofGroup).mergeSort Representative.notAfter) := by
  have hplaced : placed interval anchor (byTime rs) =
      .ok ((byTime rs).map fun r => ⟨bucketAt interval anchor r, r⟩) := by
    refine mapM_of_ok fun r hr => ?_
    rw [hrs r (mem_byTime.mp hr)]
    rfl
  unfold reduce
  rw [hplaced]
  show Except.ok (representatives _) = _
  unfold representatives
  rw [List.map_map]
  rfl

/-- Records whose buckets the calendar reaches are reduced to the representatives of their groups. -/
theorem reduce_eq (hinterval : 0 < interval.micros) {rs : List Record}
    (hrs : ∀ r ∈ rs, Reaches interval anchor r) : reduce rs interval anchor =
      .ok (((groups interval anchor rs).map .ofGroup).mergeSort Representative.notAfter) :=
  reduce_of_buckets fun r hr => bucketOf_eq hinterval (hrs r hr)

end Groups

/-! ### The order of representatives -/

theorem Representative.notAfter_iff (a b : Representative) : a.notAfter b = true ↔
    a.streamId < b.streamId ∨ a.streamId = b.streamId ∧ a.interval.micros ≤ b.interval.micros := by
  unfold Representative.notAfter
  rw [decide_eq_true_eq]

theorem Representative.notAfter_trans (a b c : Representative) (hab : a.notAfter b = true)
    (hbc : b.notAfter c = true) : a.notAfter c = true := by
  rw [notAfter_iff] at hab hbc ⊢
  rcases hab with hab | ⟨hab, hab'⟩
  · rcases hbc with hbc | ⟨hbc, -⟩
    · exact .inl (String.lt_trans hab hbc)
    · exact .inl (hbc ▸ hab)
  · rcases hbc with hbc | ⟨hbc, hbc'⟩
    · exact .inl (hab ▸ hbc)
    · exact .inr ⟨hab.trans hbc, Int.le_trans hab' hbc'⟩

theorem Representative.notAfter_total (a b : Representative) : (a.notAfter b || b.notAfter a) = true := by
  rw [Bool.or_eq_true, notAfter_iff, notAfter_iff]
  by_cases hab : a.streamId < b.streamId
  · exact .inl (.inl hab)
  by_cases hba : b.streamId < a.streamId
  · exact .inr (.inl hba)
  have heq : a.streamId = b.streamId := String.le_antisymm (String.not_lt.mp hba) (String.not_lt.mp hab)
  rcases Int.le_total a.interval.micros b.interval.micros with h | h
  · exact .inl (.inr ⟨heq, h⟩)
  · exact .inr (.inr ⟨heq.symm, h⟩)

/-- Sorted representatives stand in the order of their streams. -/
theorem streams_sorted (reps : List Representative) :
    (reps.mergeSort Representative.notAfter).Pairwise fun a b => a.streamId ≤ b.streamId := by
  refine (List.pairwise_mergeSort Representative.notAfter_trans Representative.notAfter_total reps).imp ?_
  intro a b hab
  rw [Representative.notAfter_iff] at hab
  rcases hab with hab | ⟨hab, -⟩
  · exact String.not_lt.mp (String.lt_asymm hab)
  · exact String.not_lt.mp fun hlt => String.lt_irrefl b.streamId (hab ▸ hlt)

end ComplianceHistory.Report
