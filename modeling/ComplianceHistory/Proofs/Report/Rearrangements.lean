import ComplianceHistory.Proofs.Report.Buckets
import ComplianceHistory.Proofs.Report.Histograms
import ComplianceHistory.Proofs.Report.Streams

/-!
# Records in another order

A store may give records in any order, and all that reports keep of it is which of the records of one stream and one
time comes last.  For whether a record is the latest one of its bucket or stream is told by the latest time, for which
the order does not count, and by the records of that time (`isLatest_iff`).  So the last records of all keys are the
same in any order that keeps these (`lastOf_perm`), and they are sorted by their keys, none of which is there twice:
`reports_rearranged`.
-/

namespace ComplianceHistory.Report

open Time

/-- Records of one stream and one time. -/
def Tied (q r : Record) : Prop := q.streamId = r.streamId ∧ q.timestamp = r.timestamp

instance (q r : Record) : Decidable (Tied q r) := inferInstanceAs (Decidable (_ ∧ _))

/-- The same records in another order, in which those of one stream and one time keep theirs. -/
structure Rearranged (rs rs' : List Record) : Prop where
  perm : rs.Perm rs'
  ties : ∀ r ∈ rs, (rs.filter fun q => Tied q r) = rs'.filter fun q => Tied q r

/-! ### The latest record -/

/-- The latest record is the last one of its time, and no record is later. -/
theorem isLatest_iff {r : Record} {rs : List Record} : IsLatest r rs ↔
    (rs.filter fun q => q.timestamp = r.timestamp).getLast? = some r ∧
      ∀ q ∈ rs, q.timestamp.micros ≤ r.timestamp.micros := by
  constructor
  · intro h
    refine ⟨?_, fun q hq => h.le hq⟩
    obtain ⟨before, after, rfl, -, hafter⟩ := h
    have hnone : after.filter (fun q => q.timestamp = r.timestamp) = [] := by
      refine List.filter_eq_nil_iff.mpr fun q hq htime => ?_
      have hlt := hafter q hq
      rw [of_decide_eq_true htime] at hlt
      omega
    rw [List.filter_append, List.filter_cons, if_pos (decide_eq_true rfl), hnone, List.getLast?_append]
    rfl
  · rintro ⟨hlast, hle⟩
    obtain ⟨front, hfront⟩ := List.getLast?_eq_some_iff.mp hlast
    obtain ⟨before, rest, rfl, -, hrest⟩ := List.filter_eq_append_iff.mp hfront
    obtain ⟨between, after, rfl, -, -, hnone⟩ := List.filter_eq_cons_iff.mp hrest
    refine ⟨before ++ between, after, (List.append_assoc _ _ _).symm, fun q hq => hle q ?_, fun q hq => ?_⟩
    · rcases List.mem_append.mp hq with hq | hq
      · exact List.mem_append_left _ hq
      · exact List.mem_append_right _ (List.mem_append_left _ hq)
    · -- what stands behind the last record of the time is of another time
      have htime : q.timestamp ≠ r.timestamp := fun heq =>
        List.filter_eq_nil_iff.mp hnone q hq (decide_eq_true heq)
      have hmicros : q.timestamp.micros ≠ r.timestamp.micros := fun heq => htime (Instant.eq_of_micros heq)
      have := hle q (by simp [hq])
      omega

namespace Rearranged

variable {rs rs' : List Record} (h : Rearranged rs rs')
include h

protected theorem symm : Rearranged rs' rs :=
  ⟨h.perm.symm, fun r hr => (h.ties r (h.perm.mem_iff.mpr hr)).symm⟩

/-- The latest record of some records of one stream is the same in both orders. -/
theorem isLatest {p : Record → Bool} {r : Record} (hp : ∀ q, p q = true → q.streamId = r.streamId)
    (hr : IsLatest r (rs.filter p)) : IsLatest r (rs'.filter p) := by
  have hmem : r ∈ rs := (List.mem_filter.mp hr.mem).1
  have hties : ∀ xs : List Record, (xs.filter p).filter (fun q => q.timestamp = r.timestamp) =
      (xs.filter fun q => Tied q r).filter p := by
    intro xs
    rw [List.filter_filter, List.filter_filter]
    refine List.filter_congr fun q _ => ?_
    cases hq : p q with
    | false => rw [Bool.and_false, Bool.false_and]
    | true => simp [Tied, hp q hq]
  rw [isLatest_iff] at hr ⊢
  obtain ⟨hlast, hle⟩ := hr
  refine ⟨?_, fun q hq => hle q ((h.perm.filter p).mem_iff.mpr hq)⟩
  rw [hties, ← h.ties r hmem, ← hties]
  exact hlast

section Keys

variable {κ : Type} [DecidableEq κ] {key : Record → κ} (hkey : ∀ q r, key q = key r → q.streamId = r.streamId)
include hkey

theorem mem_lastOf {k : κ} {r : Record} (hr : (k, r) ∈ Keyed.lastOf ((byTime rs).map fun q => (key q, q))) :
    (k, r) ∈ Keyed.lastOf ((byTime rs').map fun q => (key q, q)) := by
  have hlatest := isLatest_of_mem_lastOf hr
  obtain ⟨hmem, hk⟩ := List.mem_filter.mp hlatest.mem
  have hlatest' : IsLatest r (rs'.filter fun q => key q = k) := by
    refine h.isLatest (fun q hq => hkey q r ?_) hlatest
    rw [of_decide_eq_true hq, of_decide_eq_true hk]
  -- the other list has a record for the key, too, and there is one latest record
  have hkeys : k ∈ Keyed.keys (Keyed.lastOf ((byTime rs').map fun q => (key q, q))) :=
    mem_keys_lastOf.mpr ⟨r, h.perm.mem_iff.mp hmem, of_decide_eq_true hk⟩
  obtain ⟨⟨k', r'⟩, hr', rfl⟩ := List.mem_map.mp hkeys
  obtain rfl := (isLatest_of_mem_lastOf hr').unique hlatest'
  exact hr'

/-- **The last records of the keys are the same ones in both orders**, if every key belongs to one stream. -/
theorem lastOf_perm : (Keyed.lastOf ((byTime rs).map fun r => (key r, r))).Perm
    (Keyed.lastOf ((byTime rs').map fun r => (key r, r))) := by
  have hnodup : ∀ xs : List Record, (Keyed.lastOf ((byTime xs).map fun r => (key r, r))).Nodup := fun xs =>
    List.Nodup.of_map Prod.fst (Keyed.nodup_keys_collect _ _ _)
  refine (List.perm_ext_iff_of_nodup (hnodup rs) (hnodup rs')).mpr fun e => ⟨?_, ?_⟩
  · exact h.mem_lastOf hkey
  · exact h.symm.mem_lastOf hkey

end Keys

/-! ### Reports -/

/-- The latest records of all streams do not depend on the order. -/
theorem latestPerStream_eq : latestPerStream rs' = latestPerStream rs := by
  have hperm : (latestOf rs).Perm (latestOf rs') := h.lastOf_perm fun _ _ hid => hid
  have hsorted := mergeSort_names_eq (Keyed.nodup_keys_collect _ _ _) hperm
  unfold latestPerStream
  exact (congrArg (List.map Prod.snd) hsorted).symm

variable (interval : Duration) (anchor : Instant)

/-- The representatives of the groups stand in one order. -/
theorem sortedGroups_eq :
    ((groups interval anchor rs').map .ofGroup).mergeSort Representative.notAfter =
      ((groups interval anchor rs).map .ofGroup).mergeSort Representative.notAfter := by
  have hperm : (groups interval anchor rs).Perm (groups interval anchor rs') :=
    h.lastOf_perm fun _ _ hkey => congrArg Prod.fst hkey
  refine (mergeSort_eq_of_perm Representative.notAfter_trans Representative.notAfter_total ?_
    (hperm.map Representative.ofGroup)).symm
  intro a ha b hb hab hba
  obtain ⟨g, hg, rfl⟩ := List.mem_map.mp ha
  obtain ⟨g', hg', rfl⟩ := List.mem_map.mp hb
  -- neither is behind the other only if both have one stream and one bucket, and there is one group for them
  have hkeys : g.1 = g'.1 := by
    rw [Representative.notAfter_iff] at hab hba
    rcases hab with hab | ⟨hstream, hle⟩
    · rcases hba with hba | ⟨hstream, -⟩
      · exact absurd hba (String.lt_asymm hab)
      · rw [hstream] at hab
        exact absurd hab (String.lt_irrefl _)
    · rcases hba with hba | ⟨-, hge⟩
      · rw [hstream] at hba
        exact absurd hba (String.lt_irrefl _)
      · exact Prod.ext hstream (Instant.eq_of_micros (Int.le_antisymm hle hge))
  exact congrArg Representative.ofGroup (List.inj_on_of_nodup_map (nodup_keys_groups rs) hg hg' hkeys)

omit h in
/-- Records have their buckets, or the one fault that there is for the width. -/
theorem exists_fault : ∃ e, ∀ r : Record,
    bucketOf r.timestamp interval anchor = .ok (bucketAt interval anchor r) ∨
      bucketOf r.timestamp interval anchor = .error e := by
  by_cases hinterval : 0 < interval.micros
  · refine ⟨.outOfRange, fun r => ?_⟩
    rw [bucketOf_of_pos hinterval]
    show instantOf (startOf interval anchor r) = _ ∨ instantOf (startOf interval anchor r) = _
    unfold instantOf bucketAt
    cases Instant.ofMicros? (startOf interval anchor r) with
    | none => exact .inr rfl
    | some b => exact .inl rfl
  · refine ⟨.notPositive interval, fun r => .inr ?_⟩
    unfold bucketOf Width.ofDuration
    rw [dif_neg hinterval]

/-- A reduction does not depend on the order, nor does its fault. -/
theorem reduce_eq : reduce rs' interval anchor = reduce rs interval anchor := by
  obtain ⟨e, hcases⟩ := exists_fault interval anchor
  by_cases hall : ∀ r ∈ rs, bucketOf r.timestamp interval anchor = .ok (bucketAt interval anchor r)
  · rw [reduce_of_buckets hall, reduce_of_buckets fun r hr => hall r (h.perm.mem_iff.mpr hr),
      h.sortedGroups_eq interval anchor]
  · -- one record without a bucket is enough for either order
    simp only [not_forall] at hall
    obtain ⟨r, hr, hnone⟩ := hall
    have hfault := (hcases r).resolve_left hnone
    have hfails : ∀ xs : List Record, r ∈ xs → reduce xs interval anchor = .error e := by
      intro xs hmem
      have hplaced : placed interval anchor (byTime xs) = .error e := by
        refine mapM_of_error (fun q _ e' hq => ?_) ⟨r, mem_byTime.mpr hmem, by rw [hfault]; rfl⟩
        rcases hcases q with hok | herror
        · rw [hok] at hq
          cases hq
        · rw [herror] at hq
          cases hq
          rfl
      unfold reduce
      rw [hplaced]
      rfl
    rw [hfails rs' (h.perm.mem_iff.mp hr), hfails rs hr]

end Rearranged

/-- **Reports depend on the order of records through ties only.**  If the same records are given in another order, in
which those of one stream and one time keep theirs, then for every width and anchor the reduction, the histories and
the histogram are the same, or fail in the same way, and so are the latest records of the streams.  They do not fail
if the width is positive and the calendar reaches the buckets of the records and the ones after them. -/
theorem reports_rearranged {rs rs' : List Record} (h : Rearranged rs rs') (interval : Duration) (anchor : Instant) :
    reduce rs' interval anchor = reduce rs interval anchor ∧
    histories rs' interval anchor = histories rs interval anchor ∧
    histogram rs' interval anchor = histogram rs interval anchor ∧
    latestPerStream rs' = latestPerStream rs ∧
    (0 < interval.micros → (∀ r ∈ rs, Reaches interval anchor r) →
      ∃ reps reports states, reduce rs interval anchor = .ok reps ∧ histories rs interval anchor = .ok reports ∧
        histogram rs interval anchor = .ok states) := by
  have hreduce := h.reduce_eq interval anchor
  refine ⟨hreduce, ?_, ?_, h.latestPerStream_eq, fun hinterval hrs => ?_⟩
  · rw [histories, histories, hreduce]
  · rw [histogram, histogram, hreduce]
  · obtain ⟨reports, hreports, -⟩ := exists_histories hinterval hrs
    obtain ⟨states, hstates, -⟩ := exists_histogram hinterval hrs
    exact ⟨_, reports, states, reduce_eq hinterval hrs, hreports, hstates⟩

/-- The sightings in another order, in which the two of one stream and one time stand as they did. -/
def shuffledSightings : List Record := match sightings with
  | [late, early, other, again] => [other, early, again, late]
  | rs => rs

theorem reports_rearranged_sightings : ∃ reps reports states,
    reduce shuffledSightings hour halfPast = .ok reps ∧ reduce sightings hour halfPast = .ok reps ∧
    histories shuffledSightings hour halfPast = .ok reports ∧ histories sightings hour halfPast = .ok reports ∧
    histogram shuffledSightings hour halfPast = .ok states ∧ histogram sightings hour halfPast = .ok states ∧
    latestPerStream shuffledSightings = latestPerStream sightings := by
  have hreaches : ∀ r ∈ sightings, Reaches hour halfPast r := forall_of_all (by decide +kernel)
  have hrearranged : Rearranged sightings shuffledSightings := ⟨by decide +kernel, forall_of_all (by decide +kernel)⟩
  obtain ⟨hreduce, hhistories, hhistogram, hlatest, hall⟩ := reports_rearranged hrearranged hour halfPast
  obtain ⟨reps, reports, states, hreps, hreports, hstates⟩ := hall (by decide) hreaches
  exact ⟨reps, reports, states, hreduce.trans hreps, hreps, hhistories.trans hreports, hreports,
    hhistogram.trans hstates, hstates, hlatest⟩

end ComplianceHistory.Report
