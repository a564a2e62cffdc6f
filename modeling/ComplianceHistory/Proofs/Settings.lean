import ComplianceHistory.Proofs.Lists
import ComplianceHistory.Settings

/-!
# Settings that are accepted

The checks of settings refuse what is zero or less (`Settings.check_iff`), and settings that are read from a value
have passed them, with the anchor as it was given (`Settings.checked_of_ofFields`).  Two kinds of numbers pass that
nobody can use: the non-number as the timeout, which is not zero or less since it compares with nothing, and widths of
more seconds than a duration holds (`Settings.ofValue_accepted`).
-/

namespace ComplianceHistory

open Decimal Time

/-! ### Numbers -/

/-- A number is above zero if it is not zero or less, unless it is the non-number. -/
theorem Decimal.zero_lt_iff (x : Float) : 0 < x ↔ ¬x ≤ 0 ∧ x.isNaN = false := by
  have hzero : (0 : Float).toModel.unpack = .zero .positive := rfl
  have hlt : 0 < x ↔ ((0 : Float).toModel.unpack.lt x.toModel.unpack) = true := decide_eq_true_iff
  have hle : x ≤ 0 ↔ (x.toModel.unpack.le (0 : Float).toModel.unpack) = true := decide_eq_true_iff
  have hnan : x.isNaN = x.toModel.unpack.isNaN := rfl
  rw [hlt, hle, hnan, hzero]
  cases x.toModel.unpack with
  | infinity sign => cases sign <;> decide
  | notANumber => decide
  | zero sign => exact iff_of_false nofun fun h => h.1 rfl
  | finite sign mantissa exponent =>
    cases sign with
    | positive => exact iff_of_true rfl ⟨nofun, rfl⟩
    | negative => exact iff_of_false nofun fun h => h.1 rfl

/-- A number is below zero if it is zero or less, and not zero. -/
theorem Decimal.lt_zero_iff (x : Float) : x < 0 ↔ x ≤ 0 ∧ (x == 0) = false := by
  have hzero : (0 : Float).toModel.unpack = .zero .positive := rfl
  have hlt : x < 0 ↔ (x.toModel.unpack.lt (0 : Float).toModel.unpack) = true := decide_eq_true_iff
  have hle : x ≤ 0 ↔ (x.toModel.unpack.le (0 : Float).toModel.unpack) = true := decide_eq_true_iff
  have hbeq : (x == 0) = (x.toModel.unpack.beq (0 : Float).toModel.unpack) := rfl
  rw [hlt, hle, hbeq, hzero]
  cases x.toModel.unpack with
  | infinity sign => cases sign <;> decide
  | notANumber => decide
  | zero sign => exact iff_of_false nofun fun h => nomatch h.2
  | finite sign mantissa exponent =>
    cases sign with
    | positive => exact iff_of_false nofun fun h => nomatch h.1
    | negative => exact iff_of_true rfl ⟨rfl, rfl⟩

/-- Zero is zero or less, whatever its sign. -/
theorem Decimal.le_zero_of_beq {x : Float} (h : (x == 0) = true) : x ≤ 0 := by
  have hzero : (0 : Float).toModel.unpack = .zero .positive := rfl
  have hle : x ≤ 0 ↔ (x.toModel.unpack.le (0 : Float).toModel.unpack) = true := decide_eq_true_iff
  have hbeq : (x == 0) = (x.toModel.unpack.beq (0 : Float).toModel.unpack) := rfl
  rw [hbeq, hzero] at h
  rw [hle, hzero]
  cases hx : x.toModel.unpack with
  | zero sign => rfl
  | notANumber =>
    rw [hx] at h
    cases h
  | infinity sign =>
    rw [hx] at h
    cases sign <;> cases h
  | finite sign mantissa exponent =>
    rw [hx] at h
    cases sign <;> cases h

namespace Time.Duration

/-- The most whole seconds that a duration holds. -/
def maxSeconds : Int := 86399999999999

/-- The duration of a number of seconds above zero is positive. -/
theorem pos_of_ofSeconds {n : Int} (hn : 0 < n) {d : Duration} (h : ofSeconds n = .ok d) : 0 < d.micros := by
  have hmicros : d.micros = n * 1000000 := micros_of_ofMicros h
  omega

/-- A number of seconds above zero has a duration up to the bound. -/
theorem exists_ofSeconds_iff {n : Int} (hn : 0 < n) :
    (∃ d, ofSeconds n = .ok d ∧ 0 < d.micros) ↔ n ≤ maxSeconds := by
  have hday : dayOf (n * microsPerSecond) = n / 86400 := by
    show (n * 1000000).fdiv 86400000000 = _
    rw [Int.fdiv_eq_ediv_of_nonneg _ (by decide)]
    omega
  unfold maxSeconds
  constructor
  · rintro ⟨d, hd, -⟩
    have hrange := d.inRange
    rw [micros_of_ofMicros hd, hday] at hrange
    unfold maxDays at hrange
    omega
  · intro hle
    have hrange : -maxDays ≤ dayOf (n * microsPerSecond) ∧ dayOf (n * microsPerSecond) ≤ maxDays := by
      rw [hday]
      unfold maxDays
      omega
    have hword : ¬(dayOf (n * microsPerSecond) < -0x80000000 ∨ 0x80000000 ≤ dayOf (n * microsPerSecond)) := by
      rw [hday]
      omega
    have hok : ofSeconds n = .ok ⟨n * microsPerSecond, hrange⟩ := by
      unfold ofSeconds ofMicros
      rw [if_neg hword, dif_pos hrange]
    exact ⟨_, hok, pos_of_ofSeconds hn hok⟩

end Time.Duration

/-! ### Checks -/

namespace Draft

variable {name : String}

theorem checkPositive_eq_ok {v : Value} : checkPositive name v = .ok () ↔ isNotPositive? v = some false := by
  unfold checkPositive
  cases isNotPositive? v with
  | none => exact iff_of_false nofun nofun
  | some b => cases b with
    | true => exact iff_of_false nofun nofun
    | false => exact iff_of_true rfl rfl

theorem checkPositive_int_iff {n : Int} : checkPositive name (.int n) = .ok () ↔ 0 < n := by
  rw [checkPositive_eq_ok]
  show some (decide (n ≤ 0)) = some false ↔ 0 < n
  rw [Option.some_inj, decide_eq_false_iff_not, Int.not_le]

theorem checkPositive_float_iff {x : Float} : checkPositive name (.float x) = .ok () ↔ ¬x ≤ 0 := by
  rw [checkPositive_eq_ok]
  show some (decide (x ≤ 0)) = some false ↔ ¬x ≤ 0
  rw [Option.some_inj, decide_eq_false_iff_not]

theorem checkAnchor_string_iff {s : String} : checkAnchor (.string s) = .ok () ↔ ∃ a : Anchor, s = a.name := by
  constructor
  · intro h
    unfold checkAnchor at h
    split at h
    · rename_i heq
      exact ⟨.now, Value.string.inj heq⟩
    · rename_i heq
      exact ⟨.epoch, Value.string.inj heq⟩
    · cases h
  · rintro ⟨a, rfl⟩
    cases a <;> rfl

/-- Settings pass if each of their checks does; without a timeout there is nothing to check of it. -/
theorem check_eq_ok {d : Draft} : d.check = .ok () ↔ checkAnchor d.bucketAnchor = .ok () ∧
    checkPositive "results_interval" d.resultsInterval = .ok () ∧
    checkPositive "findings_interval" d.findingsInterval = .ok () ∧
    (d.storeTimeout = .null ∨ checkPositive "store_timeout" d.storeTimeout = .ok ()) := by
  unfold check
  constructor
  · intro h
    obtain ⟨_, hanchor, h⟩ := bind_eq_ok.mp h
    obtain ⟨_, hresults, h⟩ := bind_eq_ok.mp h
    obtain ⟨_, hfindings, h⟩ := bind_eq_ok.mp h
    refine ⟨hanchor, hresults, hfindings, ?_⟩
    split at h
    · rename_i hnull
      exact .inl hnull
    · exact .inr h
  · rintro ⟨hanchor, hresults, hfindings, htimeout⟩
    refine bind_eq_ok.mpr ⟨(), hanchor, bind_eq_ok.mpr ⟨(), hresults, bind_eq_ok.mpr ⟨(), hfindings, ?_⟩⟩⟩
    split
    · rfl
    · rename_i hgiven
      exact htimeout.resolve_left hgiven

end Draft

namespace Settings

/-- Settings pass their checks if their widths are positive and their timeout is not zero or less. -/
theorem check_iff (s : Settings) : s.draft.check = .ok () ↔
    0 < s.resultsInterval ∧ 0 < s.findingsInterval ∧ ∀ x, s.storeTimeout = some x → ¬x ≤ 0 := by
  have hanchor : Draft.checkAnchor s.draft.bucketAnchor = .ok () :=
    Draft.checkAnchor_string_iff.mpr ⟨s.bucketAnchor, rfl⟩
  have htimeout : (s.draft.storeTimeout = .null ∨ Draft.checkPositive "store_timeout" s.draft.storeTimeout = .ok ()) ↔
      ∀ x, s.storeTimeout = some x → ¬x ≤ 0 := by
    show (optionalFloat s.storeTimeout = .null ∨
      Draft.checkPositive "store_timeout" (optionalFloat s.storeTimeout) = .ok ()) ↔ _
    cases s.storeTimeout with
    | none => exact iff_of_true (.inl rfl) nofun
    | some x =>
      constructor
      · rintro (h | h) y hy
        · cases h
        · cases hy
          exact Draft.checkPositive_float_iff.mp h
      · intro h
        exact .inr (Draft.checkPositive_float_iff.mpr (h x rfl))
  rw [Draft.check_eq_ok, htimeout]
  constructor
  · rintro ⟨-, hresults, hfindings, hpositive⟩
    exact ⟨Draft.checkPositive_int_iff.mp hresults, Draft.checkPositive_int_iff.mp hfindings, hpositive⟩
  · rintro ⟨hresults, hfindings, hpositive⟩
    exact ⟨hanchor, Draft.checkPositive_int_iff.mpr hresults, Draft.checkPositive_int_iff.mpr hfindings, hpositive⟩

/-- A width of zero or less is refused first. -/
theorem check_of_width {s : Settings} (h : s.resultsInterval ≤ 0) :
    s.draft.check = .error (.notPositive "results_interval") := by
  have hanchor : Draft.checkAnchor s.draft.bucketAnchor = .ok () :=
    Draft.checkAnchor_string_iff.mpr ⟨s.bucketAnchor, rfl⟩
  have hwidth : Draft.isNotPositive? s.draft.resultsInterval = some true := congrArg some (decide_eq_true h)
  simp only [Draft.check, hanchor, Draft.checkPositive, hwidth]
  rfl

/-- Of settings with positive widths, a timeout of zero or less is refused. -/
theorem check_of_timeout {s : Settings} {t : Float} (hresults : 0 < s.resultsInterval)
    (hfindings : 0 < s.findingsInterval) (htimeout : s.storeTimeout = some t) (ht : t ≤ 0) :
    s.draft.check = .error (.notPositive "store_timeout") := by
  have hanchor : Draft.checkAnchor s.draft.bucketAnchor = .ok () :=
    Draft.checkAnchor_string_iff.mpr ⟨s.bucketAnchor, rfl⟩
  have hfirst : Draft.checkPositive "results_interval" s.draft.resultsInterval = .ok () :=
    Draft.checkPositive_int_iff.mpr hresults
  have hsecond : Draft.checkPositive "findings_interval" s.draft.findingsInterval = .ok () :=
    Draft.checkPositive_int_iff.mpr hfindings
  have hgiven : s.draft.storeTimeout = .float t := congrArg optionalFloat htimeout
  have hlow : Draft.checkPositive "store_timeout" (.float t) = .error (.notPositive "store_timeout") := by
    have hlow : Draft.isNotPositive? (.float t) = some true := congrArg some (decide_eq_true ht)
    rw [Draft.checkPositive, hlow]
  simp only [Draft.check, hanchor, hfirst, hsecond, hgiven, hlow]
  rfl

section Durations

variable {s : Settings} (h : s.draft.check = .ok ()) {interval : Duration}
include h

/-- The width of the buckets of histories is positive in checked settings. -/
theorem resultsDuration_pos (hinterval : s.resultsDuration = .ok interval) : 0 < interval.micros :=
  Duration.pos_of_ofSeconds (s.check_iff.mp h).1 hinterval

/-- The width of the buckets of histograms is positive in checked settings. -/
theorem findingsDuration_pos (hinterval : s.findingsDuration = .ok interval) : 0 < interval.micros :=
  Duration.pos_of_ofSeconds (s.check_iff.mp h).2.1 hinterval

end Durations

/-! ### Settings that are read -/

/-- The text that is given for the anchor, in lower case. -/
def anchorText (fields : Entries Value) : String :=
  Text.lower ((fields.get? "bucket_anchor").getD (.string "now")).display

/-- What is read is checked with the anchor as it was given; any text but the second name would be the first anchor. -/
theorem ofFields_eq_ok {fields : Entries Value} {s : Settings} (h : ofFields fields = .ok s) :
    Draft.check { s.draft with bucketAnchor := .string (anchorText fields) } = .ok () ∧
    s.bucketAnchor = if anchorText fields = Anchor.epoch.name then .epoch else .now := by
  obtain ⟨_, -, h⟩ := bind_eq_ok.mp h
  obtain ⟨_, -, h⟩ := bind_eq_ok.mp h
  obtain ⟨_, -, h⟩ := bind_eq_ok.mp h
  obtain ⟨_, -, h⟩ := bind_eq_ok.mp h
  obtain ⟨_, -, h⟩ := bind_eq_ok.mp h
  obtain ⟨_, -, h⟩ := bind_eq_ok.mp h
  obtain ⟨_, -, h⟩ := bind_eq_ok.mp h
  obtain ⟨_, hcheck, h⟩ := bind_eq_ok.mp h
  cases h
  exact ⟨hcheck, rfl⟩

/-- Settings that are read have passed their checks, and their anchor is the one that was given. -/
theorem checked_of_ofFields {fields : Entries Value} {s : Settings} (h : ofFields fields = .ok s) :
    s.draft.check = .ok () ∧ anchorText fields = s.bucketAnchor.name := by
  obtain ⟨hcheck, hanchor⟩ := ofFields_eq_ok h
  obtain ⟨a, ha⟩ := Draft.checkAnchor_string_iff.mp (Draft.check_eq_ok.mp hcheck).1
  -- the text is a name, so the anchor that it is turned into has this name
  have hname : anchorText fields = s.bucketAnchor.name := by
    rw [hanchor, ha]
    cases a <;> rfl
  rw [hname] at hcheck
  exact ⟨hcheck, hname⟩

/-- **What accepted settings are.**  Their anchor is named as it was given, and their widths are positive.  Their
timeout is above zero exactly if it is a number at all, and their widths have positive durations exactly if they are
within the bound of durations; the checks ask for neither. -/
theorem ofValue_accepted {v : Value} {s : Settings} (h : ofValue v = .ok s) :
    (∃ fields, v = .object fields ∧ anchorText fields = s.bucketAnchor.name) ∧
    0 < s.resultsInterval ∧ 0 < s.findingsInterval ∧
    (∀ x, s.storeTimeout = some x → (0 < x ↔ x.isNaN = false)) ∧
    ((∃ d, s.resultsDuration = .ok d ∧ 0 < d.micros) ↔ s.resultsInterval ≤ Duration.maxSeconds) ∧
    ((∃ d, s.findingsDuration = .ok d ∧ 0 < d.micros) ↔ s.findingsInterval ≤ Duration.maxSeconds) := by
  cases v with
  | object fields =>
    obtain ⟨hcheck, hname⟩ := checked_of_ofFields h
    obtain ⟨hresults, hfindings, htimeout⟩ := s.check_iff.mp hcheck
    refine ⟨⟨fields, rfl, hname⟩, hresults, hfindings, fun x hx => ?_, Duration.exists_ofSeconds_iff hresults,
      Duration.exists_ofSeconds_iff hfindings⟩
    exact ⟨fun hpos => ((zero_lt_iff x).mp hpos).2, fun hnumber => (zero_lt_iff x).mpr ⟨htimeout x hx, hnumber⟩⟩
  | _ => cases h

/-- Members of settings, some of them written as texts. -/
def written : Entries Value := [("results_interval", .string " 60 "), ("bucket_anchor", .string "EPOCH"),
  ("database", .object [("timeout", .float 1.5)])]

theorem ofValue_accepted_written : ∃ s, ofValue (.object written) = .ok s ∧ s.bucketAnchor = .epoch ∧
    s.storeTimeout = some 1.5 ∧ (0 : Float) < 1.5 ∧ ∃ d, s.resultsDuration = .ok d ∧ 0 < d.micros := by
  obtain ⟨s, hs⟩ : ∃ s, ofValue (.object written) = .ok s := ⟨_, rfl⟩
  obtain ⟨-, -, -, htimeout, hresults, -⟩ := ofValue_accepted hs
  cases hs
  exact ⟨_, rfl, rfl, rfl, (htimeout 1.5 rfl).mpr (by decide +kernel), hresults.mpr (by decide)⟩

/-- The non-number is accepted as a timeout, and so is a width of more seconds than a duration holds. -/
theorem ofValue_unusable :
    (∃ s x, ofValue (.object [("database", .object [("timeout", .string "nan")])]) = .ok s ∧
      s.storeTimeout = some x ∧ ¬0 < x) ∧
    ∃ s e, ofValue (.object [("results_interval", .int 86400000000000)]) = .ok s ∧ s.resultsDuration = .error e := by
  refine ⟨⟨_, 0 / 0, rfl, rfl, by decide +kernel⟩, _, _, rfl, rfl⟩

end Settings

end ComplianceHistory
