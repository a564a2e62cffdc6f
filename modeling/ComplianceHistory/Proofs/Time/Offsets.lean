import ComplianceHistory.Proofs.Time.Limits
import ComplianceHistory.Proofs.Time.RoundTrip

/-!
# The forms of an instant

One instant is told in many ways: as the local time of any offset of whole minutes with the offset behind it, in
universal time with a `Z` or with nothing behind it, as an instant and, if it is a whole second, as a number.  All of
them are the same timestamp (`timestamp_of_forms`).
-/

namespace ComplianceHistory.Time

open Duration

/-! ### Offsets of whole minutes -/

/-- A difference between a local time and universal time: whole minutes, less than a day. -/
structure ZoneOffset where
  minutes : Int
  inRange : -1440 < minutes ∧ minutes < 1440
deriving DecidableEq

namespace ZoneOffset

variable (o : ZoneOffset)

/-- The microseconds that the local time is ahead. -/
def micros : Int := o.minutes * 60 * microsPerSecond

/-- The sign, the hours and the minutes. -/
def text : String :=
  (if o.minutes < 0 then "-" else "+") ++ padded 2 (o.minutes.natAbs / 60) ++ ":" ++ padded 2 (o.minutes.natAbs % 60)

/-- The sign in front of the text. -/
def sign : Char := if o.minutes < 0 then '-' else '+'

theorem text_eq : o.text =
    String.ofList (o.sign :: Iso.hourMinuteChars (o.minutes.natAbs / 60) (o.minutes.natAbs % 60)) := by
  have hsign : (if o.minutes < 0 then "-" else "+").toList = [o.sign] := by
    unfold sign
    split <;> rfl
  have hcolon : ":".toList = [':'] := rfl
  refine String.toList_injective ?_
  simp only [text, Iso.hourMinuteChars, String.toList_append, String.toList_ofList, hsign, hcolon, List.append_assoc,
    List.cons_append, List.nil_append]

/-- The text tells the offset. -/
theorem zone : Iso.Zone (o.sign :: Iso.hourMinuteChars (o.minutes.natAbs / 60) (o.minutes.natAbs % 60))
    (some o.micros) := by
  obtain ⟨hlow, hhigh⟩ := o.inRange
  have hsign : o.sign = '+' ∨ o.sign = '-' := by
    unfold sign
    split
    · exact .inr rfl
    · exact .inl rfl
  have hmicros : (if o.sign = '-' then
        -((o.minutes.natAbs / 60 * 3600 + o.minutes.natAbs % 60 * 60 : Nat) * 1000000 : Int)
      else (o.minutes.natAbs / 60 * 3600 + o.minutes.natAbs % 60 * 60 : Nat) * 1000000) = o.micros := by
    rw [micros, microsPerSecond]
    by_cases hneg : o.minutes < 0
    · rw [sign, if_pos hneg, if_pos rfl]
      omega
    · rw [sign, if_neg hneg, if_neg (by decide)]
      omega
  have hzone := Iso.Zone.signed hsign (show o.minutes.natAbs / 60 < 24 by omega)
    (show o.minutes.natAbs % 60 < 60 by omega)
  rwa [hmicros] at hzone

end ZoneOffset

/-- The local time of an instant, with the offset behind it, names the instant. -/
theorem ofText_offset {t l : Instant} {o : ZoneOffset} (hl : t.add? o.micros = some l) :
    ofText (l.localText ++ o.text) = .ok t := by
  have hmicros := Instant.micros_of_ofMicros? hl
  rw [o.text_eq]
  exact ofText_zone l t o.zone (by rw [Option.getD_some]; omega)

/-! ### Universal time -/

/-- A date and time with nothing behind it is in universal time. -/
theorem ofText_localText (t : Instant) : ofText t.localText = .ok t := by
  have h := ofText_zone t t .absent (Int.sub_zero _).symm
  rwa [String.ofList_nil, String.append_empty] at h

/-- The date and time of an instant has no `Z` that would be replaced. -/
theorem expandZulu_localText (t : Instant) : expandZulu t.localText.toList = t.localText.toList := by
  obtain ⟨n, hour, minute, second, micro, -, -, -, -, -, -, htext, -⟩ := t.toList_localText
  rw [htext]
  exact expandZulu_of_ne fun _ => Iso.not_zulu_of_mem

/-- A `Z` is read as the offset of universal time. -/
theorem ofText_zulu (t : Instant) : ofText (t.localText ++ "Z") = .ok t := by
  have hchars : expandZulu (t.localText ++ "Z").toList = expandZulu t.text.toList := by
    have happend : ∀ cs ds, expandZulu (cs ++ ds) = expandZulu cs ++ expandZulu ds :=
      fun _ _ => List.flatMap_append
    rw [Instant.text_eq, String.toList_append, String.toList_append, happend, happend, expandZulu_localText]
    rfl
  have htext := ofText_text t
  unfold ofText at htext ⊢
  rwa [hchars]

/-! ### Whole seconds -/

/-- A second of the calendar is far from the limits of what is held. -/
theorem ofSecondsAndMicros_zero {n : Int} {t : Instant} :
    ofSecondsAndMicros n 0 = .ok t ↔ Instant.epoch.add? (n * microsPerSecond) = some t := by
  have hadd : Instant.epoch.add? (n * microsPerSecond) = Instant.ofMicros? (n * microsPerSecond + 0) := by
    rw [Instant.add?, Int.add_zero]
    exact congrArg Instant.ofMicros? (Int.zero_add _)
  rw [hadd]
  unfold ofSecondsAndMicros
  constructor
  · intro h
    split at h
    · cases h
    · dsimp only at h
      split at h
      · cases h
      · split at h
        · rename_i u hu
          cases h
          exact hu
        · cases h
  · intro h
    obtain ⟨hlow, hhigh⟩ := t.inRange
    have hmicros := Instant.micros_of_ofMicros? h
    rw [microsPerSecond] at hmicros
    rw [firstMicro] at hlow
    rw [lastMicro] at hhigh
    have hyears : ¬(yearOfSecond n - 1900 < -0x80000000 ∨ 0x80000000 ≤ yearOfSecond n - 1900) := by
      rw [yearOfSecond_held, firstHeld, lastHeld]
      omega
    rw [if_neg (by omega)]
    dsimp only
    rw [if_neg hyears, h]

/-! ### All forms -/

/--
**One instant has one timestamp.**  Whatever the offset of whole minutes, the local time with the offset behind it is
read as the instant, and so are the date and time in universal time with a `Z` or with nothing behind it.  The instant
itself is left as it is, in the text of a record too, and a whole number is the instant that many seconds after the
start of 1970.
-/
theorem timestamp_of_forms (t : Instant) :
    (∀ (o : ZoneOffset) (l : Instant), t.add? o.micros = some l →
      timestamp (.string (l.localText ++ o.text)) = .ok t) ∧
    timestamp (.string (t.localText ++ "Z")) = .ok t ∧
    timestamp (.string t.localText) = .ok t ∧
    timestamp (.string t.text) = .ok t ∧
    timestamp (.moment t) = .ok t ∧
    ∀ n : Int, timestamp (.int n) = .ok t ↔ Instant.epoch.add? (n * microsPerSecond) = some t := by
  have htext : ∀ {s : String}, ofText s = .ok t → timestamp (.string s) = .ok t := id
  have hint : ∀ {n : Int}, (timestamp (.int n) = .ok t ↔ ofSecondsAndMicros n 0 = .ok t) := Iff.rfl
  exact ⟨fun _ _ hl => htext (ofText_offset hl), htext (ofText_zulu t), htext (ofText_localText t),
    htext (ofText_text t), rfl, fun _ => hint.trans ofSecondsAndMicros_zero⟩

/-- The last day of 2023 in the west of the first one of 2024. -/
theorem timestamp_over_year :
    let t : Instant := ⟨1704070800000001, by decide⟩
    let l : Instant := ⟨1704065400000001, by decide⟩
    let o : ZoneOffset := ⟨-90, by decide⟩
    t.add? o.micros = some l ∧ l.localText ++ o.text = "2023-12-31T23:30:00.000001-01:30" ∧
      timestamp (.string (l.localText ++ o.text)) = .ok t := by
  intro t l o
  have hl : t.add? o.micros = some l := rfl
  exact ⟨hl, by decide +kernel, (timestamp_of_forms t).1 o l hl⟩

end ComplianceHistory.Time
