/-!
# Ends of lines

A text file may end its lines by a line feed, a carriage return or both; all are read as line feeds.
-/

namespace ComplianceHistory.Text

/-- A text with every end of a line as a line feed. -/
def plainLines : List Char → List Char
  | [] => []
  | '\r' :: '\n' :: cs => '\n' :: plainLines cs
  | '\r' :: cs => '\n' :: plainLines cs
  | c :: cs => c :: plainLines cs

/-- The parts of a text between line feeds. -/
def splitLines : List Char → List (List Char)
  | [] => [[]]
  | c :: cs => if c = '\n' then [] :: splitLines cs
    else match splitLines cs with
      | [] => [[c]]
      | line :: lines => (c :: line) :: lines

/-- A text without carriage returns has line feeds at the ends of its lines. -/
theorem plainLines_of_not_mem {cs : List Char} (h : '\r' ∉ cs) : plainLines cs = cs := by
  induction cs with
  | nil => rfl
  | cons c cs ih =>
    rw [List.mem_cons, not_or] at h
    rw [plainLines, ih h.2]
    · exact fun _ hc => absurd hc.symm h.1
    · exact fun hc => absurd hc.symm h.1

/-- A text has a first line. -/
theorem exists_splitLines (cs : List Char) : ∃ line lines, splitLines cs = line :: lines := by
  cases cs with
  | nil => exact ⟨[], [], rfl⟩
  | cons c cs =>
    rw [splitLines]
    split
    · exact ⟨_, _, rfl⟩
    · split <;> exact ⟨_, _, rfl⟩

/-- The lines of a text that starts with characters of a line: they stand in front of the first line behind them. -/
theorem splitLines_append {cs : List Char} (h : '\n' ∉ cs) {rest line : List Char} {lines : List (List Char)}
    (hrest : splitLines rest = line :: lines) : splitLines (cs ++ rest) = (cs ++ line) :: lines := by
  induction cs with
  | nil => exact hrest
  | cons c cs ih =>
    rw [List.mem_cons, not_or] at h
    rw [List.cons_append, splitLines, if_neg (Ne.symm h.1), ih h.2]
    rfl

example : plainLines "a\r\nb\rc".toList = "a\nb\nc".toList := by decide

end ComplianceHistory.Text
