import Mathlib.Algebra.Ring.Int.Defs
import ComplianceHistory.Keyed

/-!
# Counting in values by key

Every value that is collected for a key adds one to a weight, so the weights add up to the number of values
(`Keyed.weights_collect`): no value is lost or doubled among gathered ones, and the numbers of a tally, each of which
says how often its key is there, add up to the length of the list.
-/

namespace ComplianceHistory.Keyed

variable {κ α β : Type} [DecidableEq κ]

section Weights

variable (start : β → α) (step : α → β → α) (weight : α → Int)

/-- One more value for a key adds one to the weights, if it does so to the weight of its key. -/
theorem weights_put (hstart : ∀ x, weight (start x) = 1) (hstep : ∀ a x, weight (step a x) = weight a + 1)
    (m : Keyed κ α) (k : κ) (x : β) :
    ((put m k (next start step (get? m k) x)).map fun e => weight e.2).sum =
      (m.map fun e => weight e.2).sum + 1 := by
  induction m with
  | nil =>
    show weight (start x) + 0 = 0 + 1
    rw [hstart]
    rfl
  | cons e m ih =>
    obtain ⟨j, a⟩ := e
    rw [get?_cons]
    by_cases he : k = j
    · rw [if_pos he, put, if_pos he.symm, List.map_cons, List.sum_cons, List.map_cons, List.sum_cons]
      show weight (step a x) + _ = weight a + _ + 1
      rw [hstep]
      omega
    · rw [if_neg he, put, if_neg (Ne.symm he), List.map_cons, List.sum_cons, ih, List.map_cons, List.sum_cons]
      omega

/-- The weights of collected values add up to the number of values. -/
theorem weights_collect (hstart : ∀ x, weight (start x) = 1) (hstep : ∀ a x, weight (step a x) = weight a + 1)
    (es : List (κ × β)) : ((collect start step es).map fun e => weight e.2).sum = es.length := by
  have hinto : ∀ m : Keyed κ α, ((collectInto start step m es).map fun e => weight e.2).sum =
      (m.map fun e => weight e.2).sum + es.length := by
    induction es with
    | nil => intro m; simp [collectInto]
    | cons e es ih =>
      intro m
      rw [collectInto_cons, ih, weights_put start step weight hstart hstep, List.length_cons]
      omega
  rw [collect, hinto]
  simp

end Weights

/-- No value is lost or doubled. -/
theorem length_values_gather (es : List (κ × α)) : ((gather es).flatMap Prod.snd).length = es.length := by
  have hweights : ((gather es).map fun e => (e.2.length : Int)).sum = es.length :=
    weights_collect _ _ (fun xs : List α => (xs.length : Int)) (fun _ => rfl) (fun xs x => by simp) es
  have hlength : ∀ m : Keyed κ (List α), ((m.flatMap Prod.snd).length : Int) = (m.map fun e => (e.2.length : Int)).sum := by
    intro m
    induction m with
    | nil => rfl
    | cons e m ih =>
      rw [List.flatMap_cons, List.length_append, List.map_cons, List.sum_cons, ← ih]
      omega
  have := hlength (gather es)
  omega

/-! ### Numbers of keys -/

/-- The number of a key is how often it is there. -/
theorem get?_tally (ks : List κ) (k : κ) :
    get? (tally ks) k = if k ∈ ks then some (ks.count k : Int) else none := by
  have hvalues : valuesOf (ks.map fun k => (k, ())) k = List.replicate (ks.count k) () := by
    induction ks with
    | nil => rfl
    | cons j ks ih =>
      rw [List.map_cons, valuesOf_cons, ih]
      by_cases h : j = k
      · rw [if_pos h, h, List.count_cons_self]
        rfl
      · rw [if_neg h, List.count_cons_of_ne h]
  have hfold : ∀ (xs : List Unit) (n : Int), xs.foldl (fun n _ => n + 1) n = n + xs.length := by
    intro xs
    induction xs with
    | nil => simp
    | cons x xs ih =>
      intro n
      rw [List.foldl_cons, ih, List.length_cons]
      omega
  rw [tally, get?_collect, hvalues]
  by_cases h : k ∈ ks
  · have hpos := List.count_pos_iff.mpr h
    obtain ⟨n, hn⟩ : ∃ n, ks.count k = n + 1 := ⟨ks.count k - 1, by omega⟩
    rw [if_pos h, hn, List.replicate_succ]
    show some (List.foldl _ 1 _) = _
    rw [hfold, List.length_replicate]
    congr 1
    omega
  · rw [if_neg h, List.count_eq_zero.mpr h]
    rfl

theorem mem_tally {ks : List κ} {k : κ} {n : Int} : (k, n) ∈ tally ks ↔ k ∈ ks ∧ n = ks.count k := by
  constructor
  · intro h
    have hget := get?_of_mem (nodup_keys_collect _ _ _) h
    have htally := get?_tally ks k
    rw [tally] at htally
    rw [htally] at hget
    by_cases hk : k ∈ ks
    · rw [if_pos hk] at hget
      exact ⟨hk, (Option.some.inj hget).symm⟩
    · rw [if_neg hk] at hget
      cases hget
  · rintro ⟨hk, rfl⟩
    refine mem_of_get? ?_
    rw [get?_tally, if_pos hk]

theorem mem_keys_tally {ks : List κ} {k : κ} : k ∈ keys (tally ks) ↔ k ∈ ks := by
  rw [tally, mem_keys_collect, List.map_map]
  simp

/-- The numbers add up to the length of the list. -/
theorem sum_tally (ks : List κ) : ((tally ks).map Prod.snd).sum = ks.length := by
  have hweights := weights_collect (fun _ : Unit => (1 : Int)) (fun n _ => n + 1) (fun n => n) (fun _ => rfl)
    (fun _ _ => rfl) (ks.map fun k => (k, ()))
  rw [List.length_map] at hweights
  exact hweights

end ComplianceHistory.Keyed
