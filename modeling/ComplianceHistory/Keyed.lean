/-!
# Values by key

A finite map that remembers the order in which its keys were first given.  Writing a key that is there
already replaces its value and keeps its place.  `collect` folds the values that a list gives to each key:
the last one, all of them, or their number.
-/

namespace ComplianceHistory

/-- Values by key, in the order in which the keys were first given. -/
abbrev Keyed (κ α : Type) := List (κ × α)

namespace Keyed

variable {κ α β : Type}

/-- The keys in their order. -/
def keys (m : Keyed κ α) : List κ := m.map Prod.fst

@[simp] theorem keys_nil : keys ([] : Keyed κ α) = [] := rfl

@[simp] theorem keys_cons (e : κ × α) (m : Keyed κ α) : keys (e :: m) = e.1 :: keys m := rfl

theorem keys_filter (q : κ → Bool) (m : Keyed κ α) : keys (m.filter fun e => q e.1) = (keys m).filter q := by
  induction m with
  | nil => rfl
  | cons e m ih =>
    rw [List.filter_cons, keys_cons, List.filter_cons, ← ih]
    split <;> rfl

variable [DecidableEq κ]

/-- The value of a key. -/
def get? (m : Keyed κ α) (k : κ) : Option α := m.lookup k

/-- Gives a key a value, at its old place or else at the end. -/
def put : Keyed κ α → κ → α → Keyed κ α
  | [], k, x => [(k, x)]
  | (j, y) :: m, k, x => if j = k then (j, x) :: m else (j, y) :: put m k x

/-- The value of a key after one more value for it: the first one starts, each further one is a step. -/
def next (start : β → α) (step : α → β → α) (old : Option α) (x : β) : α :=
  match old with
  | none => start x
  | some a => step a x

/-- Folds the values of each key into a map. -/
def collectInto (start : β → α) (step : α → β → α) (m : Keyed κ α) (es : List (κ × β)) : Keyed κ α :=
  es.foldl (fun m e => m.put e.1 (next start step (m.get? e.1) e.2)) m

/-- Folds the values of each key, from the first one on. -/
def collect (start : β → α) (step : α → β → α) (es : List (κ × β)) : Keyed κ α :=
  collectInto start step [] es

/-- The last value of each key. -/
def lastOf (es : List (κ × α)) : Keyed κ α := collect id (fun _ x => x) es

/-- All values of each key, in their order. -/
def gather (es : List (κ × α)) : Keyed κ (List α) := collect (fun x => [x]) (fun xs x => xs ++ [x]) es

/-- How often each key is there. -/
def tally (ks : List κ) : Keyed κ Int := collect (fun _ => 1) (fun n _ => n + 1) (ks.map fun k => (k, ()))

/-! ### Looking up and keys -/

@[simp] theorem get?_nil (k : κ) : get? ([] : Keyed κ α) k = none := rfl

theorem get?_cons (e : κ × α) (m : Keyed κ α) (k : κ) :
    get? (e :: m) k = if k = e.1 then some e.2 else get? m k := by
  unfold get?
  rw [List.lookup_cons]
  by_cases h : k = e.1
  · rw [if_pos h, h, BEq.rfl]
  · rw [if_neg h, beq_false_of_ne h]

theorem get?_put (m : Keyed κ α) (k : κ) (x : α) (j : κ) :
    get? (put m k x) j = if j = k then some x else get? m j := by
  induction m with
  | nil => rw [put, get?_cons]
  | cons e m ih =>
    unfold put
    by_cases he : e.1 = k
    · rw [if_pos he, get?_cons, get?_cons, he]
      by_cases hj : j = k <;> simp [hj]
    · rw [if_neg he, get?_cons, get?_cons, ih]
      by_cases hj : j = e.1
      · rw [if_pos hj, if_neg (fun h => he (hj.symm.trans h)), if_pos hj]
      · rw [if_neg hj, if_neg hj]

/-- What is in a map after a value was given is that value or was there before. -/
theorem mem_of_mem_put {m : Keyed κ α} {k : κ} {x : α} {e : κ × α} (h : e ∈ put m k x) : e = (k, x) ∨ e ∈ m := by
  induction m with
  | nil => exact .inl (List.mem_singleton.mp h)
  | cons d m ih =>
    unfold put at h
    by_cases hd : d.1 = k
    · rw [if_pos hd] at h
      rcases List.mem_cons.mp h with rfl | h
      · exact .inl (by rw [hd])
      · exact .inr (List.mem_cons_of_mem d h)
    · rw [if_neg hd] at h
      rcases List.mem_cons.mp h with rfl | h
      · exact .inr List.mem_cons_self
      · exact (ih h).imp_right (List.mem_cons_of_mem d)

theorem keys_put (m : Keyed κ α) (k : κ) (x : α) :
    keys (put m k x) = if k ∈ keys m then keys m else keys m ++ [k] := by
  induction m with
  | nil => rfl
  | cons e m ih =>
    unfold put
    by_cases he : e.1 = k
    · rw [if_pos he, if_pos (by simp [he])]
      rfl
    · rw [if_neg he, keys_cons, ih, keys_cons]
      by_cases hm : k ∈ keys m
      · rw [if_pos hm, if_pos (List.mem_cons_of_mem _ hm)]
      · have hk : k ∉ e.1 :: keys m := by simp [hm, Ne.symm he]
        rw [if_neg hm, if_neg hk]
        rfl

/-- Keys that are not the one that is written are passed over. -/
theorem put_append_of_not_mem {m : Keyed κ α} {k : κ} (h : k ∉ keys m) (m' : Keyed κ α) (x : α) :
    put (m ++ m') k x = m ++ put m' k x := by
  induction m with
  | nil => rfl
  | cons e m ih =>
    rw [keys_cons, List.mem_cons, not_or] at h
    rw [List.cons_append, put, if_neg (fun he => h.1 he.symm), ih h.2]
    rfl

/-- A new key goes to the end. -/
theorem put_of_not_mem (m : Keyed κ α) {k : κ} (x : α) (h : k ∉ keys m) : put m k x = m ++ [(k, x)] := by
  have hput := put_append_of_not_mem h [] x
  rwa [List.append_nil] at hput

theorem get?_append_of_not_mem {m : Keyed κ α} {k : κ} (h : k ∉ keys m) (m' : Keyed κ α) :
    get? (m ++ m') k = get? m' k := by
  induction m with
  | nil => rfl
  | cons e m ih =>
    rw [keys_cons, List.mem_cons, not_or] at h
    rw [List.cons_append, get?_cons, if_neg h.1, ih h.2]

theorem nodup_keys_put {m : Keyed κ α} (h : (keys m).Nodup) (k : κ) (x : α) : (keys (put m k x)).Nodup := by
  rw [keys_put]
  split
  · exact h
  · rename_i hk
    rw [List.nodup_append]
    refine ⟨h, by simp, fun a ha b hb => ?_⟩
    rw [List.mem_singleton.mp hb]
    rintro rfl
    exact hk ha

/-- Looking up a key among those that are kept. -/
theorem get?_filter (q : κ → Bool) (m : Keyed κ α) (k : κ) :
    get? (m.filter fun e => q e.1) k = if q k then get? m k else none := by
  induction m with
  | nil => simp
  | cons e m ih =>
    rw [List.filter_cons, get?_cons]
    by_cases he : k = e.1
    · subst he
      by_cases hq : q e.1 = true
      · rw [if_pos hq, if_pos hq, get?_cons, if_pos rfl, if_pos rfl]
      · rw [if_neg hq, ih]
        simp [hq]
    · rw [if_neg he, ← ih]
      split
      · rw [get?_cons, if_neg he]
      · rfl

theorem mem_of_get? {m : Keyed κ α} {k : κ} {x : α} (h : get? m k = some x) : (k, x) ∈ m := by
  induction m with
  | nil => cases h
  | cons e m ih =>
    rw [get?_cons] at h
    split at h
    · rename_i hk
      obtain rfl := Option.some.inj h
      exact hk ▸ List.mem_cons_self
    · exact List.mem_cons_of_mem _ (ih h)

theorem get?_eq_none {m : Keyed κ α} {k : κ} (h : k ∉ keys m) : get? m k = none := by
  cases hg : get? m k with
  | none => rfl
  | some x => exact absurd (List.mem_map_of_mem (mem_of_get? hg)) h

/-- A map without repeated keys holds what it answers. -/
theorem get?_of_mem {m : Keyed κ α} (hm : (keys m).Nodup) {k : κ} {x : α} (h : (k, x) ∈ m) :
    get? m k = some x := by
  induction m with
  | nil => cases h
  | cons e m ih =>
    rw [keys_cons, List.nodup_cons] at hm
    rw [get?_cons]
    rcases List.mem_cons.mp h with h | h
    · rw [← h, if_pos rfl]
    · have hk : k ∈ keys m := List.mem_map_of_mem h
      have hne : k ≠ e.1 := by
        rintro rfl
        exact hm.1 hk
      rw [if_neg hne, ih hm.2 h]

/-! ### Collected values -/

section Collect

variable (start : β → α) (step : α → β → α)

theorem collectInto_cons (m : Keyed κ α) (e : κ × β) (es : List (κ × β)) :
    collectInto start step m (e :: es) =
      collectInto start step (put m e.1 (next start step (get? m e.1) e.2)) es := rfl

theorem nodup_keys_collectInto {m : Keyed κ α} (h : (keys m).Nodup) (es : List (κ × β)) :
    (keys (collectInto start step m es)).Nodup := by
  induction es generalizing m with
  | nil => exact h
  | cons e es ih => exact ih (nodup_keys_put h _ _)

theorem nodup_keys_collect (es : List (κ × β)) : (keys (collect start step es)).Nodup :=
  nodup_keys_collectInto start step (m := []) List.nodup_nil es

theorem mem_keys_collectInto (m : Keyed κ α) (es : List (κ × β)) (k : κ) :
    k ∈ keys (collectInto start step m es) ↔ k ∈ keys m ∨ k ∈ es.map Prod.fst := by
  induction es generalizing m with
  | nil => simp [collectInto]
  | cons e es ih =>
    rw [collectInto_cons, ih, keys_put, List.map_cons, List.mem_cons]
    split
    · rename_i he
      constructor
      · rintro (h | h)
        · exact Or.inl h
        · exact Or.inr (Or.inr h)
      · rintro (h | rfl | h)
        · exact Or.inl h
        · exact Or.inl he
        · exact Or.inr h
    · rw [List.mem_append, List.mem_singleton, or_assoc]

/-- The keys are those of the list. -/
theorem mem_keys_collect (es : List (κ × β)) (k : κ) :
    k ∈ keys (collect start step es) ↔ k ∈ es.map Prod.fst := by
  rw [collect, mem_keys_collectInto]
  simp

theorem keys_collectInto_sublist (m : Keyed κ α) (es : List (κ × β)) :
    (keys (collectInto start step m es)).Sublist (keys m ++ es.map Prod.fst) := by
  induction es generalizing m with
  | nil => simp [collectInto]
  | cons e es ih =>
    rw [collectInto_cons, List.map_cons]
    refine (ih _).trans ?_
    rw [keys_put]
    split
    · exact List.Sublist.append_left (List.sublist_cons_self _ _) _
    · simp

/-- The keys stand in the order of the list. -/
theorem keys_collect_sublist (es : List (κ × β)) :
    (keys (collect start step es)).Sublist (es.map Prod.fst) :=
  keys_collectInto_sublist start step [] es

/-- The values that a list gives to a key. -/
def valuesOf (es : List (κ × β)) (k : κ) : List β := (es.filter fun e => e.1 = k).map Prod.snd

theorem valuesOf_cons (e : κ × β) (es : List (κ × β)) (k : κ) :
    valuesOf (e :: es) k = if e.1 = k then e.2 :: valuesOf es k else valuesOf es k := by
  unfold valuesOf
  by_cases h : e.1 = k <;> simp [h]

theorem get?_collectInto (m : Keyed κ α) (es : List (κ × β)) (k : κ) :
    get? (collectInto start step m es) k =
      (valuesOf es k).foldl (fun old x => some (next start step old x)) (get? m k) := by
  induction es generalizing m with
  | nil => rfl
  | cons e es ih =>
    rw [collectInto_cons, ih, get?_put, valuesOf_cons]
    by_cases h : e.1 = k
    · rw [if_pos h.symm, if_pos h, h]
      rfl
    · rw [if_neg (Ne.symm h), if_neg h]

theorem foldl_next (xs : List β) (a : α) :
    xs.foldl (fun old x => some (next start step old x)) (some a) = some (xs.foldl step a) := by
  induction xs generalizing a with
  | nil => rfl
  | cons x xs ih => exact ih _

/-- The value of a key is the fold of its values. -/
theorem get?_collect (es : List (κ × β)) (k : κ) :
    get? (collect start step es) k = match valuesOf es k with
      | [] => none
      | x :: xs => some (xs.foldl step (start x)) := by
  rw [collect, get?_collectInto]
  cases valuesOf es k with
  | nil => rfl
  | cons x xs => exact foldl_next start step xs _

/-- The values of a new key, if they stand together, are folded into one entry at the end. -/
theorem collectInto_block {m : Keyed κ α} {k : κ} (h : k ∉ keys m) (x : β) (xs : List β) (es : List (κ × β)) :
    collectInto start step m ((k, x) :: (xs.map fun y => (k, y)) ++ es) =
      collectInto start step (m ++ [(k, xs.foldl step (start x))]) es := by
  have hput : ∀ (a b : α), put (m ++ [(k, a)]) k b = m ++ [(k, b)] := by
    intro a b
    rw [put_append_of_not_mem h]
    simp [put]
  have hget : ∀ a : α, get? (m ++ [(k, a)]) k = some a := by
    intro a
    rw [get?_append_of_not_mem h, get?_cons, if_pos rfl]
  have hrest : ∀ (ys : List β) (a : α), collectInto start step (m ++ [(k, a)]) ((ys.map fun y => (k, y)) ++ es) =
      collectInto start step (m ++ [(k, ys.foldl step a)]) es := by
    intro ys
    induction ys with
    | nil => exact fun _ => rfl
    | cons y ys ih =>
      intro a
      rw [List.map_cons, List.cons_append, collectInto_cons, hget, hput]
      exact ih (step a y)
  rw [List.cons_append, collectInto_cons, get?_eq_none h, put_of_not_mem m _ h]
  exact hrest xs (start x)

/-- Blocks of values of different keys are folded one by one. -/
theorem collect_blocks {γ : Type} (key : γ → κ) (first : γ → β) (more : γ → List β) {bs : List γ}
    (h : (bs.map key).Nodup) :
    collect start step (bs.flatMap fun b => (key b, first b) :: (more b).map fun y => (key b, y)) =
      bs.map fun b => (key b, (more b).foldl step (start (first b))) := by
  have hgeneral : ∀ m : Keyed κ α, (keys m ++ bs.map key).Nodup →
      collectInto start step m (bs.flatMap fun b => (key b, first b) :: (more b).map fun y => (key b, y)) =
        m ++ bs.map fun b => (key b, (more b).foldl step (start (first b))) := by
    clear h
    induction bs with
    | nil =>
      intro m _
      rw [List.map_nil, List.append_nil]
      rfl
    | cons b bs ih =>
      intro m hm
      have hb : key b ∉ keys m := by
        intro hmem
        exact (List.nodup_append.mp hm).2.2 _ hmem _ List.mem_cons_self rfl
      rw [List.flatMap_cons, collectInto_block start step hb, ih]
      · simp
      · simpa [keys] using hm
  exact hgeneral [] h

end Collect

theorem foldl_last (xs : List α) (a : α) : some (xs.foldl (fun _ x => x) a) = (a :: xs).getLast? := by
  induction xs generalizing a with
  | nil => rfl
  | cons x xs ih => exact (ih x).trans (by simp)

theorem get?_lastOf (es : List (κ × α)) (k : κ) : get? (lastOf es) k = (valuesOf es k).getLast? := by
  rw [lastOf, get?_collect]
  cases valuesOf es k with
  | nil => rfl
  | cons x xs => exact foldl_last xs x

theorem foldl_snoc (xs acc : List α) : xs.foldl (fun ys x => ys ++ [x]) acc = acc ++ xs := by
  induction xs generalizing acc with
  | nil => simp
  | cons x xs ih => rw [List.foldl_cons, ih]; simp

theorem get?_gather (es : List (κ × α)) {k : κ} (h : k ∈ es.map Prod.fst) :
    get? (gather es) k = some (valuesOf es k) := by
  rw [gather, get?_collect]
  cases hv : valuesOf es k with
  | nil =>
    obtain ⟨e, he, rfl⟩ := List.mem_map.mp h
    rw [valuesOf, List.map_eq_nil_iff, List.filter_eq_nil_iff] at hv
    exact absurd (decide_eq_true rfl) (hv e he)
  | cons x xs => exact congrArg some (foldl_snoc xs [x])

/-- The values of a map of gathered values are those of the list. -/
theorem mem_gather {es : List (κ × α)} {k : κ} {xs : List α} (h : (k, xs) ∈ gather es) : xs = valuesOf es k := by
  have hget := get?_of_mem (nodup_keys_collect _ _ es) h
  have hk : k ∈ es.map Prod.fst := (mem_keys_collect _ _ es k).mp (List.mem_map_of_mem h)
  have hgather := get?_gather es hk
  rw [gather] at hgather
  rw [hgather] at hget
  exact (Option.some.inj hget).symm

end Keyed

end ComplianceHistory
