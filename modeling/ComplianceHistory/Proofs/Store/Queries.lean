import Mathlib.Tactic.Choose
import ComplianceHistory.Proofs.Filter.Documents
import ComplianceHistory.Proofs.Store.Documents

/-!
# Native queries

A query need not come from a filter.  `IsNative` says which objects are queries at all: the joins `$and` and `$or` over
lists of queries, and names of fields with a value or with the comparisons `$eq` and `$ne`.  `Meets` says what such a
query means, without an order in which its members are looked at.

The evaluation of a native query never fails and tells what the query means (`matches?_tells`); so a collection
answers with the records that meet it, the order of members does not matter at any depth, and a value and its refusal
share the collection out between them (`find_native`).
-/

namespace ComplianceHistory

namespace DocumentQuery

open Value

/-! ### Fields -/

/-- A way of names through objects to a value. -/
inductive Leads : Value → List String → Value → Prop
  | here (v : Value) : Leads v [] v
  | into {fields : Entries Value} {name : String} {inner v : Value} {names : List String}
      (hname : fields.get? name = some inner) (h : Leads inner names v) : Leads (.object fields) (name :: names) v

/-- The names on the way of a path: behind the mark of labels one name, whatever its characters, and else the parts
between the points. -/
inductive Way : String → List String → Prop
  | label (name : String) : Way (labelName name) ["labels", name]
  | dotted {path : String} (hmark : ¬labelMark <+: path.toList) :
      Way path ((path.toList.splitOn '.').map String.ofList)

/-- The value at a path of a document: the one that the path leads to, or null if it leads nowhere. -/
inductive ValueAt (document : Entries Value) (path : String) : Value → Prop
  | there {names : List String} {v : Value} (hway : Way path names) (h : Leads (.object document) names v) :
      ValueAt document path v
  | missing {names : List String} (hway : Way path names) (h : ∀ v, ¬Leads (.object document) names v) :
      ValueAt document path .null

theorem pathParts_eq (cs : List Char) : pathParts cs = cs.splitOn '.' := by
  induction cs with
  | nil => rfl
  | cons c cs ih =>
    rw [pathParts, ih, List.splitOn_cons_eq_if_modifyHead]
    simp only [beq_iff_eq]
    split
    · rfl
    · cases h : cs.splitOn '.' with
      | nil => exact absurd h (List.splitOn_ne_nil _ _)
      | cons part parts => rfl

/-- Null leads nowhere but to itself. -/
theorem valueAt_null (parts : List (List Char)) : valueAt .null parts = .null := by
  cases parts <;> rfl

theorem valueAt_of_some {fields : Entries Value} {part : List Char} {parts : List (List Char)} {inner : Value}
    (hname : fields.get? (String.ofList part) = some inner) :
    valueAt (.object fields) (part :: parts) = valueAt inner parts := by
  simp only [valueAt, member_eq hname]
  cases inner with
  | null => exact (valueAt_null parts).symm
  | _ => rfl

theorem valueAt_of_none {fields : Entries Value} {part : List Char} {parts : List (List Char)}
    (hname : fields.get? (String.ofList part) = none) : valueAt (.object fields) (part :: parts) = .null := by
  simp only [valueAt, member, hname, Option.getD_none]

theorem valueAt_of_leads {parts : List (List Char)} {v w : Value} (h : Leads v (parts.map String.ofList) w) :
    valueAt v parts = w := by
  induction parts generalizing v with
  | nil =>
    cases h
    rfl
  | cons part parts ih =>
    cases h with
    | into hname h => rw [valueAt_of_some hname, ih h]

theorem valueAt_of_not_leads {parts : List (List Char)} {v : Value}
    (h : ∀ w, ¬Leads v (parts.map String.ofList) w) : valueAt v parts = .null := by
  induction parts generalizing v with
  | nil => exact absurd (.here v) (h v)
  | cons part parts ih =>
    cases v with
    | object fields =>
      cases hname : Entries.get? fields (String.ofList part) with
      | none => exact valueAt_of_none hname
      | some inner =>
        rw [valueAt_of_some hname]
        exact ih fun w hw => h w (.into hname hw)
    | _ => rfl

/-- The way of a label's name goes on into the labels of the document. -/
theorem fieldAt_labelName (document : Entries Value) (name : String) :
    fieldAt document (labelName name) = valueAt (.object document) ["labels".toList, name.toList] := by
  have hmark : labelMark.isPrefixOf (labelMark ++ name.toList) = true :=
    List.isPrefixOf_iff_prefix.mpr (List.prefix_append _ _)
  unfold fieldAt
  simp only [toList_labelName, hmark, if_true, List.drop_left, String.ofList_toList, valueAt]
  cases member document "labels" with
  | object labels =>
    simp only
    cases member labels name <;> rfl
  | _ => rfl

theorem fieldAt_of_way {document : Entries Value} {path : String} {names : List String} (h : Way path names) :
    fieldAt document path = valueAt (.object document) (names.map String.toList) := by
  cases h with
  | label name => exact fieldAt_labelName document name
  | dotted hmark =>
    have hno : labelMark.isPrefixOf path.toList = false := by
      rw [Bool.eq_false_iff, Ne, List.isPrefixOf_iff_prefix]
      exact hmark
    unfold fieldAt
    simp only [hno, Bool.false_eq_true, if_false, pathParts_eq, List.map_map]
    congr 1
    exact (List.map_id'' (fun _ => String.toList_ofList) _).symm

theorem exists_way (path : String) : ∃ names, Way path names := by
  by_cases hmark : labelMark <+: path.toList
  · obtain ⟨name, hname⟩ := hmark
    obtain rfl : path = labelName (String.ofList name) :=
      String.toList_injective (by rw [toList_labelName, String.toList_ofList, hname])
    exact ⟨_, .label _⟩
  · exact ⟨_, .dotted hmark⟩

/-- The evaluation looks at the value that the path of a field leads to. -/
theorem valueAt_iff {document : Entries Value} {path : String} {v : Value} :
    ValueAt document path v ↔ v = fieldAt document path := by
  have hnames : ∀ names : List String, (names.map String.toList).map String.ofList = names := fun names => by
    rw [List.map_map]
    exact List.map_id'' (fun _ => String.ofList_toList) _
  constructor
  · intro h
    cases h with
    | there hway h => exact (fieldAt_of_way hway).trans (valueAt_of_leads (by rwa [hnames])) |>.symm
    | missing hway h => exact (fieldAt_of_way hway).trans (valueAt_of_not_leads (by rwa [hnames])) |>.symm
  · rintro rfl
    obtain ⟨names, hway⟩ := exists_way path
    rw [fieldAt_of_way hway]
    by_cases h : ∃ w, Leads (.object document) names w
    · obtain ⟨w, hw⟩ := h
      rw [valueAt_of_leads (w := w) (by rwa [hnames])]
      exact .there hway hw
    · rw [not_exists] at h
      rw [valueAt_of_not_leads (by rwa [hnames])]
      exact .missing hway h

/-! ### Queries and what they mean -/

/-- A value that is no object. -/
def IsPlain (v : Value) : Prop := ∀ fields, v ≠ .object fields

/-- A name that starts with no dollar sign. -/
def IsField (name : String) : Prop := name.toList.head? ≠ some '$'

instance (name : String) : Decidable (IsField name) := inferInstanceAs (Decidable (name.toList.head? ≠ some '$'))

mutual

/-- The objects that are queries. -/
inductive IsNative : Value → Prop
  | members {members : List (String × Value)} (h : ∀ m ∈ members, IsNativeMember m) : IsNative (.object members)

/-- The members of queries. -/
inductive IsNativeMember : String × Value → Prop
  | all {qs : List Value} (h : ∀ q ∈ qs, IsNative q) : IsNativeMember ("$and", .array qs)
  | any {qs : List Value} (h : ∀ q ∈ qs, IsNative q) : IsNativeMember ("$or", .array qs)
  | value {path : String} {v : Value} (hpath : IsField path) (hv : IsPlain v) : IsNativeMember (path, v)
  | comparisons {path : String} {cs : List (String × Value)} (hpath : IsField path)
      (hcs : ∀ c ∈ cs, c.1 = "$eq" ∨ c.1 = "$ne") : IsNativeMember (path, .object cs)

end

section Meets

variable (document : Entries Value)

mutual

/-- A document meets a query if it meets every member. -/
inductive Meets : Value → Prop
  | members {members : List (String × Value)} (h : ∀ m ∈ members, MeetsMember m) : Meets (.object members)

/-- A document meets a join if it meets all or one of the queries, a value if its own one is equal, and comparisons if
its own value is equal to all that are asked for and to none that is refused. -/
inductive MeetsMember : String × Value → Prop
  | all {qs : List Value} (h : ∀ q ∈ qs, Meets q) : MeetsMember ("$and", .array qs)
  | any {qs : List Value} {q : Value} (hq : q ∈ qs) (h : Meets q) : MeetsMember ("$or", .array qs)
  | value {path : String} {v w : Value} (hpath : IsField path) (hw : IsPlain w) (hfield : ValueAt document path v)
      (h : same v w = true) : MeetsMember (path, w)
  | comparisons {path : String} {v : Value} {cs : List (String × Value)} (hpath : IsField path)
      (hfield : ValueAt document path v)
      (hcs : ∀ c ∈ cs, (c.1 = "$eq" → same v c.2 = true) ∧ (c.1 = "$ne" → same v c.2 = false)) :
      MeetsMember (path, .object cs)

end

end Meets

/-! ### Evaluation -/

/-- An evaluation that does not fail and tells whether something is so. -/
def Tells (outcome : Except QueryFault Bool) (p : Prop) : Prop := ∃ b, outcome = .ok b ∧ (b = true ↔ p)

variable {document : Entries Value}

/-- What has to be so as well is looked at if the first is so. -/
theorem Tells.and {first second : Except QueryFault Bool} {p q : Prop} : Tells first p → Tells second q →
    Tells (match first with | .ok true => second | outcome => outcome) (p ∧ q) := by
  rintro ⟨b, rfl, hb⟩ ⟨c, rfl, hc⟩
  cases b with
  | true => exact ⟨c, rfl, by simp [← hb, hc]⟩
  | false => exact ⟨false, rfl, by simp [← hb]⟩

/-- What may be so instead is looked at if the first is not so. -/
theorem Tells.or {first second : Except QueryFault Bool} {p q : Prop} : Tells first p → Tells second q →
    Tells (match first with | .ok false => second | outcome => outcome) (p ∨ q) := by
  rintro ⟨b, rfl, hb⟩ ⟨c, rfl, hc⟩
  cases b with
  | true => exact ⟨true, rfl, by simp [← hb]⟩
  | false => exact ⟨c, rfl, by simp [← hb, hc]⟩

theorem membersMatch?_tells {members : List (String × Value)} {p : String × Value → Prop}
    (h : ∀ m ∈ members, Tells (memberMatches? document m) (p m)) :
    Tells (membersMatch? document members) (∀ m ∈ members, p m) := by
  induction members with
  | nil => exact ⟨true, by rw [membersMatch?], by simp⟩
  | cons m members ih =>
    rw [membersMatch?, List.forall_mem_cons]
    exact (h m List.mem_cons_self).and (ih fun n hn => h n (List.mem_cons_of_mem m hn))

theorem allOf?_tells {qs : List Value} {p : Value → Prop} (h : ∀ q ∈ qs, Tells (matches? document q) (p q)) :
    Tells (allOf? document qs) (∀ q ∈ qs, p q) := by
  induction qs with
  | nil => exact ⟨true, by rw [allOf?], by simp⟩
  | cons q qs ih =>
    rw [allOf?, List.forall_mem_cons]
    exact (h q List.mem_cons_self).and (ih fun r hr => h r (List.mem_cons_of_mem q hr))

theorem anyOf?_tells {qs : List Value} {p : Value → Prop} (h : ∀ q ∈ qs, Tells (matches? document q) (p q)) :
    Tells (anyOf? document qs) (∃ q ∈ qs, p q) := by
  induction qs with
  | nil => exact ⟨false, by rw [anyOf?], by simp⟩
  | cons q qs ih =>
    rw [anyOf?, List.exists_mem_cons_iff]
    exact (h q List.mem_cons_self).or (ih fun r hr => h r (List.mem_cons_of_mem q hr))

/-- The comparisons of a field are looked at up to the first that does not hold. -/
theorem fieldMeets_tells {field : Value} {cs : List (String × Value)} (hcs : ∀ c ∈ cs, c.1 = "$eq" ∨ c.1 = "$ne") :
    Tells (fieldMeets field cs)
      (∀ c ∈ cs, (c.1 = "$eq" → same field c.2 = true) ∧ (c.1 = "$ne" → same field c.2 = false)) := by
  induction cs with
  | nil => exact ⟨true, rfl, by simp⟩
  | cons c cs ih =>
    obtain ⟨operator, operand⟩ := c
    obtain ⟨b, hb, hp⟩ := ih fun d hd => hcs d (List.mem_cons_of_mem _ hd)
    rcases hcs _ List.mem_cons_self with rfl | rfl
    · rw [fieldMeets, if_pos rfl]
      cases hsame : same field operand with
      | true => exact ⟨b, hb, by rw [hp]; simp [hsame]⟩
      | false => exact ⟨false, rfl, by simp [hsame]⟩
    · rw [fieldMeets, if_neg (by decide), if_pos rfl]
      cases hsame : same field operand with
      | true => exact ⟨false, rfl, by simp [hsame]⟩
      | false => exact ⟨b, hb, by rw [hp]; simp [hsame]⟩

theorem IsField.ne {path : String} (h : IsField path) : path ≠ "$and" ∧ path ≠ "$or" :=
  ⟨fun he => h (he ▸ rfl), fun he => h (he ▸ rfl)⟩

/-- The name of a field is evaluated as one. -/
theorem memberMatches?_field {path : String} (h : IsField path) (v : Value) :
    memberMatches? document (path, v) = fieldMatches (fieldAt document path) v := by
  rw [memberMatches?, if_neg h.ne.1, if_neg h.ne.2, if_neg h]

theorem meetsMember_all {qs : List Value} :
    MeetsMember document ("$and", .array qs) ↔ ∀ q ∈ qs, Meets document q := by
  refine ⟨fun h => ?_, .all⟩
  generalize hm : ("$and", Value.array qs) = m at h
  cases h with
  | all h => cases hm; exact h
  | any => exact absurd (Prod.mk.inj hm).1 (by decide)
  | value hpath => exact absurd (Prod.mk.inj hm).1.symm hpath.ne.1
  | comparisons => cases hm

theorem meetsMember_any {qs : List Value} :
    MeetsMember document ("$or", .array qs) ↔ ∃ q ∈ qs, Meets document q := by
  refine ⟨fun h => ?_, fun ⟨q, hq, h⟩ => .any hq h⟩
  generalize hm : ("$or", Value.array qs) = m at h
  cases h with
  | all => exact absurd (Prod.mk.inj hm).1 (by decide)
  | any hq h => cases hm; exact ⟨_, hq, h⟩
  | value hpath => exact absurd (Prod.mk.inj hm).1.symm hpath.ne.2
  | comparisons => cases hm

theorem fieldMatches_plain {v : Value} (hv : IsPlain v) (field : Value) :
    fieldMatches field v = .ok (same field v) := by
  cases v with
  | object fields => exact absurd rfl (hv fields)
  | _ => rfl

mutual

/-- The evaluation of a query does not fail and tells what the query means. -/
theorem matches?_tells {q : Value} (h : IsNative q) : Tells (matches? document q) (Meets document q) := by
  cases h with
  | members h =>
    obtain ⟨b, hb, hp⟩ := membersMatch?_tells fun m hm => memberMatches?_tells (h m hm)
    refine ⟨b, by rw [matches?, hb], hp.trans ⟨.members, fun h => ?_⟩⟩
    cases h with
    | members h => exact h

theorem memberMatches?_tells {m : String × Value} (h : IsNativeMember m) :
    Tells (memberMatches? document m) (MeetsMember document m) := by
  cases h with
  | all h =>
    obtain ⟨b, hb, hp⟩ := allOf?_tells fun q hq => matches?_tells (h q hq)
    refine ⟨b, by rw [memberMatches?, if_pos rfl, allMatch?, hb], hp.trans meetsMember_all.symm⟩
  | any h =>
    obtain ⟨b, hb, hp⟩ := anyOf?_tells fun q hq => matches?_tells (h q hq)
    refine ⟨b, by rw [memberMatches?, if_neg (by decide), if_pos rfl, anyMatches?, hb],
      hp.trans meetsMember_any.symm⟩
  | @value path w hpath hw =>
    refine ⟨_, (memberMatches?_field hpath w).trans (fieldMatches_plain hw _),
      ⟨.value hpath hw (valueAt_iff.mpr rfl), fun h => ?_⟩⟩
    cases h with
    | all => exact absurd rfl hpath.ne.1
    | any => exact absurd rfl hpath.ne.2
    | value _ _ hfield h => rwa [← valueAt_iff.mp hfield]
    | comparisons => exact absurd rfl (hw _)
  | @comparisons path cs hpath hcs =>
    have htells : Tells (fieldMeets (fieldAt document path) cs) _ := fieldMeets_tells hcs
    obtain ⟨b, hb, hp⟩ := htells
    refine ⟨b, (memberMatches?_field hpath _).trans hb,
      hp.trans ⟨.comparisons hpath (valueAt_iff.mpr rfl), fun h => ?_⟩⟩
    cases h with
    | value _ hw => exact absurd rfl (hw _)
    | comparisons _ hfield h => rwa [← valueAt_iff.mp hfield]

end

/-- The queries for a value and for its refusal are each other's opposite. -/
theorem matches?_refusal (document : Entries Value) {path : String} {v : Value} (hpath : IsField path)
    (hv : IsPlain v) : ∃ b, matches? document (.object [(path, v)]) = .ok b ∧
      matches? document (.object [(path, .object [("$ne", v)])]) = .ok !b := by
  refine ⟨same (fieldAt document path) v, ?_, ?_⟩
  · rw [matches?_single, memberMatches?_field hpath, fieldMatches_plain hv]
  · rw [matches?_single, memberMatches?_field hpath, fieldMatches, fieldMeets, if_neg (by decide), if_pos rfl,
      fieldMeets]
    cases same (fieldAt document path) v <;> rfl

/-! ### The order of members -/

/-- Values that differ in the order of the members of objects, at any depth. -/
inductive Reordered : Value → Value → Prop
  | refl (v : Value) : Reordered v v
  | members {fields fields' : Entries Value} (hnames : (Keyed.keys fields).Nodup) (h : fields.Perm fields') :
      Reordered (.object fields) (.object fields')
  | member {before behind : List (String × Value)} {name : String} {v w : Value} (h : Reordered v w) :
      Reordered (.object (before ++ (name, v) :: behind)) (.object (before ++ (name, w) :: behind))
  | item {before behind : List Value} {v w : Value} (h : Reordered v w) :
      Reordered (.array (before ++ v :: behind)) (.array (before ++ w :: behind))
  | trans {u v w : Value} (huv : Reordered u v) (hvw : Reordered v w) : Reordered u w

theorem Reordered.symm {v w : Value} (h : Reordered v w) : Reordered w v := by
  induction h with
  | refl v => exact .refl v
  | members hnames h => exact .members ((h.map Prod.fst).nodup_iff.mp hnames) h.symm
  | member _ ih => exact .member ih
  | item _ ih => exact .item ih
  | trans _ _ ih ih' => exact .trans ih' ih

/-- A list in which one element has been replaced. -/
theorem forall_replaced {α : Type} {p : α → Prop} {before behind : List α} {x y : α}
    (h : ∀ z ∈ before ++ x :: behind, p z) (hxy : p x → p y) : ∀ z ∈ before ++ y :: behind, p z := by
  simp only [List.forall_mem_append, List.forall_mem_cons] at h ⊢
  exact ⟨h.1, hxy h.2.1, h.2.2⟩

theorem sameFields_cons (name : String) (v : Value) (fields gs : List (String × Value)) :
    sameFields ((name, v) :: fields) gs =
      (((Entries.get? gs name).map fun w => same v w).getD false && sameFields fields gs) := by
  unfold Entries.get? Keyed.get?
  rw [sameFields]
  cases gs.lookup name <;> rfl

/-- Equality looks at an object through its number of members and what each name answers. -/
theorem sameFields_congr {fields gs gs' : List (String × Value)}
    (h : ∀ name v, ((Entries.get? gs name).map fun w => same v w) = (Entries.get? gs' name).map fun w => same v w) :
    sameFields fields gs = sameFields fields gs' := by
  induction fields with
  | nil => rw [sameFields, sameFields]
  | cons f fields ih => rw [sameFields_cons, sameFields_cons, h, ih]

theorem same_object_congr {gs gs' : List (String × Value)} (hlength : gs.length = gs'.length)
    (h : ∀ name v, ((Entries.get? gs name).map fun w => same v w) = (Entries.get? gs' name).map fun w => same v w)
    (u : Value) : same u (.object gs) = same u (.object gs') := by
  cases u with
  | object fields => rw [same, same, hlength, sameFields_congr h]
  | _ => rfl

theorem get?_replaced {before behind : List (String × Value)} {name : String} {v w : Value}
    (h : ∀ u, same u v = same u w) (other : String) (u : Value) :
    ((Entries.get? (before ++ (name, v) :: behind) other).map fun x => same u x) =
      (Entries.get? (before ++ (name, w) :: behind) other).map fun x => same u x := by
  unfold Entries.get?
  induction before with
  | nil =>
    rw [List.nil_append, List.nil_append, Keyed.get?_cons, Keyed.get?_cons]
    split
    · rw [Option.map_some, Option.map_some, h]
    · rfl
  | cons e before ih =>
    rw [List.cons_append, List.cons_append, Keyed.get?_cons, Keyed.get?_cons]
    split
    · rfl
    · exact ih

theorem sameAll_replaced {before behind : List Value} {v w : Value} (h : ∀ u, same u v = same u w)
    (us : List Value) : sameAll us (before ++ v :: behind) = sameAll us (before ++ w :: behind) := by
  induction before generalizing us with
  | nil =>
    cases us with
    | nil => rfl
    | cons u us => rw [List.nil_append, List.nil_append, sameAll, sameAll, h]
  | cons x before ih =>
    cases us with
    | nil => rfl
    | cons u us => rw [List.cons_append, List.cons_append, sameAll, sameAll, ih]

theorem same_array_congr {ws ws' : List Value} (h : ∀ us, sameAll us ws = sameAll us ws') (u : Value) :
    same u (.array ws) = same u (.array ws') := by
  cases u with
  | array us => rw [same, same, h]
  | _ => rfl

/-- Equality does not see the order of members. -/
theorem Reordered.same {v w : Value} (h : Reordered v w) (u : Value) : Value.same u v = Value.same u w := by
  induction h generalizing u with
  | refl => rfl
  | @members fields fields' hnames h =>
    refine same_object_congr h.length_eq (fun name v => congrArg _ ?_) u
    have hnames' : (Keyed.keys fields').Nodup := (h.map Prod.fst).nodup_iff.mp hnames
    refine Option.ext fun w => ⟨fun hw => ?_, fun hw => ?_⟩
    · exact Keyed.get?_of_mem hnames' (h.mem_iff.mp (Keyed.mem_of_get? hw))
    · exact Keyed.get?_of_mem hnames (h.mem_iff.mpr (Keyed.mem_of_get? hw))
  | member _ ih => exact same_object_congr (by simp) (get?_replaced ih) u
  | item _ ih => exact same_array_congr (sameAll_replaced ih) u
  | trans _ _ ih ih' => exact (ih u).trans (ih' u)

/-- What a value can be replaced by in a query: by another one that is a query if the value is, and is met if the value
is, as a query of its own and as a member. -/
structure StandsFor (document : Entries Value) (v w : Value) : Prop where
  native : IsNative v → IsNative w
  nativeMember : ∀ name, IsNativeMember (name, v) → IsNativeMember (name, w)
  meets : Meets document v → Meets document w
  meetsMember : ∀ name, MeetsMember document (name, v) → MeetsMember document (name, w)

/-- A value stands for every value that it is a reordering of. -/
theorem Reordered.standsFor {v w : Value} (h : Reordered v w) (document : Entries Value) : StandsFor document v w := by
  induction h with
  | refl => exact ⟨id, fun _ => id, id, fun _ => id⟩
  | @members fields fields' hnames h =>
    refine ⟨fun hv => ?_, fun name hv => ?_, fun hv => ?_, fun name hv => ?_⟩
    · cases hv with
      | members hv => exact .members fun m hm => hv m (h.mem_iff.mpr hm)
    · cases hv with
      | value _ hplain => exact absurd rfl (hplain fields)
      | comparisons hpath hcs => exact .comparisons hpath fun c hc => hcs c (h.mem_iff.mpr hc)
    · cases hv with
      | members hv => exact .members fun m hm => hv m (h.mem_iff.mpr hm)
    · cases hv with
      | value _ hplain => exact absurd rfl (hplain fields)
      | comparisons hpath hfield hcs => exact .comparisons hpath hfield fun c hc => hcs c (h.mem_iff.mpr hc)
  | @member before behind name v w h ih =>
    refine ⟨fun hv => ?_, fun path hv => ?_, fun hv => ?_, fun path hv => ?_⟩
    · cases hv with
      | members hv => exact .members (forall_replaced hv (ih.nativeMember name))
    · cases hv with
      | value _ hplain => exact absurd rfl (hplain _)
      | comparisons hpath hcs => exact .comparisons hpath (forall_replaced hcs id)
    · cases hv with
      | members hv => exact .members (forall_replaced hv (ih.meetsMember name))
    · cases hv with
      | value _ hplain => exact absurd rfl (hplain _)
      | comparisons hpath hfield hcs =>
        exact .comparisons hpath hfield (forall_replaced hcs fun hv => by rwa [← h.same])
  | @item before behind v w h ih =>
    have hplain : IsPlain (.array (before ++ w :: behind)) := nofun
    refine ⟨nofun, fun path hv => ?_, nofun, fun path hv => ?_⟩
    · cases hv with
      | all hv => exact .all (forall_replaced hv ih.native)
      | any hv => exact .any (forall_replaced hv ih.native)
      | value hpath => exact .value hpath hplain
    · cases hv with
      | all hv => exact .all (forall_replaced hv ih.meets)
      | @any _ q hq hv =>
        rcases eq_or_mem_of_mem_replaced (x := w) hq with rfl | hq
        · exact .any (List.mem_append_right _ List.mem_cons_self) (ih.meets hv)
        · exact .any hq hv
      | value hpath _ hfield hsame => exact .value hpath hplain hfield (((Reordered.item h).same _).symm.trans hsame)
  | trans _ _ ih ih' =>
    exact ⟨ih'.native ∘ ih.native, fun name => ih'.nativeMember name ∘ ih.nativeMember name, ih'.meets ∘ ih.meets,
      fun name => ih'.meetsMember name ∘ ih.meetsMember name⟩

end DocumentQuery

namespace Memory

open DocumentQuery

/-! ### Answers -/

/-- Records are chosen by a query that tells of each of them whether it is so. -/
theorem exists_chosen {query : Value} {p : Record → Prop} (h : ∀ r, Tells (matches? r.document query) (p r)) :
    ∃ chosen : Record → Bool, (∀ r, chosen r = true ↔ p r) ∧ ∀ (m : Memory Record) collection,
      m.find (fun r => .ok r.document) query collection = .ok ((m.records collection).filter chosen) := by
  choose chosen hchosen using h
  exact ⟨chosen, fun r => (hchosen r).2, fun m collection => select_eq fun r _ => (hchosen r).1⟩

/--
**Native queries have their logical meaning.**  A query never fails, and a collection answers with exactly the records
that meet it, in its order.  So the order of members does not matter, at any depth, and a value and its refusal share
the collection out between them.
-/
theorem find_native :
    (∀ q, IsNative q → ∃ chosen : Record → Bool, (∀ r, chosen r = true ↔ Meets r.document q) ∧
      ∀ (m : Memory Record) collection,
        m.find (fun r => .ok r.document) q collection = .ok ((m.records collection).filter chosen)) ∧
    (∀ q q', IsNative q → Reordered q q' → ∀ (m : Memory Record) collection,
      m.find (fun r => .ok r.document) q' collection = m.find (fun r => .ok r.document) q collection) ∧
    ∀ path v, IsField path → IsPlain v → ∃ chosen : Record → Bool, ∀ (m : Memory Record) collection,
      m.find (fun r => .ok r.document) (.object [(path, v)]) collection =
        .ok ((m.records collection).filter chosen) ∧
      m.find (fun r => .ok r.document) (.object [(path, .object [("$ne", v)])]) collection =
        .ok ((m.records collection).filter fun r => !chosen r) := by
  refine ⟨fun q hq => exists_chosen fun r => matches?_tells hq, fun q q' hq h m collection => ?_,
    fun path v hpath hv => ?_⟩
  · have htells : ∀ r : Record, Tells (matches? r.document q) (Meets r.document q) := fun r => matches?_tells hq
    have htells' : ∀ r : Record, Tells (matches? r.document q') (Meets r.document q') :=
      fun r => matches?_tells ((h.standsFor []).native hq)
    obtain ⟨chosen, hchosen, hfind⟩ := exists_chosen htells
    obtain ⟨chosen', hchosen', hfind'⟩ := exists_chosen htells'
    have heq : chosen' = chosen := funext fun r => Bool.eq_iff_iff.mpr <|
      (hchosen' r).trans ⟨(h.symm.standsFor _).meets, (h.standsFor _).meets⟩ |>.trans (hchosen r).symm
    rw [hfind, hfind', heq]
  · choose chosen hchosen using fun r : Record => matches?_refusal r.document hpath hv
    exact ⟨chosen, fun m collection => ⟨select_eq fun r _ => (hchosen r).1, select_eq fun r _ => (hchosen r).2⟩⟩

/-- The query for a tier, which is a label with a point in its name. -/
def tierIs (v : Value) : Value := .object [("labels.app.tier", v)]

/-- Records with one tier or without any, whose status is the object and not its text. -/
def tierQuery : Value :=
  .object [("$or", .array [tierIs (.string "$x"), .object [("$or", .array [])], tierIs .null]),
    ("status", .object [("$ne", .string "satisfied"), ("$eq", .object [("state", .string "satisfied")])])]

/-- The same query with its members and its comparisons the other way round. -/
def turnedQuery : Value :=
  .object [("status", .object [("$eq", .object [("state", .string "satisfied")]), ("$ne", .string "satisfied")]),
    ("$or", .array [tierIs (.string "$x"), .object [("$or", .array [])], tierIs .null])]

theorem isNative_tierIs {v : Value} (hv : IsPlain v) : IsNative (tierIs v) :=
  .members fun _ hm => List.mem_singleton.mp hm ▸ .value (by decide) hv

theorem isNative_tierQuery : IsNative tierQuery := by
  refine .members fun m hm => ?_
  simp only [List.mem_cons, List.not_mem_nil, or_false] at hm
  rcases hm with rfl | rfl
  · refine .any fun q hq => ?_
    simp only [List.mem_cons, List.not_mem_nil, or_false] at hq
    rcases hq with rfl | rfl | rfl
    · exact isNative_tierIs nofun
    · exact .members fun _ hm => List.mem_singleton.mp hm ▸ .any nofun
    · exact isNative_tierIs nofun
  · exact .comparisons (by decide) (by decide)

theorem reordered_tierQuery : Reordered tierQuery turnedQuery := by
  have hcomparisons := Reordered.members (by decide)
    (.swap ("$eq", .object [("state", .string "satisfied")]) ("$ne", .string "satisfied") [])
  exact .trans (.members (by decide) (.swap _ _ [])) (@Reordered.member [] _ "status" _ _ hcomparisons)

theorem find_native_tier :
    Store.markedMemory.find (fun r => .ok r.document) tierQuery "results" =
      .ok (Store.markedMemory.records "results") ∧
    (∀ r ∈ Store.markedMemory.records "results", Meets r.document tierQuery) ∧
    Store.markedMemory.find (fun r => .ok r.document) turnedQuery "results" =
      .ok (Store.markedMemory.records "results") ∧
    ∃ chosen, Store.markedMemory.find (fun r => .ok r.document) (tierIs .null) "results" =
        .ok ((Store.markedMemory.records "results").filter chosen) ∧
      Store.markedMemory.find (fun r => .ok r.document) (.object [("labels.app.tier", .object [("$ne", .null)])])
        "results" = .ok ((Store.markedMemory.records "results").filter fun r => !chosen r) := by
  have hall : Store.markedMemory.find (fun r => .ok r.document) tierQuery "results" =
      .ok (Store.markedMemory.records "results") := by rfl
  obtain ⟨chosen, hmeets, hfind⟩ := find_native.1 tierQuery isNative_tierQuery
  have hchosen := List.filter_eq_self.mp (Except.ok.inj ((hfind _ _).symm.trans hall))
  refine ⟨hall, fun r hr => (hmeets r).mp (hchosen r hr), ?_, ?_⟩
  · rw [find_native.2.1 _ _ isNative_tierQuery reordered_tierQuery, hall]
  · obtain ⟨chosen, h⟩ := find_native.2.2 "labels.app.tier" .null (by decide) nofun
    exact ⟨chosen, h Store.markedMemory "results"⟩

end Memory

end ComplianceHistory
