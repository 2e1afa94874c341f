import CommandAudit.Json
import Mathlib.Data.List.Nodup
import Mathlib.Data.String.Basic

/-!
# Data up to the order of its keys

`JsonValue.SameData` relates values that differ in the order of the fields of their objects only, at
every depth. The normal form of a value has the same data (`sameData_sortKeys`), and values whose
objects have distinct keys have the same data exactly when their normal forms are equal
(`sortKeys_eq_iff`).
-/

namespace CommandAudit

namespace JsonValue

mutual

/-- No object inside the value has a key twice. -/
def DistinctKeys : JsonValue → Prop
  | .array items => DistinctKeysItems items
  | .object fields => (fields.map Prod.fst).Nodup ∧ DistinctKeysFields fields
  | _ => True

/-- No object inside the items has a key twice. -/
def DistinctKeysItems : List JsonValue → Prop
  | [] => True
  | v :: rest => v.DistinctKeys ∧ DistinctKeysItems rest

/-- No object inside the values of the fields has a key twice. -/
def DistinctKeysFields : List (String × JsonValue) → Prop
  | [] => True
  | (_, v) :: rest => v.DistinctKeys ∧ DistinctKeysFields rest

end

mutual

/-- The values are equal up to the order of the fields of objects. -/
inductive SameData : JsonValue → JsonValue → Prop
  | null : SameData .null .null
  | bool (b : Bool) : SameData (.bool b) (.bool b)
  | int (n : Int) : SameData (.int n) (.int n)
  | text (s : String) : SameData (.text s) (.text s)
  | array {items items' : List JsonValue} : SameItems items items' →
      SameData (.array items) (.array items')
  | object {fields fields' : List (String × JsonValue)} : SameFields fields fields' →
      SameData (.object fields) (.object fields')

/-- The items are equal one by one up to the order of the fields of objects. -/
inductive SameItems : List JsonValue → List JsonValue → Prop
  | nil : SameItems [] []
  | cons {v w : JsonValue} {items items' : List JsonValue} : SameData v w →
      SameItems items items' → SameItems (v :: items) (w :: items')

/-- The fields have the same keys with the same data, in any order. -/
inductive SameFields : List (String × JsonValue) → List (String × JsonValue) → Prop
  | nil : SameFields [] []
  | cons {k : String} {v w : JsonValue} {fields before after : List (String × JsonValue)} :
      SameData v w → SameFields fields (before ++ after) →
      SameFields ((k, v) :: fields) (before ++ (k, w) :: after)

end

/-! ## Sorted fields -/

theorem sortKeysFields_eq_map (fields : List (String × JsonValue)) :
    sortKeysFields fields = fields.map fun field => (field.1, field.2.sortKeys) := by
  induction fields with
  | nil => rfl
  | cons field rest ih => rw [sortKeysFields, ih, List.map_cons]

theorem sortKeysFields_append (fields fields' : List (String × JsonValue)) :
    sortKeysFields (fields ++ fields') = sortKeysFields fields ++ sortKeysFields fields' := by
  simp only [sortKeysFields_eq_map, List.map_append]

theorem keys_sortKeysFields (fields : List (String × JsonValue)) :
    (sortKeysFields fields).map Prod.fst = fields.map Prod.fst := by
  rw [sortKeysFields_eq_map, List.map_map]
  rfl

theorem sortFields_perm (fields : List (String × JsonValue)) : (sortFields fields).Perm fields :=
  List.mergeSort_perm _ _

theorem pairwise_sortFields (fields : List (String × JsonValue)) :
    (sortFields fields).Pairwise fun a b => a.1 ≤ b.1 := by
  have htrans : ∀ a b c : String × JsonValue, decide (a.1 ≤ b.1) = true →
      decide (b.1 ≤ c.1) = true → decide (a.1 ≤ c.1) = true := by
    intro a b c hab hbc
    rw [decide_eq_true_eq] at hab hbc ⊢
    exact hab.trans hbc
  have htotal : ∀ a b : String × JsonValue, (decide (a.1 ≤ b.1) || decide (b.1 ≤ a.1)) = true := by
    intro a b
    rw [Bool.or_eq_true, decide_eq_true_eq, decide_eq_true_eq]
    exact le_total a.1 b.1
  exact (List.pairwise_mergeSort htrans htotal fields).imp of_decide_eq_true

theorem sortFields_sortFields (fields : List (String × JsonValue)) :
    sortFields (sortFields fields) = sortFields fields :=
  List.mergeSort_of_pairwise ((pairwise_sortFields fields).imp decide_eq_true)

/-- Sorting forgets the order of fields with distinct keys. -/
theorem sortFields_eq_of_perm {fields fields' : List (String × JsonValue)}
    (hkeys : (fields.map Prod.fst).Nodup) (h : fields.Perm fields') :
    sortFields fields = sortFields fields' := by
  have hperm : (sortFields fields).Perm (sortFields fields') :=
    (sortFields_perm fields).trans (h.trans (sortFields_perm fields').symm)
  refine hperm.eq_of_pairwise ?_ (pairwise_sortFields fields) (pairwise_sortFields fields')
  intro a b ha hb hab hba
  have ha' : a ∈ fields := (sortFields_perm fields).subset ha
  have hb' : b ∈ fields := (sortFields_perm fields).subset (hperm.symm.subset hb)
  exact List.inj_on_of_nodup_map hkeys ha' hb' (le_antisymm hab hba)

/-! ## Normal forms -/

mutual

theorem SameData.sortKeys_eq {v w : JsonValue} (h : SameData v w) (hv : v.DistinctKeys) :
    v.sortKeys = w.sortKeys := by
  cases h with
  | null | bool | int | text => rfl
  | array h => rw [sortKeys, sortKeys, h.sortKeysItems_eq hv]
  | @object fields fields' h =>
    have hkeys : ((sortKeysFields fields).map Prod.fst).Nodup := by
      rw [keys_sortKeysFields]
      exact hv.1
    rw [sortKeys, sortKeys, sortFields_eq_of_perm hkeys (h.sortKeysFields_perm hv.2)]
termination_by sizeOf v

theorem SameItems.sortKeysItems_eq {items items' : List JsonValue} (h : SameItems items items')
    (hitems : DistinctKeysItems items) : sortKeysItems items = sortKeysItems items' := by
  cases h with
  | nil => rfl
  | cons hv hrest =>
    rw [sortKeysItems, sortKeysItems, hv.sortKeys_eq hitems.1, hrest.sortKeysItems_eq hitems.2]
termination_by sizeOf items

theorem SameFields.sortKeysFields_perm {fields fields' : List (String × JsonValue)}
    (h : SameFields fields fields') (hfields : DistinctKeysFields fields) :
    (sortKeysFields fields).Perm (sortKeysFields fields') := by
  cases h with
  | nil => rfl
  | cons hv hrest =>
    rw [sortKeysFields_append, sortKeysFields, sortKeysFields, hv.sortKeys_eq hfields.1]
    refine List.Perm.trans (List.Perm.cons _ ?_) List.perm_middle.symm
    rw [← sortKeysFields_append]
    exact hrest.sortKeysFields_perm hfields.2
termination_by sizeOf fields

end

mutual

theorem sameData_of_sortKeys_eq {v w : JsonValue} (h : v.sortKeys = w.sortKeys) : SameData v w := by
  cases v with
  | null =>
    cases w with
    | null => exact .null
    | _ => simp [sortKeys] at h
  | bool b =>
    cases w with
    | bool b' => exact (JsonValue.bool.inj h) ▸ .bool b
    | _ => simp [sortKeys] at h
  | int n =>
    cases w with
    | int n' => exact (JsonValue.int.inj h) ▸ .int n
    | _ => simp [sortKeys] at h
  | text s =>
    cases w with
    | text s' => exact (JsonValue.text.inj h) ▸ .text s
    | _ => simp [sortKeys] at h
  | array items =>
    cases w with
    | array items' => exact .array (sameItems_of_sortKeysItems_eq (JsonValue.array.inj h))
    | _ => simp [sortKeys] at h
  | object fields =>
    cases w with
    | object fields' =>
      rw [sortKeys, sortKeys] at h
      have hperm := sortFields_perm (sortKeysFields fields')
      rw [← JsonValue.object.inj h] at hperm
      exact .object (sameFields_of_perm ((sortFields_perm _).symm.trans hperm))
    | _ => simp [sortKeys] at h
termination_by sizeOf v

theorem sameItems_of_sortKeysItems_eq {items items' : List JsonValue}
    (h : sortKeysItems items = sortKeysItems items') : SameItems items items' := by
  match items, items' with
  | [], [] => exact .nil
  | [], _ :: _ | _ :: _, [] => simp [sortKeysItems] at h
  | v :: items, w :: items' =>
    obtain ⟨hv, hrest⟩ := List.cons.inj h
    exact .cons (sameData_of_sortKeys_eq hv) (sameItems_of_sortKeysItems_eq hrest)
termination_by sizeOf items

theorem sameFields_of_perm {fields fields' : List (String × JsonValue)}
    (h : (sortKeysFields fields).Perm (sortKeysFields fields')) : SameFields fields fields' := by
  match fields with
  | [] =>
    rw [sortKeysFields, List.nil_perm, sortKeysFields_eq_map, List.map_eq_nil_iff] at h
    exact h ▸ .nil
  | (k, v) :: fields =>
    -- The first field has its partner somewhere, and the other fields are partners in turn.
    have hmem : (k, v.sortKeys) ∈ sortKeysFields fields' := h.subset List.mem_cons_self
    rw [sortKeysFields_eq_map fields', List.mem_map] at hmem
    obtain ⟨⟨k', w⟩, hw, heq⟩ := hmem
    obtain ⟨rfl, hvw⟩ := Prod.mk.inj heq
    obtain ⟨before, after, rfl⟩ := List.append_of_mem hw
    have hrest : (sortKeysFields fields).Perm (sortKeysFields (before ++ after)) := by
      rw [sortKeysFields_append, sortKeysFields, sortKeysFields, hvw] at h
      rw [sortKeysFields_append]
      exact (h.trans List.perm_middle).cons_inv
    exact .cons (sameData_of_sortKeys_eq hvw.symm) (sameFields_of_perm hrest)
termination_by sizeOf fields

end

/-- Values with distinct keys have one normal form exactly if they have the same data. -/
theorem sortKeys_eq_iff {v w : JsonValue} (hv : v.DistinctKeys) :
    v.sortKeys = w.sortKeys ↔ SameData v w :=
  ⟨sameData_of_sortKeys_eq, fun h => h.sortKeys_eq hv⟩

mutual

/-- Normal forms are normal. -/
theorem sortKeys_sortKeys (v : JsonValue) : v.sortKeys.sortKeys = v.sortKeys := by
  cases v with
  | null | bool | int | text => rfl
  | array items => rw [sortKeys, sortKeys, sortKeysItems_sortKeysItems]
  | object fields =>
    have hfixed : sortKeysFields (sortFields (sortKeysFields fields)) =
        sortFields (sortKeysFields fields) := by
      rw [sortKeysFields_eq_map]
      refine (List.map_congr_left fun field hfield => ?_).trans (List.map_id _)
      have h := sortKeys_of_mem_sortKeysFields fields field ((sortFields_perm _).subset hfield)
      rw [h, id]
    rw [sortKeys, sortKeys, hfixed, sortFields_sortFields]
termination_by sizeOf v

theorem sortKeysItems_sortKeysItems (items : List JsonValue) :
    sortKeysItems (sortKeysItems items) = sortKeysItems items := by
  cases items with
  | nil => rfl
  | cons v rest =>
    rw [sortKeysItems, sortKeysItems, sortKeys_sortKeys, sortKeysItems_sortKeysItems]
termination_by sizeOf items

theorem sortKeys_of_mem_sortKeysFields (fields : List (String × JsonValue)) :
    ∀ field ∈ sortKeysFields fields, field.2.sortKeys = field.2 := by
  match fields with
  | [] => simp [sortKeysFields]
  | (k, v) :: rest =>
    rw [sortKeysFields]
    exact List.forall_mem_cons.2 ⟨sortKeys_sortKeys v, sortKeys_of_mem_sortKeysFields rest⟩
termination_by sizeOf fields

end

theorem sameData_sortKeys (v : JsonValue) : SameData v v.sortKeys :=
  sameData_of_sortKeys_eq (sortKeys_sortKeys v).symm

/-! ## Distinct keys -/

theorem distinctKeysFields_iff {fields : List (String × JsonValue)} :
    DistinctKeysFields fields ↔ ∀ field ∈ fields, field.2.DistinctKeys := by
  induction fields with
  | nil => simp [DistinctKeysFields]
  | cons field rest ih => rw [DistinctKeysFields, ih, List.forall_mem_cons]

mutual

theorem DistinctKeys.sortKeys {v : JsonValue} (h : v.DistinctKeys) : v.sortKeys.DistinctKeys := by
  cases v with
  | null | bool | int | text => trivial
  | array items => exact DistinctKeysItems.sortKeysItems h
  | object fields =>
    have hperm := sortFields_perm (sortKeysFields fields)
    refine ⟨?_, ?_⟩
    · rw [(hperm.map Prod.fst).nodup_iff, keys_sortKeysFields]
      exact h.1
    · rw [distinctKeysFields_iff]
      intro field hfield
      exact DistinctKeysFields.sortKeysFields h.2 field (hperm.subset hfield)
termination_by sizeOf v

theorem DistinctKeysItems.sortKeysItems {items : List JsonValue} (h : DistinctKeysItems items) :
    DistinctKeysItems (sortKeysItems items) := by
  cases items with
  | nil => trivial
  | cons v rest => exact ⟨h.1.sortKeys, DistinctKeysItems.sortKeysItems h.2⟩
termination_by sizeOf items

theorem DistinctKeysFields.sortKeysFields {fields : List (String × JsonValue)}
    (h : DistinctKeysFields fields) :
    ∀ field ∈ sortKeysFields fields, field.2.DistinctKeys := by
  match fields with
  | [] => simp [JsonValue.sortKeysFields]
  | (k, v) :: rest =>
    rw [JsonValue.sortKeysFields]
    exact List.forall_mem_cons.2 ⟨h.1.sortKeys, DistinctKeysFields.sortKeysFields h.2⟩
termination_by sizeOf fields

end

/-! ## Data of one shape -/

theorem SameData.eq_of_text {s t : String} (h : SameData (.text s) (.text t)) : s = t := by
  cases h
  rfl

theorem SameData.eq_of_int {m n : Int} (h : SameData (.int m) (.int n)) : m = n := by
  cases h
  rfl

/-- If the data of an item determines it, the data of the items does. -/
theorem SameItems.eq_of_map {α : Type} {f : α → JsonValue} {xs ys : List α}
    (h : SameItems (xs.map f) (ys.map f))
    (hf : ∀ x ∈ xs, ∀ y ∈ ys, SameData (f x) (f y) → x = y) : xs = ys := by
  match xs, ys with
  | [], [] => rfl
  | [], _ :: _ | _ :: _, [] => cases h
  | x :: xs, y :: ys =>
    rw [List.map_cons, List.map_cons] at h
    cases h with
    | cons hx hrest =>
      have hrest : xs = ys := hrest.eq_of_map fun a ha b hb =>
        hf a (List.mem_cons_of_mem x ha) b (List.mem_cons_of_mem y hb)
      rw [hf x List.mem_cons_self y List.mem_cons_self hx, hrest]

theorem SameData.eq_of_map {α : Type} {f : α → JsonValue} {xs ys : List α}
    (h : SameData (.array (xs.map f)) (.array (ys.map f)))
    (hf : ∀ x ∈ xs, ∀ y ∈ ys, SameData (f x) (f y) → x = y) : xs = ys := by
  cases h with
  | array h => exact h.eq_of_map hf

theorem SameFields.keys_perm {fields fields' : List (String × JsonValue)}
    (h : SameFields fields fields') : (fields.map Prod.fst).Perm (fields'.map Prod.fst) := by
  induction fields generalizing fields' with
  | nil =>
    cases h
    rfl
  | cons field rest ih =>
    cases h with
    | @cons _ _ _ _ before after _ hrest =>
      refine List.Perm.trans ((ih hrest).cons _) ?_
      simpa using List.perm_middle.symm

/-- Objects that list their distinct keys in one order have the same data field by field. -/
theorem SameFields.forall₂ {fields fields' : List (String × JsonValue)}
    (h : SameFields fields fields') (hkeys : fields.map Prod.fst = fields'.map Prod.fst)
    (hdistinct : (fields.map Prod.fst).Nodup) :
    List.Forall₂ (fun a b => SameData a.2 b.2) fields fields' := by
  induction fields generalizing fields' with
  | nil =>
    cases h
    exact .nil
  | cons field rest ih =>
    cases h with
    | @cons k v w _ before after hv hrest =>
      cases before with
      | nil =>
        rw [List.nil_append] at hrest
        exact .cons hv (ih hrest (List.cons.inj hkeys).2 hdistinct.of_cons)
      | cons other before =>
        -- The first key of the other object would be a key of the rest.
        have hmem : other.1 ∈ rest.map Prod.fst := hrest.keys_perm.symm.subset (by simp)
        rw [← (List.cons.inj hkeys).1] at hmem
        exact absurd hmem (List.nodup_cons.1 hdistinct).1

theorem SameData.forall₂ {fields fields' : List (String × JsonValue)}
    (h : SameData (.object fields) (.object fields'))
    (hkeys : fields.map Prod.fst = fields'.map Prod.fst)
    (hdistinct : (fields.map Prod.fst).Nodup) :
    List.Forall₂ (fun a b => SameData a.2 b.2) fields fields' := by
  cases h with
  | object h => exact h.forall₂ hkeys hdistinct

end JsonValue

end CommandAudit
