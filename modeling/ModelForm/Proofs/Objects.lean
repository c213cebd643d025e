import ModelForm.Json.Value
import Mathlib.Data.List.Induction
import Mathlib.Data.String.Basic

/-!
Objects as maps. The members of an object stand in strictly ascending order of their
keys, and insertion keeps that. In this order a member is found exactly if it is there,
and an object is determined by what can be looked up in it.
-/

namespace ModelForm

def insertKey (key : String) : List String → List String
  | [] => [key]
  | k :: rest =>
    if k = key then k :: rest else if key < k then key :: k :: rest else k :: insertKey key rest

theorem mem_insertKey (key k : String) (keys : List String) :
    k ∈ insertKey key keys ↔ k = key ∨ k ∈ keys := by
  induction keys with
  | nil => simp [insertKey]
  | cons k₀ rest ih =>
    unfold insertKey
    split_ifs with heq hlt
    · subst heq
      simp
    · exact List.mem_cons
    · rw [List.mem_cons, ih, List.mem_cons, or_left_comm]

theorem pairwise_insertKey (key : String) (keys : List String) (h : keys.Pairwise (· < ·)) :
    (insertKey key keys).Pairwise (· < ·) := by
  induction keys with
  | nil => exact List.pairwise_singleton _ _
  | cons k rest ih =>
    obtain ⟨hhead, hrest⟩ := List.pairwise_cons.mp h
    unfold insertKey
    split_ifs with heq hlt
    · exact h
    · refine List.pairwise_cons.mpr ⟨?_, h⟩
      exact List.forall_mem_cons.mpr ⟨hlt, fun k' hk' => lt_trans hlt (hhead k' hk')⟩
    · have hgt : k < key := lt_of_le_of_ne (not_lt.mp hlt) heq
      refine List.pairwise_cons.mpr ⟨?_, ih hrest⟩
      intro k' hk'
      rcases (mem_insertKey key k' rest).mp hk' with rfl | hk'
      · exact hgt
      · exact hhead k' hk'

namespace Object

def Ascending (o : Object) : Prop := o.keys.Pairwise (· < ·)

theorem ascending_nil : Ascending [] := List.Pairwise.nil

theorem ascending_cons (k : String) (v : Json) (rest : Object) :
    Ascending ((k, v) :: rest) ↔ (∀ k' ∈ keys rest, k < k') ∧ Ascending rest := by
  simp only [Ascending, keys, List.map_cons, List.pairwise_cons]

theorem keys_insert (o : Object) (key : String) (value : Json) :
    (o.insert key value).keys = insertKey key o.keys := by
  induction o with
  | nil => rfl
  | cons member rest ih =>
    obtain ⟨k, v⟩ := member
    simp only [keys] at ih
    unfold insert
    simp only [keys, List.map_cons, insertKey]
    split_ifs with heq hlt
    · rw [List.map_cons, heq]
    · rw [List.map_cons, List.map_cons]
    · rw [List.map_cons, ih]

theorem ascending_insert (o : Object) (key : String) (value : Json) (h : o.Ascending) :
    (o.insert key value).Ascending := by
  unfold Ascending
  rw [keys_insert]
  exact pairwise_insertKey key o.keys h

theorem mem_of_get?_eq_some (o : Object) (key : String) (value : Json)
    (h : o.get? key = some value) : (key, value) ∈ o := by
  induction o with
  | nil => simp [get?] at h
  | cons member rest ih =>
    obtain ⟨k, v⟩ := member
    by_cases hk : k = key
    · subst hk
      simp only [get?, if_true, Option.some.injEq] at h
      simp [h]
    · simp only [get?, hk, if_false] at h
      exact List.mem_cons_of_mem _ (ih h)

/-- In ascending order each member is the first one with its key. -/
theorem get?_eq_some_iff (o : Object) (ho : o.Ascending) (key : String) (value : Json) :
    o.get? key = some value ↔ (key, value) ∈ o := by
  refine ⟨mem_of_get?_eq_some o key value, ?_⟩
  induction o with
  | nil => simp
  | cons member rest ih =>
    obtain ⟨k, v⟩ := member
    obtain ⟨hhead, hrest⟩ := (ascending_cons k v rest).mp ho
    intro hmem
    rcases List.mem_cons.mp hmem with heq | hmem
    · obtain ⟨rfl, rfl⟩ := Prod.mk.inj heq
      simp [get?]
    · have hlt : k < key := hhead key (List.mem_map_of_mem (f := Prod.fst) hmem)
      simpa [get?, ne_of_lt hlt] using ih hrest hmem

theorem nodup_of_ascending (o : Object) (h : o.Ascending) : o.Nodup := by
  refine (List.pairwise_map.mp h).imp ?_
  rintro a b hlt rfl
  exact lt_irrefl _ hlt

/-- What can be looked up determines an object. -/
theorem ext_get? (o p : Object) (ho : o.Ascending) (hp : p.Ascending)
    (h : ∀ key, o.get? key = p.get? key) : o = p := by
  have hsub : o.Perm p := by
    refine (List.perm_ext_iff_of_nodup (nodup_of_ascending o ho) (nodup_of_ascending p hp)).mpr ?_
    rintro ⟨key, value⟩
    rw [← get?_eq_some_iff o ho, ← get?_eq_some_iff p hp, h key]
  refine List.Perm.eq_of_pairwise ?_ (List.pairwise_map.mp ho) (List.pairwise_map.mp hp) hsub
  intro a b _ _ hab hba
  exact absurd (lt_trans hab hba) (lt_irrefl _)

/-- Putting back what a key holds changes nothing. -/
theorem insert_of_get?_eq_some (o : Object) (ho : o.Ascending) (key : String) (value : Json)
    (h : o.get? key = some value) : o.insert key value = o := by
  refine ext_get? _ _ (ascending_insert o key value ho) ho ?_
  intro k
  by_cases hk : k = key
  · rw [hk, get?_insert_self, h]
  · exact get?_insert_of_ne o value hk

/-- Removing a key that holds nothing changes nothing. -/
theorem erase_of_get?_eq_none (o : Object) (key : String) (h : o.get? key = none) :
    o.erase key = o := by
  induction o with
  | nil => rfl
  | cons member rest ih =>
    obtain ⟨k, v⟩ := member
    by_cases hk : k = key
    · simp [get?, hk] at h
    · simp only [get?, hk, if_false] at h
      simpa [erase, hk] using ih h

section OfList

variable (members : List (String × Json))

theorem ofList_append_singleton (key : String) (value : Json) :
    ofList (members ++ [(key, value)]) = (ofList members).insert key value := by
  simp [ofList]

theorem ascending_ofList : (ofList members).Ascending := by
  induction members using List.reverseRecOn with
  | nil => exact ascending_nil
  | append_singleton front member ih =>
    obtain ⟨key, value⟩ := member
    rw [ofList_append_singleton]
    exact ascending_insert _ key value ih

/-- Members with distinct keys are those of the object made from them. -/
theorem get?_ofList_eq_some_iff (hkeys : (members.map Prod.fst).Nodup) (key : String)
    (value : Json) : (ofList members).get? key = some value ↔ (key, value) ∈ members := by
  induction members using List.reverseRecOn with
  | nil => simp [ofList, get?]
  | append_singleton front member ih =>
    obtain ⟨k, v⟩ := member
    simp only [List.map_append, List.map_cons, List.map_nil, List.nodup_append] at hkeys
    obtain ⟨hfront, _, hnew⟩ := hkeys
    rw [ofList_append_singleton, List.mem_append, List.mem_singleton]
    by_cases hk : key = k
    · subst hk
      have hnot : (key, value) ∉ front := by
        intro hmem
        have hkey : key ∈ front.map Prod.fst := List.mem_map_of_mem (f := Prod.fst) hmem
        exact hnew key hkey key (List.mem_singleton_self _) rfl
      rw [get?_insert_self]
      simp [hnot, eq_comm]
    · rw [get?_insert_of_ne _ _ hk, ih hfront]
      simp [hk]

/-- Making an object of members with distinct keys only puts them in order. -/
theorem perm_ofList (hkeys : (members.map Prod.fst).Nodup) : (ofList members).Perm members := by
  have hmembers : members.Nodup :=
    (List.pairwise_map.mp hkeys).imp fun hne heq => hne (congrArg Prod.fst heq)
  have hnodup := nodup_of_ascending _ (ascending_ofList members)
  refine (List.perm_ext_iff_of_nodup hnodup hmembers).mpr ?_
  rintro ⟨key, value⟩
  rw [← get?_eq_some_iff _ (ascending_ofList members), get?_ofList_eq_some_iff members hkeys]

end OfList

theorem ofList_eq_self (o : Object) (h : o.Ascending) : ofList o = o := by
  have hkeys : (o.map Prod.fst).Nodup := h.imp ne_of_lt
  refine List.Perm.eq_of_pairwise ?_ (List.pairwise_map.mp (ascending_ofList o))
    (List.pairwise_map.mp h) (perm_ofList o hkeys)
  intro a b _ _ hab hba
  exact absurd (lt_trans hab hba) (lt_irrefl _)

end Object

end ModelForm
