import SafeOps.Json

/-!
# `SafeOps.Proofs.Json.Members`: looking members up

A key is looked up from the end of an object, so of a repeated key the last member counts.
Sorting the members of an object changes their order, and drops those that did not count.
`lookup_sortedMembers` says that it changes nothing about what is found: the member with a key
is the one there was before, sorted inside. The keys themselves have only one order, so objects
with the same keys have them in the same order once they are sorted (`keys_sortedMembers_congr`).

`AgreesBut` compares two objects in all members but some.
-/

set_option autoImplicit false

namespace SafeOps.Json

/-- What follows a member goes before it. -/
theorem lookup_cons (key k : String) (v : Json) (rest : List (String × Json)) :
    lookup key ((k, v) :: rest) = (lookup key rest).or (if k = key then some v else none) := by
  rw [lookup]
  cases lookup key rest <;> rfl

theorem lookup_append (key : String) (front back : List (String × Json)) :
    lookup key (front ++ back) = (lookup key back).or (lookup key front) := by
  induction front with
  | nil => exact Option.or_none.symm
  | cons m rest ih =>
    obtain ⟨k, v⟩ := m
    rw [List.cons_append, lookup_cons, lookup_cons, ih, Option.or_assoc]

/-- A member that is put in its place is found there, unless its key was there before. -/
theorem lookup_insertMember (key k : String) (v : Json) (members : List (String × Json)) :
    lookup key (insertMember k v members)
      = (lookup key members).or (if k = key then some v else none) := by
  induction members with
  | nil => rfl
  | cons m rest ih =>
    obtain ⟨k', v'⟩ := m
    unfold insertMember
    split
    · exact lookup_cons key k v _
    · split
      · -- The key is there: where it is looked up, what is there is found.
        rename_i heq
        rw [lookup_cons, heq]
        by_cases hk : k' = key
        · simp [hk]
        · simp [hk]
      · rename_i hne
        rw [lookup_cons, lookup_cons, ih, Option.or_assoc, Option.or_assoc]
        congr 1
        by_cases hk : k = key
        · have hk' : k' ≠ key := fun hk' => hne (hk.trans hk'.symm)
          simp [hk, hk']
        · simp [hk]

/-- In a sorted object the same members are found, sorted inside. -/
theorem lookup_sortedMembers (key : String) (members : List (String × Json)) :
    lookup key (sortedMembers members) = (lookup key members).map sorted := by
  induction members with
  | nil => rfl
  | cons m rest ih =>
    obtain ⟨k, v⟩ := m
    rw [sortedMembers, lookup_insertMember, lookup_cons, ih]
    cases lookup key rest with
    | some w => rfl
    | none =>
      by_cases hk : k = key
      · simp [hk]
      · simp [hk]

theorem lookup_of_not_mem {key : String} {members : List (String × Json)}
    (h : key ∉ members.map Prod.fst) : lookup key members = none := by
  induction members with
  | nil => rfl
  | cons m rest ih =>
    obtain ⟨k, v⟩ := m
    rw [List.map_cons, List.mem_cons, not_or] at h
    rw [lookup_cons, ih h.2, if_neg (Ne.symm h.1)]
    rfl

/-- Where keys differ, every member is found. -/
theorem lookup_of_mem {key : String} {value : Json} {members : List (String × Json)}
    (hkeys : (members.map Prod.fst).Nodup) (h : (key, value) ∈ members) :
    lookup key members = some value := by
  induction members with
  | nil => exact absurd h List.not_mem_nil
  | cons m rest ih =>
    obtain ⟨k, v⟩ := m
    obtain ⟨hfirst, hrest⟩ := List.nodup_cons.mp hkeys
    rw [lookup_cons]
    rcases List.mem_cons.mp h with heq | hmem
    · obtain ⟨rfl, rfl⟩ := Prod.mk.inj heq
      rw [lookup_of_not_mem hfirst, if_pos rfl]
      rfl
    · rw [ih hrest hmem]
      rfl

/-! ### Keys -/

theorem mem_keys_insertMember {key k : String} {v : Json} {members : List (String × Json)} :
    key ∈ (insertMember k v members).map Prod.fst ↔ key = k ∨ key ∈ members.map Prod.fst := by
  induction members with
  | nil => exact List.mem_cons
  | cons m rest ih =>
    obtain ⟨k', v'⟩ := m
    unfold insertMember
    split
    · exact List.mem_cons
    · split
      · rename_i heq
        rw [heq]
        exact ⟨Or.inr, fun h => h.elim (fun hk => hk ▸ List.mem_cons_self) id⟩
      · rw [List.map_cons, List.mem_cons, ih, List.map_cons, List.mem_cons]
        exact or_left_comm

/-- A member that is put in its place leaves the keys in order. -/
theorem ascending_insertMember {k : String} {v : Json} {members : List (String × Json)}
    (h : (members.map Prod.fst).Pairwise (· < ·)) :
    ((insertMember k v members).map Prod.fst).Pairwise (· < ·) := by
  induction members with
  | nil => exact List.pairwise_singleton _ k
  | cons m rest ih =>
    obtain ⟨k', v'⟩ := m
    obtain ⟨hfirst, hrest⟩ := List.pairwise_cons.mp h
    unfold insertMember
    split
    · rename_i hlt
      refine List.pairwise_cons.mpr ⟨fun key hkey => ?_, h⟩
      rcases List.mem_cons.mp hkey with rfl | hkey
      · exact hlt
      · exact String.lt_trans hlt (hfirst key hkey)
    · rename_i hge
      split
      · exact h
      · rename_i hne
        refine List.pairwise_cons.mpr ⟨fun key hkey => ?_, ih hrest⟩
        rcases mem_keys_insertMember.mp hkey with rfl | hkey
        · exact Std.lt_of_le_of_ne hge (Ne.symm hne)
        · exact hfirst key hkey

theorem mem_keys_sortedMembers {key : String} {members : List (String × Json)} :
    key ∈ (sortedMembers members).map Prod.fst ↔ key ∈ members.map Prod.fst := by
  induction members with
  | nil => exact Iff.rfl
  | cons m rest ih =>
    rw [sortedMembers, mem_keys_insertMember, ih, List.map_cons, List.mem_cons]

theorem ascending_sortedMembers (members : List (String × Json)) :
    ((sortedMembers members).map Prod.fst).Pairwise (· < ·) := by
  induction members with
  | nil => exact List.Pairwise.nil
  | cons m rest ih => exact ascending_insertMember ih

/-- Objects with the same keys have them in the same order once they are sorted. -/
theorem keys_sortedMembers_congr {members members' : List (String × Json)}
    (h : ∀ key, key ∈ members.map Prod.fst ↔ key ∈ members'.map Prod.fst) :
    (sortedMembers members).map Prod.fst = (sortedMembers members').map Prod.fst := by
  have hnodup : ∀ ms, ((sortedMembers ms).map Prod.fst).Nodup := fun ms =>
    List.Pairwise.imp String.ne_of_lt (ascending_sortedMembers ms)
  have hperm : ((sortedMembers members).map Prod.fst).Perm
      ((sortedMembers members').map Prod.fst) := by
    refine (List.perm_ext_iff_of_nodup (hnodup _) (hnodup _)).mpr fun key => ?_
    rw [mem_keys_sortedMembers, mem_keys_sortedMembers]
    exact h key
  refine hperm.eq_of_pairwise (fun a b _ _ hab hba => ?_) (ascending_sortedMembers _)
    (ascending_sortedMembers _)
  exact absurd (String.lt_trans hab hba) (String.lt_irrefl a)

/-! ### Comparing objects -/

/-- Both values are objects with the same keys in the same order, and the same member is found
for each key that is not exempt. -/
def AgreesBut (exempt : List String) (a b : Json) : Prop :=
  ∃ members members', a = .obj members ∧ b = .obj members'
    ∧ members.map Prod.fst = members'.map Prod.fst
    ∧ ∀ key, key ∉ exempt → lookup key members = lookup key members'

/-- Sorted objects agree if the same keys are in both and the members that are compared are the
same before they are sorted. -/
theorem agreesBut_sorted {exempt : List String} {members members' : List (String × Json)}
    (hkeys : ∀ key, key ∈ members.map Prod.fst ↔ key ∈ members'.map Prod.fst)
    (hvalues : ∀ key, key ∉ exempt → lookup key members = lookup key members') :
    (sorted (.obj members)).AgreesBut exempt (sorted (.obj members')) := by
  refine ⟨sortedMembers members, sortedMembers members', rfl, rfl,
    keys_sortedMembers_congr hkeys, fun key hkey => ?_⟩
  rw [lookup_sortedMembers, lookup_sortedMembers, hvalues key hkey]

/-! ### Items -/

theorem sortedItems_eq_map (items : List Json) : sortedItems items = items.map sorted := by
  induction items with
  | nil => rfl
  | cons j rest ih => rw [sortedItems, ih, List.map_cons]

end SafeOps.Json
