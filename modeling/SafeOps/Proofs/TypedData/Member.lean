import SafeOps.Proofs.Text.Split
import SafeOps.TypedData.Member

/-!
# `SafeOps.Proofs.TypedData.Member`: members read back from a written type

A written type says which members a record has. `membersOf` recovers them as long as the marks
that separate them do not occur inside: no parenthesis in the name of the record, no space or
comma in the type of a member and no comma in its name (`Member.Clear`).
-/

set_option autoImplicit false

namespace SafeOps.TypedData

/-- The member can be told apart from those beside it in a written type. -/
structure Member.Clear (m : Member) : Prop where
  space_not_mem : ' ' ∉ m.type.toList
  comma_not_mem_type : ',' ∉ m.type.toList
  comma_not_mem_name : ',' ∉ m.name.toList

theorem Member.toList_text (m : Member) :
    m.text.toList = m.type.toList ++ ' ' :: m.name.toList := by
  rw [Member.text, String.toList_append, String.toList_append, List.append_assoc]
  rfl

theorem memberOf_text {m : Member} (h : m.Clear) : memberOf m.text.toList = some m := by
  rw [memberOf, m.toList_text, Text.splitOnce_append h.space_not_mem]
  simp only [Option.map_some, String.ofList_toList]

theorem Member.Clear.comma_not_mem {m : Member} (h : m.Clear) : ',' ∉ m.text.toList := by
  rw [m.toList_text, List.mem_append, List.mem_cons]
  rintro (htype | hspace | hname)
  · exact h.comma_not_mem_type htype
  · exact absurd hspace (by decide)
  · exact h.comma_not_mem_name hname

theorem filterMap_memberOf {members : List Member} (h : ∀ m ∈ members, m.Clear) :
    (members.map fun m => m.text.toList).filterMap memberOf = members := by
  induction members with
  | nil => rfl
  | cons m rest ih =>
    have hm := memberOf_text (h m List.mem_cons_self)
    have hrest := ih fun m' hm' => h m' (List.mem_cons_of_mem m hm')
    rw [List.map_cons, List.filterMap_cons_some hm, hrest]

/-- The parentheses of a written type are found around its members. -/
theorem betweenParens_typeText {name : String} (members : List Member) (h : '(' ∉ name.toList) :
    betweenParens (typeText name members).toList
      = List.intercalate [','] (members.map fun m => m.text.toList) := by
  have htext : (typeText name members).toList = name.toList
      ++ '(' :: (List.intercalate [','] (members.map fun m => m.text.toList) ++ [')']) := by
    simp [typeText, String.toList_intercalate, Function.comp_def]
  rw [betweenParens, htext, Text.splitOnce_append h]
  simp

/-- The members of a written type are those it was written with. -/
theorem membersOf_typeText {name : String} {members : List Member} (hname : '(' ∉ name.toList)
    (h : ∀ m ∈ members, m.Clear) : membersOf (typeText name members) = members := by
  rw [membersOf, betweenParens_typeText members hname]
  cases members with
  -- Without members there is one empty piece, which is no member.
  | nil => rfl
  | cons m rest =>
    have hpieces : ∀ piece ∈ (m :: rest).map fun m => m.text.toList, ',' ∉ piece := by
      intro piece hpiece
      obtain ⟨m', hm', rfl⟩ := List.mem_map.mp hpiece
      exact (h m' hm').comma_not_mem
    have hne : (m :: rest).map (fun m => m.text.toList) ≠ [] := List.cons_ne_nil _ _
    rw [Text.splitOn_intercalate hne hpieces]
    exact filterMap_memberOf h

end SafeOps.TypedData
