import Mathlib.Data.List.Induction
import SafeOps.Signature

/-!
# `SafeOps.Proofs.Signature.Collection`: what is in a set of signatures

A set of signatures holds one per owner. `mem_add_iff` says what adding a signature does: it
is in the set afterwards, and of the others those of other owners are. So a set holds the last
signature of each owner that was added (`mem_ofList_iff`, `exists_signer_ofList`). What is in a set
determines it (`ext_of_mem`), so the order in which signatures of different owners were added
cannot be told from it (`ofList_of_perm`).

Of each owner at most one signature is found (`filter_signer_entries`): the last that was added,
or the one there was before (`get?_foldl_add`). A set is known by what is found in it
(`ext_of_get?`).
-/

set_option autoImplicit false

namespace SafeOps

theorem signer_ne_of_lt {s t : OwnerSignature} (h : s.signer.bits < t.signer.bits) :
    s.signer ≠ t.signer := by
  intro heq
  rw [heq] at h
  exact BitVec.lt_irrefl _ h

/-- What is among ascending signatures after one is put in its place. -/
theorem mem_insertSignature_iff {s u : OwnerSignature} {ts : List OwnerSignature}
    (h : Ascending ts) :
    u ∈ insertSignature s ts ↔ u = s ∨ (u ∈ ts ∧ u.signer ≠ s.signer) := by
  induction ts with
  | nil => simp [insertSignature]
  | cons t ts ih =>
    obtain ⟨hfirst, hrest⟩ := List.pairwise_cons.mp h
    have hafter : ∀ v ∈ ts, v.signer ≠ t.signer := fun v hv => (signer_ne_of_lt (hfirst v hv)).symm
    unfold insertSignature
    split
    · -- The signature comes first, so nothing among `t :: ts` is of its owner.
      rename_i hlt
      have hother : ∀ v ∈ t :: ts, v.signer ≠ s.signer := by
        intro v hv
        rcases List.mem_cons.mp hv with rfl | hv
        · exact (signer_ne_of_lt hlt).symm
        · exact (signer_ne_of_lt (BitVec.lt_trans hlt (hfirst v hv))).symm
      rw [List.mem_cons]
      exact or_congr_right (iff_self_and.mpr fun hu => hother u hu)
    · split
      · -- The signature takes the place of `t`.
        rename_i heq
        rw [List.mem_cons]
        refine or_congr_right ⟨fun hu => ⟨List.mem_cons_of_mem t hu, ?_⟩, fun hu => ?_⟩
        · rw [heq]
          exact hafter u hu
        · rcases List.mem_cons.mp hu.1 with rfl | hmem
          · exact absurd heq.symm hu.2
          · exact hmem
      · -- The signature belongs behind `t`.
        rename_i hne
        have ht : t.signer ≠ s.signer := fun heq => hne heq.symm
        rw [List.mem_cons, List.mem_cons, ih hrest]
        constructor
        · rintro (rfl | rfl | ⟨hu, huse⟩)
          · exact Or.inr ⟨Or.inl rfl, ht⟩
          · exact Or.inl rfl
          · exact Or.inr ⟨Or.inr hu, huse⟩
        · rintro (rfl | ⟨rfl | hu, huse⟩)
          · exact Or.inr (Or.inl rfl)
          · exact Or.inl rfl
          · exact Or.inr (Or.inr ⟨hu, huse⟩)

/-- Of the owner of a signature that was put in its place there is that one and no other. -/
theorem filter_signer_insertSignature {s : OwnerSignature} {ts : List OwnerSignature}
    (h : Ascending ts) : (insertSignature s ts).filter (fun u => u.signer = s.signer) = [s] := by
  -- Behind the place of `s` all signatures are of other owners.
  have hfound : ∀ us : List OwnerSignature, (∀ u ∈ us, s.signer.bits < u.signer.bits) →
      (s :: us).filter (fun u => u.signer = s.signer) = [s] := by
    intro us hus
    have hothers : us.filter (fun u => u.signer = s.signer) = [] := by
      refine List.filter_eq_nil_iff.mpr fun u hu => ?_
      rw [decide_eq_true_iff]
      exact (signer_ne_of_lt (hus u hu)).symm
    simp [hothers]
  induction ts with
  | nil => exact hfound [] nofun
  | cons t ts ih =>
    obtain ⟨hfirst, hrest⟩ := List.pairwise_cons.mp h
    unfold insertSignature
    split
    · rename_i hlt
      refine hfound (t :: ts) fun u hu => ?_
      rcases List.mem_cons.mp hu with rfl | hu
      · exact hlt
      · exact BitVec.lt_trans hlt (hfirst u hu)
    · split
      · rename_i heq
        refine hfound ts fun u hu => ?_
        rw [heq]
        exact hfirst u hu
      · rename_i hne
        have ht : ¬ t.signer = s.signer := fun heq => hne heq.symm
        simpa [List.filter_cons, ht] using ih hrest

/-- The signatures of other owners stay as they are. -/
theorem filter_other_insertSignature (s : OwnerSignature) (ts : List OwnerSignature) :
    (insertSignature s ts).filter (fun u => u.signer ≠ s.signer)
      = ts.filter (fun u => u.signer ≠ s.signer) := by
  induction ts with
  | nil => simp [insertSignature]
  | cons t ts ih =>
    unfold insertSignature
    split
    · simp
    · split
      · rename_i heq
        simp [heq]
      · rw [List.filter_cons, List.filter_cons, ih]

namespace SignatureSet

/-- After a signature was added the set holds it, and what it held of other owners. -/
theorem mem_add_iff {set : SignatureSet} {s u : OwnerSignature} :
    u ∈ (set.add s).entries ↔ u = s ∨ (u ∈ set.entries ∧ u.signer ≠ s.signer) :=
  mem_insertSignature_iff set.ascending

theorem ofList_concat (signatures : List OwnerSignature) (s : OwnerSignature) :
    ofList (signatures ++ [s]) = (ofList signatures).add s := by
  simp [ofList]

/-- Of signatures that were added one after another the last one of each owner is there. -/
theorem mem_ofList_iff {signatures : List OwnerSignature} {s : OwnerSignature} :
    s ∈ (ofList signatures).entries ↔
      ∃ before after, signatures = before ++ s :: after ∧ ∀ t ∈ after, t.signer ≠ s.signer := by
  induction signatures using List.reverseRecOn with
  | nil => simp [ofList, empty]
  | append_singleton signatures u ih =>
    rw [ofList_concat, mem_add_iff, ih]
    constructor
    · rintro (rfl | ⟨⟨before, after, rfl, hafter⟩, hne⟩)
      · exact ⟨signatures, [], rfl, fun t ht => absurd ht List.not_mem_nil⟩
      · refine ⟨before, after ++ [u], by simp, fun t ht => ?_⟩
        rcases List.mem_append.mp ht with ht | ht
        · exact hafter t ht
        · rw [List.mem_singleton.mp ht]
          exact hne.symm
    · rintro ⟨before, after, heq, hafter⟩
      -- Either nothing follows `s` in the list, or `u` is the last that does.
      rcases List.eq_nil_or_concat after with rfl | ⟨rest, v, rfl⟩
      · exact Or.inl (List.append_inj_right' heq rfl |> List.singleton_inj.mp).symm
      · rw [List.concat_eq_append] at heq hafter
        rw [← List.cons_append, ← List.append_assoc] at heq
        obtain ⟨hsignatures, huv⟩ := List.append_inj' heq rfl
        rw [List.singleton_inj] at huv
        refine Or.inr ⟨⟨before, rest, hsignatures, fun t ht => ?_⟩, ?_⟩
        · exact hafter t (List.mem_append_left _ ht)
        · rw [huv]
          exact (hafter v (List.mem_append_right _ (List.mem_singleton_self v))).symm

/-- A set is known by what is in it, since its signatures have only one order. -/
theorem ext_of_mem {a b : SignatureSet} (h : ∀ s, s ∈ a.entries ↔ s ∈ b.entries) : a = b := by
  have hnodup : ∀ set : SignatureSet, set.entries.Nodup := fun set =>
    set.ascending.imp fun hlt heq => signer_ne_of_lt hlt (congrArg OwnerSignature.signer heq)
  have hperm : a.entries.Perm b.entries :=
    (List.perm_ext_iff_of_nodup (hnodup a) (hnodup b)).mpr h
  have hentries : a.entries = b.entries := by
    refine hperm.eq_of_pairwise (fun s t _ _ hst hts => ?_) a.ascending b.ascending
    exact absurd (BitVec.lt_trans hst hts) (BitVec.lt_irrefl _)
  cases a
  cases b
  cases hentries
  rfl

/-- The signatures of a set give it again, in whatever order they are added. -/
theorem ofList_of_perm {set : SignatureSet} {signatures : List OwnerSignature}
    (h : signatures.Perm set.entries) : ofList signatures = set := by
  have hordered : set.entries.Pairwise fun s t => t.signer ≠ s.signer :=
    set.ascending.imp fun hlt => (signer_ne_of_lt hlt).symm
  have hdistinct : signatures.Pairwise fun s t => t.signer ≠ s.signer :=
    (h.pairwise_iff fun hne => hne.symm).mpr hordered
  refine ext_of_mem fun s => ?_
  rw [mem_ofList_iff, ← h.mem_iff]
  constructor
  · rintro ⟨before, after, rfl, -⟩
    exact List.mem_append_right before List.mem_cons_self
  · intro hs
    obtain ⟨before, after, rfl⟩ := List.append_of_mem hs
    obtain ⟨-, htail, -⟩ := List.pairwise_append.mp hdistinct
    exact ⟨before, after, rfl, (List.pairwise_cons.mp htail).1⟩

/-! ### Looking signatures up -/

/-- Among the signatures of a set those of an owner are the one that is found, or none. -/
theorem filter_signer_entries (set : SignatureSet) (owner : Address) :
    set.entries.filter (fun u => u.signer = owner) = (set.get? owner).toList := by
  cases hfound : set.get? owner with
  | none =>
    have hnone : ∀ u ∈ set.entries, ¬ u.signer = owner := by
      simpa [get?, List.find?_eq_none] using hfound
    simpa [List.filter_eq_nil_iff] using hnone
  | some s =>
    rw [get?, List.find?_eq_some_iff_append] at hfound
    obtain ⟨howner, before, after, hentries, hbefore⟩ := hfound
    rw [decide_eq_true_iff] at howner
    -- The owners ascend, so behind the first signature of an owner there is no other.
    have hascending : Ascending (before ++ s :: after) := hentries ▸ set.ascending
    have hfollowing := (List.pairwise_cons.mp (List.pairwise_append.mp hascending).2.1).1
    have hafter : ∀ u ∈ after, ¬ u.signer = owner := fun u hu heq =>
      signer_ne_of_lt (hfollowing u hu) (howner.trans heq.symm)
    have hempty : before.filter (fun u => u.signer = owner) = [] := by
      simpa [List.filter_eq_nil_iff] using hbefore
    have hempty' : after.filter (fun u => u.signer = owner) = [] := by
      simpa [List.filter_eq_nil_iff] using hafter
    simp [hentries, hempty, hempty', howner]

/-- A signature is in a set if it is the one that is found for its owner. -/
theorem mem_entries_iff {set : SignatureSet} {s : OwnerSignature} :
    s ∈ set.entries ↔ set.get? s.signer = some s := by
  have hfilter : s ∈ set.entries ↔ s ∈ set.entries.filter (fun u => u.signer = s.signer) := by
    simp
  rw [hfilter, filter_signer_entries, Option.mem_toList]

/-- A set is known by the signatures that are found in it. -/
theorem ext_of_get? {a b : SignatureSet} (h : ∀ owner, a.get? owner = b.get? owner) : a = b :=
  ext_of_mem fun s => by rw [mem_entries_iff, mem_entries_iff, h]

theorem get?_add (set : SignatureSet) (s : OwnerSignature) (owner : Address) :
    (set.add s).get? owner = if s.signer = owner then some s else set.get? owner := by
  by_cases howner : s.signer = owner
  · rw [if_pos howner, ← howner, get_add]
  · -- The owner's signature is not among those of the other, which were all that changed.
    have hothers : ∀ ts : List OwnerSignature, ts.find? (fun u => u.signer = owner)
        = (ts.filter (fun u => u.signer ≠ s.signer)).find? (fun u => u.signer = owner) := by
      intro ts
      rw [List.find?_filter]
      congr 1
      funext u
      by_cases hu : u.signer = owner
      · simp [hu, Ne.symm howner]
      · simp [hu]
    rw [if_neg howner, get?, get?, hothers, add, filter_other_insertSignature, ← hothers]

/-- The last signature of an owner among those that were added. -/
def latest (owner : Address) (signatures : List OwnerSignature) : Option OwnerSignature :=
  (signatures.filter fun s => s.signer = owner).getLast?

@[simp] theorem latest_nil (owner : Address) : latest owner [] = none := rfl

theorem latest_concat (owner : Address) (signatures : List OwnerSignature) (s : OwnerSignature) :
    latest owner (signatures ++ [s])
      = if s.signer = owner then some s else latest owner signatures := by
  by_cases howner : s.signer = owner
  · simp [latest, howner]
  · simp [latest, howner]

/-- A signature that was added first counts if there is no later one of its owner. -/
theorem latest_cons (owner : Address) (s : OwnerSignature) (signatures : List OwnerSignature) :
    latest owner (s :: signatures)
      = (latest owner signatures).or (if s.signer = owner then some s else none) := by
  have happend := List.filter_append (p := fun u => decide (u.signer = owner)) [s] signatures
  rw [latest, latest, ← List.singleton_append, happend, List.getLast?_append]
  by_cases howner : s.signer = owner
  · simp [howner]
  · simp [howner]

/-- Of each owner the last signature that was added is found, or the one that was there before. -/
theorem get?_foldl_add (set : SignatureSet) (signatures : List OwnerSignature)
    (owner : Address) :
    (signatures.foldl add set).get? owner = (latest owner signatures).or (set.get? owner) := by
  induction signatures using List.reverseRecOn with
  | nil => rfl
  | append_singleton signatures s ih =>
    rw [List.foldl_append, List.foldl_cons, List.foldl_nil, get?_add, latest_concat, ih]
    by_cases howner : s.signer = owner
    · simp [howner]
    · simp [howner]

theorem get?_ofList (signatures : List OwnerSignature) (owner : Address) :
    (ofList signatures).get? owner = latest owner signatures := by
  rw [ofList, get?_foldl_add]
  exact Option.or_none

/-- The owners in the set are those of the signatures that were added. -/
theorem exists_signer_ofList {signatures : List OwnerSignature} {owner : Address} :
    (∃ s ∈ (ofList signatures).entries, s.signer = owner) ↔
      ∃ s ∈ signatures, s.signer = owner := by
  have hexists : ∀ ts : List OwnerSignature, (∃ s ∈ ts, s.signer = owner)
      ↔ ts.filter (fun s => s.signer = owner) ≠ [] := by
    intro ts
    simp [List.filter_eq_nil_iff]
  rw [hexists, hexists, filter_signer_entries, get?_ofList, latest]
  simp [Option.toList_eq_nil_iff]

end SignatureSet

end SafeOps
