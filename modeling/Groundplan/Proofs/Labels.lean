import Groundplan.Compile.Identities
import Mathlib.Data.List.Basic

/-!
# Labels

No two resources of a diagram get the same address: among the labels considered for a name there is
always one that is still free.
-/

namespace Groundplan

theorem Text.toString_nat_injective {m n : Nat} (h : toString m = toString n) : m = n := by
  rw [Nat.toString_eq_repr, Nat.toString_eq_repr] at h
  have hdigits := congrArg String.toList h
  rw [Nat.toList_repr, Nat.toList_repr] at hdigits
  rw [← Nat.ofDigitChars_ten_toDigits (n := m), hdigits, Nat.ofDigitChars_ten_toDigits]

theorem length_labelChoices (base : String) (count : Nat) :
    (labelChoices base count).length = count + 1 := by
  simp [labelChoices]

theorem nodup_labelChoices (base : String) (count : Nat) : (labelChoices base count).Nodup := by
  refine List.nodup_cons.mpr ⟨?_, ?_⟩
  · intro h
    obtain ⟨i, _, hi⟩ := List.mem_map.mp h
    have hlength := congrArg String.length hi
    simp only [String.length_append] at hlength
    have hmark : "_".length = 1 := rfl
    omega
  · refine List.Pairwise.map _ ?_ List.nodup_range
    intro i j hne heq
    have hij := Text.toString_nat_injective ((String.append_right_inj _).mp heq)
    omega

theorem address_injective {type a b : String} (h : type ++ "." ++ a = type ++ "." ++ b) : a = b :=
  (String.append_right_inj _).mp h

/-- There are more labels to choose from than addresses taken. -/
theorem exists_free_label (taken : List String) (type base : String) :
    ∃ label ∈ labelChoices base taken.length, type ++ "." ++ label ∉ taken := by
  refine Classical.byContradiction fun hnone => ?_
  have hall : (labelChoices base taken.length).map (type ++ "." ++ ·) ⊆ taken := by
    intro address h
    obtain ⟨label, hlabel, rfl⟩ := List.mem_map.mp h
    exact Classical.byContradiction fun hfree => hnone ⟨label, hlabel, hfree⟩
  have hnodup : ((labelChoices base taken.length).map (type ++ "." ++ ·)).Nodup :=
    List.Pairwise.map _ (fun _ _ hne heq => hne (address_injective heq)) (nodup_labelChoices _ _)
  have hlength := hnodup.length_le_of_subset hall
  rw [List.length_map, length_labelChoices] at hlength
  omega

theorem address_freeLabel_notMem (taken : List String) (type base : String) :
    type ++ "." ++ freeLabel taken type base ∉ taken := by
  obtain ⟨label, hlabel, hfree⟩ := exists_free_label taken type base
  have hsome : ((labelChoices base taken.length).find? fun label =>
      !taken.contains (type ++ "." ++ label)).isSome := by
    rw [List.find?_isSome]
    exact ⟨label, hlabel, by simpa using hfree⟩
  obtain ⟨chosen, hchosen⟩ := Option.isSome_iff_exists.mp hsome
  rw [freeLabel, hchosen, Option.getD_some]
  simpa using List.find?_some hchosen

theorem Identity.address?_assign_notMem (naming : Naming) (type? : Option ResourceType)
    (taken : List String) (name address : String)
    (h : (Identity.assign naming type? taken name).address? = some address) : address ∉ taken := by
  unfold Identity.assign Identity.address? at h
  cases htype : type?.bind (·.terraformType) with
  | none => simp [htype] at h
  | some type =>
    simp only [htype, Option.map_some, Option.some.injEq] at h
    rw [← h]
    exact address_freeLabel_notMem taken type _

/-- Addresses are given out once, and never one that was taken before. -/
theorem nodup_addresses_assignIdentities (types : Registry) (naming : Naming)
    (taken : List String) (nodes : List Resource) :
    ((assignIdentities types naming taken nodes).filterMap (·.identity.address?)).Nodup ∧
      ∀ address ∈ (assignIdentities types naming taken nodes).filterMap (·.identity.address?),
        address ∉ taken := by
  induction nodes generalizing taken with
  | nil => exact ⟨List.nodup_nil, fun _ h => absurd h List.not_mem_nil⟩
  | cons node nodes ih =>
    let identity := Identity.assign naming (types.get? node.typeId) taken node.name
    obtain ⟨hn, hfree⟩ := ih (identity.address?.toList ++ taken)
    have hsplit : (assignIdentities types naming taken (node :: nodes)).filterMap
        (·.identity.address?) = identity.address?.toList ++
          (assignIdentities types naming (identity.address?.toList ++ taken) nodes).filterMap
            (·.identity.address?) := by
      rw [List.filterMap_eq_flatMap_toList, List.filterMap_eq_flatMap_toList]
      rfl
    have hown : ∀ address ∈ identity.address?.toList, address ∉ taken := by
      intro address h
      exact Identity.address?_assign_notMem naming _ taken node.name address (by simpa using h)
    rw [hsplit]
    refine ⟨List.nodup_append.mpr ⟨?_, hn, ?_⟩, ?_⟩
    · cases identity.address? <;> simp
    · rintro a ha b hb rfl
      exact hfree a hb (List.mem_append_left _ ha)
    · intro address h
      rcases List.mem_append.mp h with h | h
      · exact hown address h
      · exact fun htaken => hfree address h (List.mem_append_right _ htaken)

/-- The nodes at the front are labelled without regard to those after them. -/
theorem assignIdentities_append (types : Registry) (naming : Naming) (taken : List String)
    (nodes more : List Resource) :
    ∃ takenBefore, assignIdentities types naming taken (nodes ++ more) =
      assignIdentities types naming taken nodes ++
        assignIdentities types naming takenBefore more := by
  induction nodes generalizing taken with
  | nil => exact ⟨taken, rfl⟩
  | cons node nodes ih =>
    obtain ⟨takenBefore, h⟩ := ih _
    exact ⟨takenBefore, congrArg (_ :: ·) h⟩

/-- Nodes without a block take no address from the others. -/
theorem assignIdentities_filter {types : Registry} {keep : Resource → Bool}
    (h : ∀ node, keep node = false → (types.get? node.typeId).bind (·.terraformType) = none)
    (naming : Naming) (taken : List String) (nodes : List Resource) :
    assignIdentities types naming taken (nodes.filter keep) =
      (assignIdentities types naming taken nodes).filter fun member => keep member.resource := by
  induction nodes generalizing taken with
  | nil => rfl
  | cons node nodes ih =>
    cases hkeep : keep node with
    | true =>
      rw [List.filter_cons_of_pos hkeep, assignIdentities, assignIdentities,
        List.filter_cons_of_pos (by simpa using hkeep), ih]
    | false =>
      have haddress : (Identity.assign naming (types.get? node.typeId) taken node.name).address? =
          none := by
        rw [Identity.address?, Identity.assign, h node hkeep]
        rfl
      rw [List.filter_cons_of_neg (by simp [hkeep]), assignIdentities,
        List.filter_cons_of_neg (by simp [hkeep]), haddress, ih]
      rfl

theorem eq_of_nodup_filterMap {α β : Type} {f : α → Option β} {items : List α}
    (hn : (items.filterMap f).Nodup) {a b : α} {value : β} (ha : a ∈ items) (hb : b ∈ items)
    (hfa : f a = some value) (hfb : f b = some value) : a = b := by
  induction items with
  | nil => exact absurd ha List.not_mem_nil
  | cons head rest ih =>
    cases hhead : f head with
    | none =>
      rw [List.filterMap_cons_none hhead] at hn
      have hne : ∀ item, f item = some value → item ≠ head := by
        rintro item hitem rfl
        rw [hhead] at hitem
        cases hitem
      exact ih hn ((List.mem_cons.mp ha).resolve_left (hne a hfa))
        ((List.mem_cons.mp hb).resolve_left (hne b hfb))
    | some first =>
      rw [List.filterMap_cons_some hhead] at hn
      obtain ⟨hfirst, hrest⟩ := List.nodup_cons.mp hn
      have hlater : ∀ item ∈ rest, f item = some value → first ≠ value := by
        rintro item hitem hvalue rfl
        exact hfirst (List.mem_filterMap.mpr ⟨item, hitem, hvalue⟩)
      rcases List.mem_cons.mp ha with rfl | ha
      · rcases List.mem_cons.mp hb with heq | hb
        · exact heq.symm
        · exact absurd (Option.some.inj (hhead.symm.trans hfa)) (hlater b hb hfb)
      · rcases List.mem_cons.mp hb with heq | hb
        · exact absurd (Option.some.inj (hhead.symm.trans (heq ▸ hfb))) (hlater a ha hfa)
        · exact ih hrest ha hb

theorem Diagram.eq_of_address_eq (d : Diagram) (types : Registry) {a b : Member} {address : String}
    (ha : a ∈ d.members types) (hb : b ∈ d.members types)
    (hfa : a.identity.address? = some address) (hfb : b.identity.address? = some address) : a = b :=
  eq_of_nodup_filterMap (nodup_addresses_assignIdentities types d.naming [] d.nodes).1 ha hb hfa hfb

theorem terraformType_of_mem_assignIdentities {types : Registry} {naming : Naming}
    {taken : List String} {nodes : List Resource} {member : Member}
    (h : member ∈ assignIdentities types naming taken nodes) :
    member.identity.terraformType =
      (types.get? member.resource.typeId).bind (·.terraformType) := by
  induction nodes generalizing taken with
  | nil => exact absurd h List.not_mem_nil
  | cons node nodes ih =>
    rcases List.mem_cons.mp h with rfl | h
    · rfl
    · exact ih h

theorem Diagram.terraformType_of_mem_members {d : Diagram} {types : Registry} {member : Member}
    (h : member ∈ d.members types) : member.identity.terraformType =
      (types.get? member.resource.typeId).bind (·.terraformType) :=
  terraformType_of_mem_assignIdentities h

end Groundplan
