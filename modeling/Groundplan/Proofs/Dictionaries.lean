import Groundplan.Dictionary
import Groundplan.Proofs.Collecting
import Mathlib.Data.List.Nodup
import Mathlib.Data.List.Pairwise

/-!
# Dictionaries by their contents

A dictionary is known by what it holds at each key. Here are the laws for its ways of being built:
from entries one after the other, as an overlay, and by leaving values out.
-/

namespace Groundplan.Dictionary

variable {α : Type}

theorem nodup_keys (d : Dictionary α) : d.keys.Nodup := by
  rw [keys, List.Nodup, List.pairwise_map]
  apply d.ascending.imp
  intro a b hlt heq
  rw [heq] at hlt
  exact String.lt_irrefl _ hlt

theorem mem_entries_iff {d : Dictionary α} {key : String} {value : α} :
    (key, value) ∈ d.entries ↔ d.get? key = some value := by
  have hfind : ∀ entry : String × α,
      d.entries.find? (·.1 == key) = some entry ↔ entry ∈ d.entries ∧ entry.1 = key :=
    fun entry => find?_eq_some_iff_of_nodup (fun entry : String × α => entry.1) d.nodup_keys
  rw [get?, Option.map_eq_some_iff]
  constructor
  · intro h
    exact ⟨(key, value), (hfind _).mpr ⟨h, rfl⟩, rfl⟩
  · rintro ⟨entry, hentry, rfl⟩
    obtain ⟨hmem, rfl⟩ := (hfind entry).mp hentry
    exact hmem

theorem mem_keys_iff {d : Dictionary α} {key : String} : key ∈ d.keys ↔ (d.get? key).isSome := by
  rw [Option.isSome_iff_exists]
  constructor
  · intro h
    obtain ⟨entry, hentry, rfl⟩ := List.mem_map.mp h
    exact ⟨entry.2, mem_entries_iff.mp hentry⟩
  · rintro ⟨value, hvalue⟩
    exact List.mem_map.mpr ⟨(key, value), mem_entries_iff.mpr hvalue, rfl⟩

theorem mem_values_of_get? {d : Dictionary α} {key : String} {value : α}
    (h : d.get? key = some value) : value ∈ d.values :=
  List.mem_map.mpr ⟨(key, value), mem_entries_iff.mpr h, rfl⟩

/-- A dictionary is known by what it holds at each key. -/
theorem ext_get? {d e : Dictionary α} (h : ∀ key, d.get? key = e.get? key) : d = e := by
  have hnodup : ∀ d : Dictionary α, d.entries.Nodup := fun d => List.Nodup.of_map _ d.nodup_keys
  have hperm : d.entries.Perm e.entries := by
    rw [List.perm_ext_iff_of_nodup (hnodup d) (hnodup e)]
    rintro ⟨key, value⟩
    rw [mem_entries_iff, mem_entries_iff, h]
  apply Dictionary.ext
  apply hperm.eq_of_pairwise _ d.ascending e.ascending
  intro a b _ _ hlt hgt
  exact absurd (String.lt_trans hlt hgt) (String.lt_irrefl a.1)

theorem get?_foldl_insert (entries : List (String × α)) (d : Dictionary α) (key : String) :
    (entries.foldl (fun d entry => d.insert entry.1 entry.2) d).get? key =
      ((entries.reverse.find? (·.1 == key)).map (·.2)).or (d.get? key) := by
  induction entries generalizing d with
  | nil => rfl
  | cons entry entries ih =>
    rw [List.foldl_cons, ih, List.reverse_cons, List.find?_append]
    cases entries.reverse.find? (·.1 == key) with
    | some last => rfl
    | none =>
      by_cases h : key = entry.1
      · simp [h]
      · simp [get?_insert_of_ne d entry.2 h, Ne.symm h]

theorem mem_of_get?_foldl_insert {entries : List (String × α)} {d : Dictionary α} {key : String}
    {value : α}
    (h : (entries.foldl (fun d entry => d.insert entry.1 entry.2) d).get? key = some value) :
    value ∈ entries.map (·.2) ∨ d.get? key = some value := by
  rw [get?_foldl_insert, Option.or_eq_some_iff, Option.map_eq_some_iff] at h
  rcases h with ⟨entry, hentry, rfl⟩ | ⟨_, h⟩
  · have hmem := List.mem_reverse.mp (List.mem_of_find?_eq_some hentry)
    exact .inl (List.mem_map.mpr ⟨entry, hmem, rfl⟩)
  · exact .inr h

theorem mem_of_get?_ofList {entries : List (String × α)} {key : String} {value : α}
    (h : (ofList entries).get? key = some value) : value ∈ entries.map (·.2) :=
  (mem_of_get?_foldl_insert h).resolve_right nofun

theorem mem_of_get?_overlay {d e : Dictionary α} {key : String} {value : α}
    (h : (d.overlay e).get? key = some value) : value ∈ e.values ∨ d.get? key = some value :=
  mem_of_get?_foldl_insert h

/-- An overlay holds what the upper dictionary does, and failing that what the lower one does. -/
theorem get?_overlay (d e : Dictionary α) (key : String) :
    (d.overlay e).get? key = (e.get? key).or (d.get? key) := by
  have hnodup : (e.entries.reverse.map (·.1)).Nodup := by
    rw [List.map_reverse, List.nodup_reverse]
    exact e.nodup_keys
  have hreverse : e.entries.reverse.find? (·.1 == key) = e.entries.find? (·.1 == key) := by
    apply Option.ext
    intro entry
    rw [find?_eq_some_iff_of_nodup (fun entry : String × α => entry.1) hnodup,
      find?_eq_some_iff_of_nodup (fun entry : String × α => entry.1) e.nodup_keys, List.mem_reverse]
  rw [overlay, get?_foldl_insert, hreverse]
  rfl

/-- Entries of distinct keys all stand in the dictionary that is made of them. -/
theorem get?_ofList_eq_some_iff {entries : List (String × α)} (hn : (entries.map (·.1)).Nodup)
    {key : String} {value : α} :
    (ofList entries).get? key = some value ↔ (key, value) ∈ entries := by
  have hreverse : (entries.reverse.map (·.1)).Nodup := by
    rwa [List.map_reverse, List.nodup_reverse]
  rw [ofList, get?_foldl_insert, get?_empty, Option.or_none, Option.map_eq_some_iff]
  constructor
  · rintro ⟨entry, hentry, rfl⟩
    obtain ⟨hmem, rfl⟩ :=
      (find?_eq_some_iff_of_nodup (fun entry : String × α => entry.1) hreverse).mp hentry
    exact List.mem_reverse.mp hmem
  · intro h
    exact ⟨(key, value), (find?_eq_some_iff_of_nodup (fun entry : String × α => entry.1)
      hreverse).mpr ⟨List.mem_reverse.mpr h, rfl⟩, rfl⟩

/-- The dictionary without the values that fail a test. -/
def filter (p : α → Bool) (d : Dictionary α) : Dictionary α :=
  ⟨d.entries.filter fun entry => p entry.2, d.ascending.filter _⟩

theorem get?_filter (p : α → Bool) (d : Dictionary α) (key : String) :
    (d.filter p).get? key = (d.get? key).filter p := by
  apply Option.ext
  intro value
  rw [← mem_entries_iff, Option.filter_eq_some_iff, ← mem_entries_iff]
  exact List.mem_filter

end Groundplan.Dictionary
