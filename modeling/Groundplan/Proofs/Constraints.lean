import Groundplan.Naming.Constraints

/-!
# Names within limits

A constrained name keeps every limit it was made for, and nothing is left to do a second time. That
rests on the lowercase mapping: what it yields are characters that it leaves alone, so a lowercase
text may lose characters and still be one.
-/

namespace Groundplan

namespace Text

namespace CaseRun

/-- The first and the last of the lowercase forms that a run gives. -/
def low (run : CaseRun) : Nat := (run.first + run.shift).toNat

def high (run : CaseRun) : Nat := (run.last + run.shift).toNat

/-- Whether none of the lowercase forms that a run gives is covered by another run: they lie before or
behind it, or between the characters of a run of every second one. -/
def misses (run other : CaseRun) : Bool :=
  Nat.blt run.high other.first || Nat.blt other.last run.low ||
    (other.stride == 2 && (run.stride == 2 || run.first == run.last) &&
      (run.low + other.first) % 2 == 1)

/-- Whether the lowercase forms are code points of characters. -/
def isScalar (run : CaseRun) : Bool :=
  Nat.blt run.high 0xd800 || (Nat.blt 0xdfff run.low && Nat.blt run.high 0x110000)

theorem covers_iff {run : CaseRun} {n : Nat} : run.covers n = true ↔
    run.first ≤ n ∧ n ≤ run.last ∧ (n - run.first) % run.stride = 0 := by
  simp [covers, and_assoc]

theorem covers_eq_false_of_misses {run other : CaseRun} {n : Nat} (hn : run.covers n = true)
    (hpos : 0 ≤ run.first + run.shift) (h : run.misses other = true) :
    other.covers (n + run.shift).toNat = false := by
  obtain ⟨hfirst, hlast, hstride⟩ := covers_iff.mp hn
  rw [← Bool.not_eq_true, covers_iff]
  rintro ⟨hfirst', hlast', hstride'⟩
  simp only [misses, low, high, Bool.or_eq_true, Bool.and_eq_true, Nat.blt_eq, beq_iff_eq] at h
  rcases h with (h | h) | ⟨⟨htwo, hstep⟩, hodd⟩
  · omega
  · omega
  · rw [htwo] at hstride'
    rcases hstep with hstep | hstep
    · rw [hstep] at hstride
      omega
    · omega

theorem toNat_ofNat {run : CaseRun} {n : Nat} (hn : run.covers n = true)
    (hpos : 0 ≤ run.first + run.shift) (h : run.isScalar = true) :
    (Char.ofNat (n + run.shift).toNat).toNat = (n + run.shift).toNat := by
  obtain ⟨hfirst, hlast, -⟩ := covers_iff.mp hn
  have hvalid : (n + run.shift).toNat.isValidChar := by
    simp only [isScalar, low, high, Bool.or_eq_true, Bool.and_eq_true, Nat.blt_eq] at h
    unfold Nat.isValidChar
    omega
  rw [Char.ofNat, dif_pos hvalid]
  rfl

/-- The capital I with a dot above, as a run. -/
def dottedI : CaseRun := ⟨0x130, 0x130, 1, 0⟩

/-- Whether the lowercase forms that a run gives have none of their own. -/
def isSettled (run : CaseRun) : Bool :=
  decide (0 ≤ run.first + run.shift) && run.isScalar && (dottedI :: lowercaseRuns).all run.misses

end CaseRun

theorem isSettled_of_mem_lowercaseRuns {run : CaseRun} (h : run ∈ lowercaseRuns) :
    run.isSettled = true := by
  have hall : lowercaseRuns.all CaseRun.isSettled = true := by decide +kernel
  exact List.all_eq_true.mp hall run h

/-- Whether a character has no lowercase form other than itself. -/
def IsLowercase (c : Char) : Prop :=
  ∀ run ∈ CaseRun.dottedI :: lowercaseRuns, run.covers c.toNat = false

instance : DecidablePred IsLowercase := fun c =>
  decidable_of_iff ((CaseRun.dottedI :: lowercaseRuns).all fun run => !run.covers c.toNat)
    (by simp [IsLowercase])

/-- Of the characters in front of `À` only the capitals have a lowercase form other than themselves. -/
theorem isLowercase_of_toNat_lt {c : Char} (h : c.toNat < 0xc0)
    (hcapital : ¬(0x41 ≤ c.toNat ∧ c.toNat ≤ 0x5a)) : IsLowercase c := by
  have hruns : (CaseRun.dottedI :: lowercaseRuns).all (fun run =>
      (run.first == 0x41 && run.last == 0x5a) || Nat.ble 0xc0 run.first) = true := by
    decide +kernel
  intro run hrun
  have hrange := List.all_eq_true.mp hruns run hrun
  simp only [Bool.or_eq_true, Bool.and_eq_true, beq_iff_eq, Nat.ble_eq] at hrange
  rw [← Bool.not_eq_true, CaseRun.covers_iff]
  rintro ⟨hfirst, hlast, -⟩
  omega

theorem IsLowercase.ne_dottedI {c : Char} (h : IsLowercase c) : c ≠ 'İ' := by
  rintro rfl
  exact absurd (h CaseRun.dottedI List.mem_cons_self) (by decide)

theorem not_isLowercase_sigma : ¬IsLowercase 'Σ' := by
  decide +kernel

theorem IsLowercase.lowerInContext_eq {c : Char} (h : IsLowercase c) (before after : List Char) :
    lowerInContext before c after = [c] := by
  have hsigma : c ≠ 'Σ' := fun heq => not_isLowercase_sigma (heq ▸ h)
  have hnone : lowercaseRuns.find? (·.covers c.toNat) = none := by
    rw [List.find?_eq_none]
    intro run hrun
    simp [h run (List.mem_cons_of_mem _ hrun)]
  rw [lowerInContext, if_neg h.ne_dottedI, if_neg hsigma, lowerChar, hnone]

theorem isLowercase_lowerChar {c : Char} (h : c ≠ 'İ') : IsLowercase (lowerChar c) := by
  unfold lowerChar
  split
  · rename_i run hfind
    have hmem := List.mem_of_find?_eq_some hfind
    have hcovers : run.covers c.toNat = true := by simpa using List.find?_some hfind
    have hsettled := isSettled_of_mem_lowercaseRuns hmem
    simp only [CaseRun.isSettled, Bool.and_eq_true, decide_eq_true_iff, List.all_eq_true] at hsettled
    obtain ⟨⟨hpos, hscalar⟩, hmisses⟩ := hsettled
    intro other hother
    rw [CaseRun.toNat_ofNat hcovers hpos hscalar]
    exact CaseRun.covers_eq_false_of_misses hcovers hpos (hmisses other hother)
  · rename_i hfind
    rw [List.find?_eq_none] at hfind
    intro run hrun
    rcases List.mem_cons.mp hrun with rfl | hrun
    · rw [← Bool.not_eq_true, CaseRun.covers_iff]
      rintro ⟨hfirst, hlast, -⟩
      exact h (Char.toNat_inj.mp (Nat.le_antisymm hlast hfirst))
    · simpa using hfind run hrun

theorem isLowercase_lowerSigma (before after : List Char) : IsLowercase (lowerSigma before after) := by
  unfold lowerSigma
  split <;> decide +kernel

theorem isLowercase_of_mem_lowerInContext {before after : List Char} {c ch : Char}
    (h : ch ∈ lowerInContext before c after) : IsLowercase ch := by
  unfold lowerInContext at h
  split at h
  · rcases List.mem_cons.mp h with rfl | h
    · decide +kernel
    · obtain rfl := List.mem_singleton.mp h
      decide +kernel
  · rename_i hdotted
    split at h
    · rw [List.mem_singleton.mp h]
      exact isLowercase_lowerSigma before after
    · rw [List.mem_singleton.mp h]
      exact isLowercase_lowerChar hdotted

theorem isLowercase_of_mem_lowercaseAfter {before cs : List Char} {ch : Char}
    (h : ch ∈ lowercaseAfter before cs) : IsLowercase ch := by
  induction cs generalizing before with
  | nil => exact absurd h List.not_mem_nil
  | cons c cs ih =>
    rcases List.mem_append.mp h with h | h
    · exact isLowercase_of_mem_lowerInContext h
    · exact ih h

theorem lowercaseAfter_eq_self (before : List Char) {cs : List Char}
    (h : ∀ ch ∈ cs, IsLowercase ch) : lowercaseAfter before cs = cs := by
  induction cs generalizing before with
  | nil => rfl
  | cons c cs ih =>
    obtain ⟨hc, hcs⟩ := List.forall_mem_cons.mp h
    rw [lowercaseAfter, hc.lowerInContext_eq, ih (c :: before) hcs, List.singleton_append]

theorem suffix_lowercaseAfter (before front : List Char) {back : List Char}
    (h : ∀ ch ∈ back, IsLowercase ch) : back <:+ lowercaseAfter before (front ++ back) := by
  induction front generalizing before with
  | nil =>
    have hsame : lowercaseAfter before ([] ++ back) = back := lowercaseAfter_eq_self before h
    exact hsame.symm ▸ List.suffix_rfl
  | cons c front ih => exact (ih (c :: before)).trans (List.suffix_append _ _)

theorem suffix_lowercase (front : String) {back : String}
    (h : ∀ ch ∈ back.toList, IsLowercase ch) :
    back.toList <:+ (lowercase (front ++ back)).toList := by
  rw [lowercase, String.toList_ofList, String.toList_append]
  exact suffix_lowercaseAfter [] front.toList h

theorem isLowercase_of_mem_lowercase {s : String} {ch : Char} (h : ch ∈ (lowercase s).toList) :
    IsLowercase ch := by
  rw [lowercase, String.toList_ofList] at h
  exact isLowercase_of_mem_lowercaseAfter h

/-- A text is lowercase just if each of its characters is. -/
theorem lowercase_eq_self_iff {s : String} :
    lowercase s = s ↔ ∀ ch ∈ s.toList, IsLowercase ch := by
  constructor
  · intro h ch hch
    exact isLowercase_of_mem_lowercase (h.symm ▸ hch)
  · intro h
    rw [lowercase, lowercaseAfter_eq_self [] h, String.ofList_toList]

end Text

namespace NamingConstraints

variable {c : NamingConstraints} {name : String}

/-- Whether a name is within the limits of a type. -/
structure Keeps (c : NamingConstraints) (name : String) : Prop where
  length_le : ∀ length, c.maxLength = some length → name.length ≤ length
  no_hyphen : c.noHyphens = true → '-' ∉ name.toList
  lowercase_eq : c.lowercase = true → Text.lowercase name = name

theorem sublist_truncate (c : NamingConstraints) (name : String) :
    (c.truncate name).toList.Sublist name.toList := by
  unfold truncate
  split
  · rw [String.toList_ofList]
    exact List.take_sublist _ _
  · exact List.Sublist.refl _

theorem sublist_dropHyphens (c : NamingConstraints) (name : String) :
    (c.dropHyphens name).toList.Sublist name.toList := by
  unfold dropHyphens
  split
  · rw [String.toList_ofList]
    exact List.filter_sublist
  · exact List.Sublist.refl _

theorem hyphen_notMem_dropHyphens (h : c.noHyphens = true) (name : String) :
    '-' ∉ (c.dropHyphens name).toList := by
  simp [dropHyphens, h]

theorem keeps_apply (c : NamingConstraints) (name : String) : c.Keeps (c.apply name) where
  length_le := by
    intro length h
    rw [← String.length_toList]
    exact length_truncate_le h _
  no_hyphen := by
    intro h hmem
    exact hyphen_notMem_dropHyphens h _ ((c.sublist_truncate _).subset hmem)
  lowercase_eq := by
    intro h
    rw [Text.lowercase_eq_self_iff]
    intro ch hch
    have hlower := ((c.sublist_truncate _).trans (c.sublist_dropHyphens _)).subset hch
    rw [lower, if_pos h] at hlower
    exact Text.isLowercase_of_mem_lowercase hlower

namespace Keeps

theorem lower_eq (h : c.Keeps name) : c.lower name = name := by
  unfold lower
  split
  · exact h.lowercase_eq ‹_›
  · rfl

theorem dropHyphens_eq (h : c.Keeps name) : c.dropHyphens name = name := by
  unfold dropHyphens
  split
  · rename_i hplain
    have hall : ∀ ch ∈ name.toList, (ch != '-') = true := by
      intro ch hch
      rw [bne_iff_ne]
      rintro rfl
      exact h.no_hyphen hplain hch
    rw [List.filter_eq_self.mpr hall, String.ofList_toList]
  · rfl

theorem truncate_eq (h : c.Keeps name) : c.truncate name = name := by
  unfold truncate
  split
  · rename_i length hlength
    have hle := h.length_le length hlength
    rw [List.take_of_length_le (by rwa [String.length_toList]), String.ofList_toList]
  · rfl

theorem apply_eq (h : c.Keeps name) : c.apply name = name := by
  rw [apply, h.lower_eq, h.dropHyphens_eq, h.truncate_eq]

end Keeps

end NamingConstraints

end Groundplan
