import Groundplan.Decimal.Number
import Groundplan.Text.Identifier
import Mathlib.Data.List.TakeWhile

/-!
# Numerals

The text of a number starts with a digit or a minus sign, and holds nothing but digits, points, signs
and marks of exponents.
-/

namespace Groundplan

open Text

namespace Decimal

def AreDigits (cs : List Char) : Prop := cs ≠ [] ∧ ∀ c ∈ cs, isDigit c = true

/-- Whether some text looks like a number: it starts with a digit or a minus sign. -/
structure IsNumeral (cs : List Char) : Prop where
  start : ∃ c rest, cs = c :: rest ∧ (isDigit c = true ∨ c = '-')
  chars : ∀ c ∈ cs, isDigit c = true ∨ c ∈ ['.', '-', '+', 'e']

theorem areDigits_toDigits (n : Nat) : AreDigits (Nat.toDigits 10 n) := by
  refine ⟨Nat.toDigits_ne_nil, ?_⟩
  intro c hc
  have hdigit := Nat.isDigit_of_mem_toDigits (by decide) (by decide) hc
  simpa [Char.isDigit, isDigit, Char.le_def] using hdigit

theorem AreDigits.isNumeral {cs : List Char} (h : AreDigits cs) : IsNumeral cs where
  start := by
    obtain ⟨c, rest, rfl⟩ := List.exists_cons_of_ne_nil h.1
    exact ⟨c, rest, rfl, .inl (h.2 c List.mem_cons_self)⟩
  chars c hc := .inl (h.2 c hc)

theorem IsNumeral.negate {cs : List Char} (h : IsNumeral cs) : IsNumeral ('-' :: cs) where
  start := ⟨'-', cs, rfl, .inr rfl⟩
  chars := by
    intro c hc
    rcases List.mem_cons.mp hc with rfl | hc
    · exact .inr (by decide)
    · exact h.chars c hc

theorem IsNumeral.append {cs more : List Char} (h : IsNumeral cs)
    (hmore : ∀ c ∈ more, isDigit c = true ∨ c ∈ ['.', '-', '+', 'e']) : IsNumeral (cs ++ more) where
  start := by
    obtain ⟨c, rest, rfl, hc⟩ := h.start
    exact ⟨c, rest ++ more, rfl, hc⟩
  chars := by
    intro c hc
    rcases List.mem_append.mp hc with hc | hc
    · exact h.chars c hc
    · exact hmore c hc

theorem isDigit_of_mem_zeros {n : Nat} {c : Char} (h : c ∈ zeros n) : isDigit c = true := by
  rw [List.eq_of_mem_replicate h]
  rfl

section Digits

variable {d : Digits}

theorem isNumeral_positional (h : AreDigits d.digits) : IsNumeral d.positional := by
  obtain ⟨first, rest, hdigits⟩ := List.exists_cons_of_ne_nil h.1
  have hzero : IsNumeral ['0', '.'] := ⟨⟨'0', ['.'], rfl, .inl rfl⟩, by simp [isDigit]⟩
  unfold Digits.positional
  split
  · apply IsNumeral.append hzero
    intro c hc
    rcases List.mem_append.mp hc with hc | hc
    · exact .inl (isDigit_of_mem_zeros hc)
    · exact .inl (h.2 c hc)
  · dsimp only
    have hwhole : AreDigits (d.digits.take (d.power.toNat + 1) ++
        zeros (d.power.toNat + 1 - d.digits.length)) := by
      refine ⟨by simp [hdigits], ?_⟩
      intro c hc
      rcases List.mem_append.mp hc with hc | hc
      · exact h.2 c (List.mem_of_mem_take hc)
      · exact isDigit_of_mem_zeros hc
    split
    · exact hwhole.isNumeral.append (by simp [isDigit])
    · apply hwhole.isNumeral.append
      intro c hc
      rcases List.mem_cons.mp hc with rfl | hc
      · exact .inr (by decide)
      · exact .inl (h.2 c (List.mem_of_mem_drop hc))

theorem isNumeral_scientific (h : AreDigits d.digits) : IsNumeral d.scientific := by
  obtain ⟨first, rest, hdigits⟩ := List.exists_cons_of_ne_nil h.1
  have hfirst : IsNumeral [first] :=
    AreDigits.isNumeral ⟨by simp, by simpa using h.2 first (by simp [hdigits])⟩
  have hexponent : ∀ c ∈ 'e' :: (if d.power < 0 then '-' else '+') ::
      Nat.toDigits 10 d.power.natAbs, isDigit c = true ∨ c ∈ ['.', '-', '+', 'e'] := by
    intro c hc
    rcases List.mem_cons.mp hc with rfl | hc
    · exact .inr (by decide)
    · rcases List.mem_cons.mp hc with rfl | hc
      · split <;> exact .inr (by decide)
      · exact .inl ((areDigits_toDigits _).2 c hc)
  unfold Digits.scientific
  dsimp only
  apply IsNumeral.append _ hexponent
  rw [hdigits]
  split
  · exact hfirst
  · rename_i fraction hfraction
    apply hfirst.append
    intro c hc
    rcases List.mem_cons.mp hc with rfl | hc
    · exact .inr (by decide)
    · exact .inl (h.2 c (hdigits ▸ List.mem_of_mem_drop hc))

end Digits

namespace Neighbourhood

theorem contains_of_nearest? {n : Neighbourhood} {point : Nat} (h : n.nearest? = some point) :
    n.contains point = true := by
  unfold nearest? at h
  dsimp only at h
  split at h
  · rename_i hbelow habove
    split at h
    · cases h
      exact hbelow
    · cases h
      exact habove
  · rename_i hbelow _
    cases h
    exact hbelow
  · rename_i _ habove
    cases h
    exact habove
  · cases h

theorem pos_of_contains {n : Neighbourhood} (hlow : 0 < n.low) {point : Nat}
    (h : n.contains point = true) : 0 < point := by
  rcases Nat.eq_zero_or_pos point with rfl | hpos
  · unfold contains at h
    dsimp only at h
    split at h
    · simp at h
      omega
    · simp at h
  · exact hpos

theorem low_of_pos {x : Magnitude} (hx : 0 < x.significand) (power : Int) :
    0 < (of x power).low := by
  have hpow : ∀ base exponent : Nat, 0 < base → 0 < Nat.pow base exponent := fun _ _ h => Nat.pow_pos h
  unfold of
  dsimp only [Magnitude.scaleNum]
  apply Nat.mul_pos
  · apply Nat.mul_pos
    · split <;> omega
    · exact hpow 2 _ (by decide)
  · exact hpow 10 _ (by decide)

end Neighbourhood

theorem exists_ne_zero_of_mem_toDigits {n : Nat} (h : 0 < n) : ∃ c ∈ Nat.toDigits 10 n, c ≠ '0' := by
  by_contra hnone
  have hzeros : ∀ cs : List Char, (∀ c ∈ cs, c = '0') → Nat.ofDigitChars 10 cs 0 = 0 := by
    intro cs
    induction cs with
    | nil => exact fun _ => rfl
    | cons c cs ih =>
      intro hall
      rw [Nat.ofDigitChars_cons, hall c List.mem_cons_self]
      exact ih fun other hother => hall other (List.mem_cons_of_mem _ hother)
  have hvalue := hzeros (Nat.toDigits 10 n) fun c hc => by
    by_contra hne
    exact hnone ⟨c, hc, hne⟩
  rw [Nat.ofDigitChars_ten_toDigits] at hvalue
  omega

theorem areDigits_dropTrailingZeros {n : Nat} (h : 0 < n) :
    AreDigits (dropTrailingZeros (Nat.toDigits 10 n)) := by
  obtain ⟨c, hc, hne⟩ := exists_ne_zero_of_mem_toDigits h
  constructor
  · intro hnil
    have hall := List.dropWhile_eq_nil_iff.mp (List.reverse_eq_nil_iff.mp hnil)
    exact hne (by simpa using hall c (List.mem_reverse.mpr hc))
  · intro d hd
    have hmem := List.mem_reverse.mp hd
    exact (areDigits_toDigits n).2 d (List.mem_reverse.mp ((List.dropWhile_sublist _).subset hmem))

/-- The shortest decimal for a positive number has a digit. -/
theorem areDigits_shortest {x : Magnitude} (hx : 0 < x.significand) :
    AreDigits x.shortest.digits := by
  unfold Magnitude.shortest
  dsimp only
  cases hfound : (List.range 17).findSome? _ with
  | none => exact ⟨by simp, by simp [isDigit]⟩
  | some digits =>
    obtain ⟨count, _, hattempt⟩ := List.exists_of_findSome?_eq_some hfound
    obtain ⟨point, hpoint, rfl⟩ := Option.map_eq_some_iff.mp hattempt
    have hpos := Neighbourhood.pos_of_contains (Neighbourhood.low_of_pos hx _)
      (Neighbourhood.contains_of_nearest? hpoint)
    exact areDigits_dropTrailingZeros hpos

end Decimal

open Decimal

theorem Number.isNumeral_text (n : Number) : IsNumeral n.text.toList := by
  cases n with
  | integer value =>
    cases value with
    | ofNat m =>
      have htext : (Number.text (.integer (.ofNat m))).toList = Nat.toDigits 10 m := Nat.toList_repr
      rw [htext]
      exact (areDigits_toDigits m).isNumeral
    | negSucc m =>
      have htext : (Number.text (.integer (.negSucc m))).toList = '-' :: Nat.toDigits 10 (m + 1) := by
        show ("-" ++ (m + 1).repr).toList = _
        rw [String.toList_append, Nat.toList_repr]
        rfl
      rw [htext]
      exact (areDigits_toDigits (m + 1)).isNumeral.negate
  | float x =>
    have hbody : IsNumeral (if x.magnitude.significand = 0 then ['0', '.', '0']
        else layout.write x.magnitude.shortest) := by
      split
      · exact ⟨⟨'0', ['.', '0'], rfl, .inl rfl⟩, by simp [isDigit]⟩
      · rename_i hne
        have hdigits := areDigits_shortest (Nat.pos_of_ne_zero hne)
        unfold Layout.write
        split
        · exact isNumeral_positional hdigits
        · exact isNumeral_scientific hdigits
    show IsNumeral (writeFloat x).toList
    rw [writeFloat, String.toList_ofList]
    split
    · exact hbody.negate
    · exact hbody

end Groundplan
