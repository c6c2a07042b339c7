import Groundplan.Proofs.Labels
import Groundplan.Proofs.Numerals
import Mathlib.Order.Bounds.Defs
import Mathlib.Tactic.IntervalCases

/-!
# Allocation of labels

Labels are small letters, digits and underscores. A node gets the plain label of its name as long as
no node before it holds that address; after that, the least number from 2 on that is still free is
put at the end. The search for it comes to an end, because only the addresses of earlier nodes are
held, and labels with different numbers make different addresses.
-/

namespace Groundplan

namespace Text

def isSmallLetter (c : Char) : Bool := 'a' ≤ c && c ≤ 'z'

/-- A character with which a label may go on. -/
def isLabelPart (c : Char) : Bool := isSmallLetter c || isLabelFiller c

/-- Whether some text can be a label: a small letter, then small letters, digits and underscores. -/
def isLabel (s : String) : Bool :=
  match s.toList with
  | [] => false
  | c :: cs => isSmallLetter c && cs.all isLabelPart

theorem isLabel_iff {s : String} : isLabel s = true ↔
    ∃ c cs, s.toList = c :: cs ∧ isSmallLetter c = true ∧ ∀ other ∈ cs, isLabelPart other = true := by
  unfold isLabel
  cases s.toList with
  | nil => simp
  | cons c cs => simp

theorem isSmallLetter_iff {c : Char} :
    isSmallLetter c = true ↔ 97 ≤ c.toNat ∧ c.toNat ≤ 122 := by
  rw [isSmallLetter, Bool.and_eq_true, decide_eq_true_iff, decide_eq_true_iff]
  exact Iff.rfl

theorem isLabelFiller_iff {c : Char} :
    isLabelFiller c = true ↔ (48 ≤ c.toNat ∧ c.toNat ≤ 57) ∨ c = '_' := by
  rw [isLabelFiller, isDigit, Bool.or_eq_true, Bool.and_eq_true, decide_eq_true_iff,
    decide_eq_true_iff, beq_iff_eq]
  exact Iff.rfl

theorem isLabelFiller_of_isSmallLetter {c : Char} (h : isSmallLetter c = true) :
    isLabelFiller c = false := by
  rw [← Bool.not_eq_true, isLabelFiller_iff]
  have hletter := isSmallLetter_iff.mp h
  rintro (hdigit | rfl)
  · omega
  · exact absurd h (by decide)

theorem isLabelPart_labelChar (c : Char) : isLabelPart (labelChar c) = true := by
  unfold labelChar
  split
  · rename_i h
    have hlow : 65 ≤ c.toNat := h.1
    have hhigh : c.toNat ≤ 90 := h.2
    interval_cases c.toNat <;> decide
  · split
    · rename_i h
      rcases h with h | h
      · simp [isLabelPart, isSmallLetter, h]
      · simp [isLabelPart, isLabelFiller, h]
    · rfl

theorem labelChar_of_isLabelPart {c : Char} (h : isLabelPart c = true) : labelChar c = c := by
  rcases (Bool.or_eq_true _ _).mp h with h | h
  · have hletter := isSmallLetter_iff.mp h
    have hcapital : ¬('A' ≤ c ∧ c ≤ 'Z') := by
      rintro ⟨_, hhigh : c.toNat ≤ 90⟩
      omega
    rw [labelChar, if_neg hcapital, if_pos (.inl hletter)]
  · rcases isLabelFiller_iff.mp h with hdigit | rfl
    · have hcapital : ¬('A' ≤ c ∧ c ≤ 'Z') := by
        rintro ⟨hlow : 65 ≤ c.toNat, _⟩
        omega
      have hisDigit : isDigit c = true :=
        (Bool.and_eq_true _ _).mpr ⟨decide_eq_true hdigit.1, decide_eq_true hdigit.2⟩
      rw [labelChar, if_neg hcapital, if_pos (.inr hisDigit)]
    · rfl

theorem isLabel_label (name : String) : isLabel (label name) = true := by
  unfold label
  cases hkept : (name.toList.map labelChar).dropWhile isLabelFiller with
  | nil => rfl
  | cons c cs =>
    have hparts : ∀ other ∈ c :: cs, isLabelPart other = true := by
      intro other hother
      rw [← hkept] at hother
      obtain ⟨source, _, rfl⟩ := List.mem_map.mp ((List.dropWhile_sublist _).subset hother)
      exact isLabelPart_labelChar source
    have hstart : isLabelFiller c = false := by
      have hhead := List.head?_dropWhile_not isLabelFiller (name.toList.map labelChar)
      rwa [hkept] at hhead
    obtain ⟨hc, hcs⟩ := List.forall_mem_cons.mp hparts
    rw [isLabelPart, hstart, Bool.or_false] at hc
    exact isLabel_iff.mpr ⟨c, cs, String.toList_ofList, hc, hcs⟩

theorem label_of_isLabel {s : String} (h : isLabel s = true) : label s = s := by
  obtain ⟨c, cs, hs, hc, hcs⟩ := isLabel_iff.mp h
  have hmap : s.toList.map labelChar = c :: cs := by
    rw [hs, List.map_cons, labelChar_of_isLabelPart (by rw [isLabelPart, hc, Bool.true_or])]
    exact congrArg (c :: ·) ((List.map_congr_left fun other hother =>
      labelChar_of_isLabelPart (hcs other hother)).trans (List.map_id cs))
  have hkept : (s.toList.map labelChar).dropWhile isLabelFiller = c :: cs := by
    rw [hmap, List.dropWhile_cons_of_neg (by simp [isLabelFiller_of_isSmallLetter hc])]
  rw [label, hkept]
  show String.ofList (c :: cs) = s
  rw [← hs, String.ofList_toList]

theorem label_eq_self_iff {s : String} : label s = s ↔ isLabel s = true :=
  ⟨fun h => h ▸ isLabel_label s, label_of_isLabel⟩

theorem isLabel_append {s t : String} (hs : isLabel s = true)
    (ht : ∀ c ∈ t.toList, isLabelPart c = true) : isLabel (s ++ t) = true := by
  obtain ⟨c, cs, hcs, hc, hparts⟩ := isLabel_iff.mp hs
  refine isLabel_iff.mpr ⟨c, cs ++ t.toList, by rw [String.toList_append, hcs]; rfl, hc, ?_⟩
  intro other hother
  rcases List.mem_append.mp hother with h | h
  · exact hparts other h
  · exact ht other h

end Text

/-- The label for a name with a number put at its end. -/
def numberedLabel (base : String) (k : Nat) : String := base ++ "_" ++ toString k

theorem isLabel_numberedLabel {base : String} (h : Text.isLabel base = true) (k : Nat) :
    Text.isLabel (numberedLabel base k) = true := by
  refine Text.isLabel_append (Text.isLabel_append h ?_) ?_
  · intro c hc
    rw [List.mem_singleton.mp hc]
    rfl
  · intro c hc
    rw [Nat.toString_eq_repr, Nat.toList_repr] at hc
    have hdigit := (Decimal.areDigits_toDigits k).2 c hc
    rw [Text.isLabelPart, Text.isLabelFiller, hdigit, Bool.true_or, Bool.or_true]

/-- Whether a label is the one that falls to a name when some addresses are held: the plain one if its
address is free, and the one with the least free number otherwise. -/
def FallsTo (held : List String) (type base label : String) : Prop :=
  (type ++ "." ++ base ∉ held ∧ label = base) ∨
    (type ++ "." ++ base ∈ held ∧ ∃ k,
      IsLeast {k | 2 ≤ k ∧ type ++ "." ++ numberedLabel base k ∉ held} k ∧
        k ≤ held.length + 1 ∧ label = numberedLabel base k)

theorem exists_free_number {taken : List String} {type base : String}
    (h : type ++ "." ++ base ∈ taken) :
    ∃ i < taken.length, type ++ "." ++ numberedLabel base (i + 2) ∉ taken := by
  obtain ⟨label, hlabel, hfree⟩ := exists_free_label taken type base
  rcases List.mem_cons.mp hlabel with rfl | hlabel
  · exact absurd h hfree
  · obtain ⟨i, hi, rfl⟩ := List.mem_map.mp hlabel
    exact ⟨i, List.mem_range.mp hi, hfree⟩

theorem fallsTo_freeLabel (taken : List String) (type base : String) :
    FallsTo taken type base (freeLabel taken type base) := by
  by_cases hbase : type ++ "." ++ base ∈ taken
  · let free := fun i => !taken.contains (type ++ "." ++ numberedLabel base (i + 2))
    have hsearch : freeLabel taken type base = (((List.range taken.length).find? free).map
        fun i => numberedLabel base (i + 2)).getD base := by
      rw [freeLabel, labelChoices, List.find?_cons_of_neg (by simpa using hbase), List.find?_map]
      rfl
    obtain ⟨first, hfirst⟩ : ∃ first, (List.range taken.length).find? free = some first := by
      rw [← Option.isSome_iff_exists, List.find?_isSome]
      obtain ⟨i, hi, hfree⟩ := exists_free_number hbase
      exact ⟨i, List.mem_range.mpr hi, by simpa [free] using hfree⟩
    obtain ⟨hfree, hrange, hbefore⟩ := List.find?_range_eq_some.mp hfirst
    have hlt := List.mem_range.mp hrange
    refine .inr ⟨hbase, first + 2, ⟨⟨by omega, by simpa [free] using hfree⟩, ?_⟩, by omega, ?_⟩
    · rintro k ⟨htwo, hk⟩
      obtain ⟨i, rfl⟩ : ∃ i, k = i + 2 := ⟨k - 2, by omega⟩
      by_contra hlower
      have hheld := hbefore i (by omega)
      exact hk (by simpa [free] using hheld)
    · rw [hsearch, hfirst, Option.map_some, Option.getD_some]
  · refine .inl ⟨hbase, ?_⟩
    rw [freeLabel, labelChoices, List.find?_cons_of_pos (by simpa using hbase), Option.getD_some]

theorem FallsTo.congr {held others : List String} (h : ∀ address, address ∈ held ↔ address ∈ others)
    (hlength : held.length = others.length) {type base label : String}
    (hlabel : FallsTo held type base label) : FallsTo others type base label := by
  simpa only [FallsTo, h, hlength] using hlabel

theorem FallsTo.isLabel {held : List String} {type base label : String}
    (h : FallsTo held type base label) (hbase : Text.isLabel base = true) :
    Text.isLabel label = true := by
  rcases h with ⟨_, rfl⟩ | ⟨_, k, _, _, rfl⟩
  · exact hbase
  · exact isLabel_numberedLabel hbase k

theorem Identity.label_assign (naming : Naming) (type? : Option ResourceType) (taken : List String)
    (name : String) :
    let identity := Identity.assign naming type? taken name
    match identity.terraformType with
    | none => identity.label = Text.label identity.resolvedName
    | some type => FallsTo taken type (Text.label identity.resolvedName) identity.label := by
  unfold Identity.assign
  cases type?.bind (·.terraformType) with
  | none => rfl
  | some type => exact fallsTo_freeLabel taken type _

/-- What a node gets depends on the addresses of the nodes before it, and on those taken at the
outset. -/
theorem identity_of_assignIdentities_eq {types : Registry} {naming : Naming} {taken : List String}
    {nodes : List Resource} {before after : List Member} {m : Member}
    (h : assignIdentities types naming taken nodes = before ++ m :: after) :
    m.identity = Identity.assign naming (types.get? m.resource.typeId)
      ((before.filterMap (·.identity.address?)).reverse ++ taken) m.resource.name := by
  induction nodes generalizing taken before with
  | nil => simp [assignIdentities] at h
  | cons node nodes ih =>
    rw [assignIdentities] at h
    cases before with
    | nil =>
      obtain ⟨rfl, _⟩ := List.cons.inj h
      rfl
    | cons first before =>
      obtain ⟨rfl, hrest⟩ := List.cons.inj h
      rw [ih hrest, List.filterMap_cons]
      cases (Identity.assign naming (types.get? node.typeId) taken node.name).address? <;> simp

/-- Whether the type of a node has blocks of its own. -/
def Registry.emits (types : Registry) (node : Resource) : Bool :=
  ((types.get? node.typeId).bind (·.terraformType)).isSome

/-- Every node of a diagram gets a label. The addresses are distinct; a label is the plain one for the
name of its node, or has the least number that is free behind the nodes before it; and nodes without a
block neither need a number nor make others need one. -/
theorem members_take_least_labels (d : Diagram) (types : Registry) :
    (d.members types).map (·.resource) = d.nodes ∧
    ((d.members types).filterMap (·.identity.address?)).Nodup ∧
    (∀ before m after, d.members types = before ++ m :: after →
      m.identity.resolvedName = d.naming.resolve
        ((types.get? m.resource.typeId).bind (·.constraints)) m.resource.name ∧
      m.identity.terraformType = (types.get? m.resource.typeId).bind (·.terraformType) ∧
      Text.isLabel m.identity.label = true ∧
      match m.identity.terraformType with
      | none => m.identity.label = Text.label m.identity.resolvedName
      | some type => FallsTo (before.filterMap (·.identity.address?)) type
          (Text.label m.identity.resolvedName) m.identity.label) ∧
    (∀ nodes more, d.nodes = nodes ++ more →
      { d with nodes }.members types <+: d.members types) ∧
    { d with nodes := d.nodes.filter types.emits }.members types =
      (d.members types).filter (types.emits ·.resource) ∧
    (∀ name, Text.label (Text.label name) = Text.label name) ∧
    ∀ name, Text.label name = name ↔ Text.isLabel name = true := by
  refine ⟨map_resource_assignIdentities types d.naming [] d.nodes,
    (nodup_addresses_assignIdentities types d.naming [] d.nodes).1, ?_, ?_, ?_,
    fun name => Text.label_of_isLabel (Text.isLabel_label name), fun name => Text.label_eq_self_iff⟩
  · intro before m after hsplit
    have hidentity := identity_of_assignIdentities_eq hsplit
    have hlabel := Identity.label_assign d.naming (types.get? m.resource.typeId)
      ((before.filterMap (·.identity.address?)).reverse ++ []) m.resource.name
    rw [← hidentity] at hlabel
    dsimp only at hlabel
    refine ⟨congrArg (·.resolvedName) hidentity, congrArg (·.terraformType) hidentity, ?_⟩
    cases htype : m.identity.terraformType with
    | none =>
      rw [htype] at hlabel
      exact ⟨hlabel ▸ Text.isLabel_label _, hlabel⟩
    | some type =>
      rw [htype] at hlabel
      exact ⟨hlabel.isLabel (Text.isLabel_label _), hlabel.congr (by simp) (by simp)⟩
  · intro nodes more hnodes
    obtain ⟨takenBefore, happend⟩ := assignIdentities_append types d.naming [] nodes more
    rw [Diagram.members, Diagram.members, hnodes]
    exact ⟨_, happend.symm⟩
  · exact assignIdentities_filter (fun node hnode => by simpa [Registry.emits] using hnode)
      d.naming [] d.nodes

def valveType : ResourceType where
  typeId := "plant/valve"
  provider := "plant"
  terraformType := some "plant_valve"

/-- Two valves with one label, a tank of unknown type with that label too, and a valve whose own label
is the first one with a number. -/
def valveDiagram : Diagram where
  nodes :=
    [{ id := "a", typeId := "plant/valve", name := "Main" },
     { id := "t", typeId := "plant/tank", name := "main" },
     { id := "b", typeId := "plant/valve", name := "main 2" },
     { id := "c", typeId := "plant/valve", name := "MAIN" }]

/-- The last valve is passed on to the number after the one that another label ends in. -/
theorem members_take_least_labels_valves :
    ∃ before m, valveDiagram.members (Registry.register .empty valveType) = before ++ [m] ∧
      before.map (·.identity.label) = ["main", "main", "main_2"] ∧
      m.identity.label = "main_3" := by
  let members := valveDiagram.members (Registry.register .empty valveType)
  obtain ⟨-, -, hlabels, -⟩ :=
    members_take_least_labels valveDiagram (Registry.register .empty valveType)
  obtain ⟨-, -, -, hlast⟩ := hlabels (members.take 3) members[3] [] rfl
  have hheld : (members.take 3).filterMap (·.identity.address?) =
      ["plant_valve.main", "plant_valve.main_2"] := by decide
  have htype : members[3].identity.terraformType = some "plant_valve" := rfl
  have hbase : Text.label members[3].identity.resolvedName = "main" := by decide
  rw [htype, hheld, hbase] at hlast
  refine ⟨members.take 3, members[3], rfl, by decide, ?_⟩
  rcases hlast with ⟨hfree, _⟩ | ⟨_, k, hleast, _, hlabel⟩
  · exact absurd List.mem_cons_self hfree
  · have hthree : IsLeast {k | 2 ≤ k ∧ "plant_valve" ++ "." ++ numberedLabel "main" k ∉
        ["plant_valve.main", "plant_valve.main_2"]} 3 := by
      refine ⟨by decide, ?_⟩
      rintro k ⟨htwo, hk⟩
      by_contra hlower
      obtain rfl : k = 2 := by omega
      exact hk (by decide)
    rw [hlabel, IsLeast.unique hleast hthree]
    rfl

end Groundplan
