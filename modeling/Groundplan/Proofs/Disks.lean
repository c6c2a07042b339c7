import Groundplan.Disk.Store
import Mathlib.Data.List.Basic

/-!
# Laws of disks

What the operations on a disk change and what they leave alone. A directory that has been made can be
entered from then on, and a file that is written into it stands at the place below; every other place
keeps what it held.
-/

namespace Groundplan

namespace Path

/-- Whether a text is the name of an entry: one part of a path, and not one that stands for a
directory. -/
structure IsName (name : String) : Prop where
  ne_empty : name ≠ ""
  ne_point : name ≠ "."
  ne_points : name ≠ ".."
  slash_notMem : '/' ∉ name.toList

theorem endsWith_iff {path ending : String} :
    path.endsWith ending = true ↔ ending.toList <:+ path.toList := by
  rw [String.endsWith_eq_endsWith_toSlice, String.Slice.endsWith_string_iff]
  simp

theorem isAbsolute_iff {path : String} : isAbsolute path = true ↔ ['/'] <+: path.toList :=
  String.startsWith_string_iff

theorem splitSlashes_ne_nil (cs : List Char) : splitSlashes cs ≠ [] := by
  cases cs with
  | nil => exact List.cons_ne_nil _ _
  | cons c cs =>
    rw [splitSlashes]
    split
    · exact List.cons_ne_nil _ _
    · split <;> exact List.cons_ne_nil _ _

theorem splitSlashes_cons_of_ne {c : Char} (h : c ≠ '/') (cs : List Char) :
    ∃ part rest, splitSlashes cs = part :: rest ∧ splitSlashes (c :: cs) = (c :: part) :: rest := by
  obtain ⟨part, rest, hsplit⟩ := List.exists_cons_of_ne_nil (splitSlashes_ne_nil cs)
  refine ⟨part, rest, hsplit, ?_⟩
  rw [splitSlashes, if_neg h, hsplit]

theorem splitSlashes_of_notMem {cs : List Char} (h : '/' ∉ cs) : splitSlashes cs = [cs] := by
  induction cs with
  | nil => rfl
  | cons c cs ih =>
    have hc : c ≠ '/' := fun heq => h (heq ▸ List.mem_cons_self)
    have hcs : '/' ∉ cs := fun hmem => h (List.mem_cons_of_mem c hmem)
    rw [splitSlashes, if_neg hc, ih hcs]

theorem splitSlashes_append (front back : List Char) :
    splitSlashes (front ++ '/' :: back) = splitSlashes front ++ splitSlashes back := by
  induction front with
  | nil => simp [splitSlashes]
  | cons c front ih =>
    by_cases hc : c = '/'
    · simp [splitSlashes, hc, ih]
    · obtain ⟨part, rest, hsplit, hcons⟩ := splitSlashes_cons_of_ne hc front
      rw [hcons, List.cons_append, splitSlashes, if_neg hc, ih, hsplit]
      rfl

theorem parts_append_slash (front back : String) :
    parts (front ++ "/" ++ back) = parts front ++ parts back := by
  have htoList : (front ++ "/" ++ back).toList = front.toList ++ '/' :: back.toList := by simp
  rw [parts, htoList, splitSlashes_append, List.map_append, List.filter_append]
  rfl

theorem parts_append_of_endsWith {directory : String} (h : directory.endsWith "/" = true)
    (back : String) : parts (directory ++ back) = parts directory ++ parts back := by
  obtain ⟨front, hfront⟩ := endsWith_iff.mp h
  have hdirectory : directory = String.ofList front ++ "/" := by
    rw [← String.toList_inj, String.toList_append, String.toList_ofList]
    exact hfront.symm
  have hempty : parts "" = [] := by decide
  have hslash : parts (String.ofList front ++ "/") = parts (String.ofList front) := by
    have hparts := parts_append_slash (String.ofList front) ""
    rwa [String.append_empty, hempty, List.append_nil] at hparts
  rw [hdirectory, parts_append_slash, hslash]

section Names

variable {name : String} (h : IsName name)

include h

theorem parts_of_isName : parts name = [name] := by
  rw [parts, splitSlashes_of_notMem h.slash_notMem, List.map_singleton, String.ofList_toList,
    List.filter_cons_of_pos (by simp [h.ne_empty, h.ne_point]), List.filter_nil]

theorem toList_ne_nil : name.toList ≠ [] := by
  simpa using h.ne_empty

theorem parts_join (directory : String) :
    parts (join directory name) = parts directory ++ [name] := by
  rw [← parts_of_isName h, join]
  by_cases hempty : directory = ""
  · subst hempty
    rw [if_pos (by simp), String.empty_append]
    rfl
  · by_cases hends : directory.endsWith "/" = true
    · rw [if_pos (by simp [hends]), parts_append_of_endsWith hends]
    · rw [if_neg (by simp [hempty, hends]), parts_append_slash]

omit h in
theorem exists_join_eq (directory name : String) : ∃ gap,
    join directory name = directory ++ (gap ++ name) ∧ (directory = "" → gap = "") := by
  unfold join
  split
  · exact ⟨"", by rw [String.empty_append], fun _ => rfl⟩
  · rename_i hgap
    refine ⟨"/", by rw [String.append_assoc], fun hempty => ?_⟩
    exact absurd (by simp [hempty]) hgap

theorem join_ne_empty (directory : String) : join directory name ≠ "" := by
  obtain ⟨gap, hjoin, _⟩ := exists_join_eq directory name
  rw [hjoin]
  intro heq
  exact h.ne_empty (String.append_eq_empty_iff.mp (String.append_eq_empty_iff.mp heq).2).2

theorem isAbsolute_join (directory : String) :
    isAbsolute (join directory name) = isAbsolute directory := by
  obtain ⟨gap, hjoin, hgap⟩ := exists_join_eq directory name
  rw [Bool.eq_iff_iff, isAbsolute_iff, isAbsolute_iff, hjoin, String.toList_append,
    String.toList_append]
  cases hchars : directory.toList with
  | nil =>
    rw [hgap (by simpa using hchars), String.toList_empty, List.nil_append, List.nil_append]
    constructor
    · intro hslash
      exact absurd (hslash.mem List.mem_cons_self) h.slash_notMem
    · intro hslash
      cases List.prefix_nil.mp hslash
  | cons c cs =>
    rw [List.cons_append, List.cons_prefix_cons, List.cons_prefix_cons]
    simp

theorem namesDirectory_join (directory : String) : namesDirectory (join directory name) = false := by
  obtain ⟨gap, hjoin, _⟩ := exists_join_eq directory name
  have hends : name.toList <:+ (join directory name).toList := by
    rw [hjoin, String.toList_append, String.toList_append, ← List.append_assoc]
    exact List.suffix_append _ _
  have hending : ∀ rest : List Char, '/' :: rest <:+ (join directory name).toList →
      name.toList <:+ rest := by
    intro rest hrest
    rcases List.suffix_or_suffix_of_suffix hends hrest with hshort | hlong
    · rcases List.suffix_cons_iff.mp hshort with heq | hrest
      · exact absurd (heq ▸ List.mem_cons_self) h.slash_notMem
      · exact hrest
    · exact absurd (hlong.mem List.mem_cons_self) h.slash_notMem
  rw [namesDirectory, Bool.or_eq_false_iff, Bool.eq_false_iff, Bool.eq_false_iff, ne_eq, ne_eq,
    endsWith_iff, endsWith_iff]
  refine ⟨fun hslash => ?_, fun hpoint => ?_⟩
  · exact toList_ne_nil h (List.suffix_nil.mp (hending [] hslash))
  · rcases List.suffix_cons_iff.mp (hending ['.'] hpoint) with heq | hnil
    · exact h.ne_point (String.toList_inj.mp heq)
    · exact toList_ne_nil h (List.suffix_nil.mp hnil)

end Names

end Path

namespace Disk

section Entries

variable (d : Disk)

theorem get?_of_not_prefix {path : List String} (h : ¬path <+: d.workingDirectory) :
    d.get? path = (d.entries.find? (·.1 == path)).map (·.2) := by
  rw [get?, if_neg h]

theorem not_prefix_of_get?_ne {path : List String} (h : d.get? path ≠ some .directory) :
    ¬path <+: d.workingDirectory :=
  fun hprefix => h (by rw [get?, if_pos hprefix])

theorem find?_replaced (entries : List (List String × DiskEntry)) (path other : List String)
    (entry : DiskEntry) :
    (entries.map fun e => if e.1 == path then (path, entry) else e).find? (·.1 == other) =
      (entries.find? (·.1 == other)).map fun e => if e.1 == path then (path, entry) else e := by
  have hsame : ((·.1 == other) ∘ fun e : List String × DiskEntry =>
      if e.1 == path then (path, entry) else e) = (·.1 == other) := by
    funext e
    by_cases he : e.1 = path <;> simp [he]
  rw [List.find?_map, hsame]

theorem find?_put_of_ne {path other : List String} (entry : DiskEntry) (h : other ≠ path) :
    (d.put path entry).entries.find? (·.1 == other) = d.entries.find? (·.1 == other) := by
  unfold put
  dsimp only
  split
  · rw [find?_replaced]
    cases hfound : d.entries.find? (·.1 == other) with
    | none => rfl
    | some e =>
      have he : e.1 = other := by simpa using List.find?_some hfound
      rw [Option.map_some, if_neg (by simpa [he] using h)]
  · rw [List.find?_append, List.find?_cons_of_neg (by simpa using Ne.symm h), List.find?_nil,
      Option.or_none]

theorem find?_put_self (path : List String) (entry : DiskEntry) :
    (d.put path entry).entries.find? (·.1 == path) = some (path, entry) := by
  unfold put
  dsimp only
  split
  · rename_i hany
    obtain ⟨e, he⟩ := Option.isSome_iff_exists.mp (by rwa [List.isSome_find?])
    have hpath : e.1 = path := by simpa using List.find?_some he
    rw [find?_replaced, he, Option.map_some, if_pos (by simp [hpath])]
  · rename_i hany
    have hnone : d.entries.find? (·.1 == path) = none := by
      rw [← Option.not_isSome_iff_eq_none, List.isSome_find?]
      exact hany
    rw [List.find?_append, hnone, Option.none_or, List.find?_cons_of_pos (by simp)]

theorem get?_put {path : List String} (h : d.get? path ≠ some .directory) (entry : DiskEntry)
    (other : List String) :
    (d.put path entry).get? other = if other = path then some entry else d.get? other := by
  by_cases hother : other = path
  · have hprefix : ¬path <+: (d.put path entry).workingDirectory := d.not_prefix_of_get?_ne h
    rw [if_pos hother, hother, get?_of_not_prefix _ hprefix, find?_put_self]
    rfl
  · rw [if_neg hother, get?, get?, d.find?_put_of_ne entry hother]
    rfl

end Entries

/-- Whether the directories of a disk are directories of another one with the same working
directory. -/
structure Keeps (d d' : Disk) : Prop where
  workingDirectory_eq : d'.workingDirectory = d.workingDirectory
  directory : ∀ path, d.get? path = some .directory → d'.get? path = some .directory

/-- Whether a disk is another one with more directories, all of them where nothing was. -/
structure Grows (d d' : Disk) : Prop where
  workingDirectory_eq : d'.workingDirectory = d.workingDirectory
  entry : ∀ path, d'.get? path = d.get? path ∨
    d.get? path = none ∧ d'.get? path = some .directory

theorem Keeps.refl (d : Disk) : d.Keeps d := ⟨rfl, fun _ h => h⟩

theorem Keeps.trans {d e f : Disk} (hd : d.Keeps e) (he : e.Keeps f) : d.Keeps f where
  workingDirectory_eq := he.workingDirectory_eq.trans hd.workingDirectory_eq
  directory path h := he.directory path (hd.directory path h)

theorem Grows.refl (d : Disk) : d.Grows d := ⟨rfl, fun _ => .inl rfl⟩

theorem Grows.trans {d e f : Disk} (hd : d.Grows e) (he : e.Grows f) : d.Grows f := by
  refine ⟨he.workingDirectory_eq.trans hd.workingDirectory_eq, fun path => ?_⟩
  rcases hd.entry path with h | ⟨hnone, h⟩
  · rw [← h]
    exact he.entry path
  · refine .inr ⟨hnone, ?_⟩
    rcases he.entry path with h' | ⟨hnone', _⟩
    · rw [h', h]
    · rw [h] at hnone'
      cases hnone'

theorem Grows.keeps {d d' : Disk} (h : d.Grows d') : d.Keeps d' := by
  refine ⟨h.workingDirectory_eq, fun path hpath => ?_⟩
  rcases h.entry path with heq | ⟨hnone, _⟩
  · rw [heq, hpath]
  · rw [hnone] at hpath
    cases hpath

section Directories

variable {d d' : Disk}

theorem bind_eq_ok_iff {α β : Type} {x : Except DiskError α} {f : α → Except DiskError β} {b : β} :
    (x >>= f) = .ok b ↔ ∃ a, x = .ok a ∧ f a = .ok b := by
  constructor
  · intro h
    cases x with
    | error e => cases h
    | ok a => exact ⟨a, rfl, h⟩
  · rintro ⟨a, rfl, h⟩
    exact h

theorem keeps_put {path : List String} (h : d.get? path ≠ some .directory) (entry : DiskEntry) :
    d.Keeps (d.put path entry) := by
  refine ⟨rfl, fun other hother => ?_⟩
  have hne : other ≠ path := fun heq => h (heq ▸ hother)
  rw [get?_put d h, if_neg hne, hother]

theorem grows_put_directory {path : List String} (h : d.get? path = none) :
    d.Grows (d.put path .directory) := by
  refine ⟨rfl, fun other => ?_⟩
  rw [get?_put d (by rw [h]; exact nofun)]
  by_cases hother : other = path
  · rw [if_pos hother, hother]
    exact .inr ⟨h, rfl⟩
  · rw [if_neg hother]
    exact .inl rfl

theorem enter_cons_eq_ok_iff {place goal : List String} {part : String} {rest : List String} :
    d.enter place (part :: rest) = .ok goal ↔
      d.get? (stepTo place part) = some .directory ∧ d.enter (stepTo place part) rest = .ok goal := by
  rw [enter]
  constructor
  · intro h
    split at h
    · rename_i hnext
      exact ⟨hnext, h⟩
    · cases h
    · cases h
  · rintro ⟨hnext, h⟩
    rw [hnext]
    exact h

theorem Keeps.enter (h : d.Keeps d') {parts place goal : List String}
    (hd : d.enter place parts = .ok goal) : d'.enter place parts = .ok goal := by
  induction parts generalizing place with
  | nil => exact hd
  | cons part rest ih =>
    obtain ⟨hnext, hrest⟩ := enter_cons_eq_ok_iff.mp hd
    exact enter_cons_eq_ok_iff.mpr ⟨h.directory _ hnext, ih hrest⟩

theorem Keeps.start (h : d.Keeps d') (path : String) : d'.start path = d.start path := by
  rw [Disk.start, Disk.start, h.workingDirectory_eq]

theorem Keeps.reach (h : d.Keeps d') {path : String} {place : List String}
    (hd : d.reach path = .ok place) : d'.reach path = .ok place := by
  rw [Disk.reach, h.start]
  exact h.enter hd

theorem makeParts_cons_eq_ok {place : List String} {part : String} {rest : List String}
    (h : d.makeParts place (part :: rest) = .ok d') : ∃ e, d.Grows e ∧
      e.get? (stepTo place part) = some .directory ∧
        e.makeParts (stepTo place part) rest = .ok d' := by
  rw [makeParts] at h
  split at h
  · rename_i hnext
    exact ⟨d, .refl d, hnext, h⟩
  · cases h
  · rename_i hnext
    exact ⟨_, grows_put_directory hnext,
      by rw [get?_put d (by rw [hnext]; exact nofun), if_pos rfl], h⟩

theorem grows_makeParts {parts place : List String} (h : d.makeParts place parts = .ok d') :
    d.Grows d' ∧ ∃ goal, d'.enter place parts = .ok goal := by
  induction parts generalizing d place with
  | nil =>
    cases h
    exact ⟨.refl _, place, rfl⟩
  | cons part rest ih =>
    obtain ⟨e, hgrows, hnext, hrest⟩ := makeParts_cons_eq_ok h
    obtain ⟨hgrows', goal, hgoal⟩ := ih hrest
    exact ⟨hgrows.trans hgrows', goal,
      enter_cons_eq_ok_iff.mpr ⟨hgrows'.keeps.directory _ hnext, hgoal⟩⟩

theorem makeDirectory_eq_ok {path : String} (h : d.makeDirectory path = .ok d') :
    d.makeParts (d.start path) (Path.parts path) = .ok d' := by
  unfold makeDirectory at h
  by_cases hpoint : path.endsWith "/." = true
  · rw [if_pos hpoint] at h
    obtain ⟨_, _, hparts⟩ := bind_eq_ok_iff.mp h
    exact hparts
  · rw [if_neg hpoint] at h
    exact h

/-- A directory that has been made can be reached, and nothing else has changed. -/
theorem grows_makeDirectory {path : String} (h : d.makeDirectory path = .ok d') :
    d.Grows d' ∧ ∃ place, d'.reach path = .ok place := by
  obtain ⟨hgrows, place, hplace⟩ := grows_makeParts (makeDirectory_eq_ok h)
  refine ⟨hgrows, place, ?_⟩
  rw [reach, hgrows.keeps.start]
  exact hplace

end Directories

section Files

variable {d d' : Disk}

theorem write_eq_ok {path content : String} (h : d.write path content = .ok d') :
    ∃ place, d.locate path = .ok place ∧ d.get? place ≠ some .directory ∧
      d' = d.put place (.file content.toUTF8) := by
  rw [write, bind_eq_ok_iff] at h
  obtain ⟨place, hplace, h⟩ := h
  split at h
  · cases h
  · rename_i hfile
    cases h
    exact ⟨place, hplace, hfile, rfl⟩

theorem read_of_get? {path : String} {place : List String} {content : ByteArray}
    (hplace : d.locate path = .ok place) (hfile : d.get? place = some (.file content))
    (hpath : Path.namesDirectory path = false) : d.read path = .ok content := by
  rw [read, bind_eq_ok_iff]
  refine ⟨place, hplace, ?_⟩
  rw [hfile]
  dsimp only
  rw [if_neg (by simp [hpath])]
  rfl

/-- An entry of a directory is located below the place of the directory. -/
theorem locate_join {directory name : String} (hname : Path.IsName name) {place : List String}
    (hplace : d.reach directory = .ok place) :
    d.locate (Path.join directory name) = .ok (place ++ [name]) := by
  have hstart : d.start (Path.join directory name) = d.start directory := by
    rw [start, start, Path.isAbsolute_join hname]
  have hstep : stepTo place name = place ++ [name] := by
    rw [stepTo, if_neg (by simpa using hname.ne_points)]
  rw [reach] at hplace
  unfold locate
  rw [if_neg (by simpa using Path.join_ne_empty hname directory), Path.parts_join hname, hstart]
  simp only [List.getLast?_concat, List.dropLast_concat, hplace]
  exact congrArg Except.ok hstep

end Files

end Disk

end Groundplan
