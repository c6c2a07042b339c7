import Groundplan.Azure.Catalog
import Groundplan.Proofs.Disks
import Groundplan.Proofs.Layout

/-!
# What writing leaves on a disk

Writing a configuration into a directory puts its files there and leaves every other file alone. So a
second configuration takes the place of the first one as far as it has files of the same names, and
nothing removes the others.
-/

namespace Groundplan

/-- Whether operations change a disk as they are asked to or refuse it, and reading changes nothing.
What a refused writing leaves behind is not said. -/
structure FileAccess.Faithful (access : FileAccess (StateM Disk)) : Prop where
  disk_read : ∀ path d, (access.read path d).2 = d
  makeDirectory_eq_ok : ∀ path d d', access.makeDirectory path d = (.ok (), d') →
    d.makeDirectory path = .ok d'
  write_eq_ok : ∀ path content d d', access.write path content d = (.ok (), d') →
    d.write path content = .ok d'

theorem Disk.modify_eq_ok {change : Disk → Except DiskError Disk} {d d' : Disk}
    (h : Disk.modify change d = (.ok (), d')) : change d = .ok d' := by
  unfold Disk.modify at h
  split at h
  · rename_i hchange
    cases h
    exact hchange
  · cases h

theorem Disk.faithful_access : Disk.access.Faithful where
  disk_read _ _ := rfl
  makeDirectory_eq_ok path d d' h := by
    have hmodify : modify (·.makeDirectory path) d = (.ok (), d') := h
    exact modify_eq_ok hmodify
  write_eq_ok path content d d' h := by
    have hmodify : modify (·.write path content) d = (.ok (), d') := h
    exact modify_eq_ok hmodify

namespace Disk

/-- The content of the file at a place, if there is one. -/
def file? (d : Disk) (place : List String) : Option ByteArray :=
  match d.get? place with
  | some (.file content) => some content
  | _ => none

theorem file?_eq_of_get?_eq {d d' : Disk} {place : List String} (h : d'.get? place = d.get? place) :
    d'.file? place = d.file? place := by
  rw [file?, file?, h]

theorem Grows.file?_eq {d d' : Disk} (h : d.Grows d') (place : List String) :
    d'.file? place = d.file? place := by
  rcases h.entry place with heq | ⟨hnone, hdirectory⟩
  · exact file?_eq_of_get?_eq heq
  · rw [file?, file?, hnone, hdirectory]

/-- Whether a disk is another one with some files in the directory at a place. -/
structure Written (place : List String) (files : List (String × String)) (d d' : Disk) : Prop where
  inside : ∀ file ∈ files, d'.get? (place ++ [file.1]) = some (.file file.2.toUTF8)
  outside : ∀ path, (∀ file ∈ files, path ≠ place ++ [file.1]) → d'.get? path = d.get? path
  keeps : d.Keeps d'

namespace Written

variable {place : List String} {d d' : Disk}

theorem nil : Written place [] d d where
  inside _ h := absurd h List.not_mem_nil
  outside _ _ := rfl
  keeps := .refl d

theorem cons {file : String × String} {files : List (String × String)}
    (hfree : file.1 ∉ files.map (·.1)) (hfile : d.get? (place ++ [file.1]) ≠ some .directory)
    (h : Written place files (d.put (place ++ [file.1]) (.file file.2.toUTF8)) d') :
    Written place (file :: files) d d' := by
  have hother : ∀ other ∈ files, place ++ [file.1] ≠ place ++ [other.1] := by
    intro other hmem heq
    have hname : file.1 = other.1 := by simpa using heq
    exact hfree (hname ▸ List.mem_map_of_mem hmem)
  refine ⟨fun other hmem => ?_, fun path hpath => ?_, (keeps_put hfile _).trans h.keeps⟩
  · rcases List.mem_cons.mp hmem with rfl | hmem
    · rw [h.outside _ hother, get?_put d hfile, if_pos rfl]
    · exact h.inside other hmem
  · rw [h.outside path fun other hmem => hpath other (List.mem_cons_of_mem _ hmem),
      get?_put d hfile, if_neg (hpath file List.mem_cons_self)]

end Written

end Disk

section Writing

variable {access : FileAccess (StateM Disk)} {directory : String} {d d' : Disk}

theorem run_bind {α β : Type} (x : StateM Disk α) (f : α → StateM Disk β) :
    (x >>= f) d = f (x d).1 (x d).2 := rfl

theorem bind_eq_ok {ε α β : Type} {x : StateM Disk (Except ε α)}
    {f : Except ε α → StateM Disk (Except ε β)} {b : β}
    (hf : ∀ error e, (f (.error error) e).1 = .error error) (h : (x >>= f) d = (.ok b, d')) :
    ∃ a e, x d = (.ok a, e) ∧ f (.ok a) e = (.ok b, d') := by
  rw [run_bind] at h
  cases hx : x d with
  | mk outcome e =>
    rw [hx] at h
    cases outcome with
    | error error =>
      have hfails := hf error e
      rw [h] at hfails
      cases hfails
    | ok a => exact ⟨a, e, rfl, h⟩

theorem writeFiles_cons_eq_ok {file : String × String} {files : List (String × String)}
    {paths : List String} (h : writeFiles access directory (file :: files) d = (.ok paths, d')) :
    ∃ e rest, access.write (Path.join directory file.1) file.2 d = (.ok (), e) ∧
      writeFiles access directory files e = (.ok rest, d') := by
  rw [writeFiles] at h
  obtain ⟨⟨⟩, e, hwrite, hothers⟩ := bind_eq_ok (fun _ _ => rfl) h
  obtain ⟨rest, _, hfiles, hdone⟩ := bind_eq_ok (fun _ _ => rfl) hothers
  cases hdone
  exact ⟨e, rest, hwrite, hfiles⟩

theorem writeTo_eq_ok {c : Compiled} {paths : List String}
    (h : c.writeTo access directory d = (.ok paths, d')) :
    ∃ e, access.makeDirectory directory d = (.ok (), e) ∧
      writeFiles access directory c.files.entries e = (.ok paths, d') := by
  rw [Compiled.writeTo] at h
  obtain ⟨⟨⟩, e, hmake, hfiles⟩ := bind_eq_ok (fun _ _ => rfl) h
  exact ⟨e, hmake, hfiles⟩

/-- Each file goes to its place below that of the directory, over whatever file was there. -/
theorem written_writeFiles (hf : access.Faithful) {place : List String}
    {files : List (String × String)} (hplace : d.reach directory = .ok place)
    (hnames : ∀ file ∈ files, Path.IsName file.1) (hn : (files.map (·.1)).Nodup)
    {paths : List String} (h : writeFiles access directory files d = (.ok paths, d')) :
    Disk.Written place files d d' := by
  induction files generalizing d paths with
  | nil =>
    cases h
    exact .nil
  | cons file files ih =>
    obtain ⟨hfree, hrest⟩ := List.nodup_cons.mp hn
    obtain ⟨e, rest, hwrite, hfiles⟩ := writeFiles_cons_eq_ok h
    obtain ⟨located, hlocated, hfile, rfl⟩ :=
      Disk.write_eq_ok (hf.write_eq_ok _ _ _ _ hwrite)
    have hname := hnames file List.mem_cons_self
    rw [Disk.locate_join hname hplace] at hlocated
    cases hlocated
    exact .cons hfree hfile (ih ((Disk.keeps_put hfile _).reach hplace)
      (fun other hmem => hnames other (List.mem_cons_of_mem _ hmem)) hrest hfiles)

end Writing

/-- The names that files of a configuration can have. -/
def generatedNames : List String := Compiled.fileNames ++ ["terraform.tfvars"]

theorem isName_of_mem_generatedNames {name : String} (h : name ∈ generatedNames) :
    Path.IsName name := by
  have hall : ∀ name ∈ generatedNames, name ≠ "" ∧ name ≠ "." ∧ name ≠ ".." ∧
      '/' ∉ name.toList := by decide
  obtain ⟨hempty, hpoint, hpoints, hslash⟩ := hall name h
  exact ⟨hempty, hpoint, hpoints, hslash⟩

namespace Compiled

variable (c : Compiled)

theorem mem_generatedNames_of_get? {name text : String} (h : c.files.get? name = some text) :
    name ∈ generatedNames := by
  rcases c.get?_files.mp h with ⟨hne, _⟩ | ⟨rfl, _⟩
  · exact List.mem_append_left _ (c.mem_fileNames_of_placedIn_ne_nil hne)
  · exact List.mem_append_right _ List.mem_cons_self

theorem isName_of_mem_files {file : String × String} (h : file ∈ c.files.entries) :
    Path.IsName file.1 :=
  isName_of_mem_generatedNames (c.mem_generatedNames_of_get? (Dictionary.mem_entries_iff.mp h))

variable {c} {access : FileAccess (StateM Disk)} {directory : String} {d d' : Disk}
  {paths : List String}

theorem exists_written_writeTo (hf : access.Faithful)
    (h : c.writeTo access directory d = (.ok paths, d')) :
    ∃ e place, d.Grows e ∧ e.reach directory = .ok place ∧
      Disk.Written place c.files.entries e d' := by
  obtain ⟨e, hmake, hfiles⟩ := writeTo_eq_ok h
  obtain ⟨hgrows, place, hplace⟩ :=
    Disk.grows_makeDirectory (hf.makeDirectory_eq_ok _ _ _ hmake)
  exact ⟨e, place, hgrows, hplace, written_writeFiles hf hplace
    (fun _ => c.isName_of_mem_files) c.files.nodup_keys hfiles⟩

/-- What is in the directory afterwards: the files of the configuration, and besides them what was
there before. -/
theorem file?_writeTo (hf : access.Faithful)
    (h : c.writeTo access directory d = (.ok paths, d')) :
    d.Keeps d' ∧ ∃ place, d'.reach directory = .ok place ∧
      (∀ name, d'.file? (place ++ [name]) =
        ((c.files.get? name).map (·.toUTF8)).or (d.file? (place ++ [name]))) ∧
      ∀ path, (∀ name ∈ generatedNames, path ≠ place ++ [name]) → d'.file? path = d.file? path := by
  obtain ⟨e, place, hgrows, hplace, hwritten⟩ := exists_written_writeTo hf h
  refine ⟨hgrows.keeps.trans hwritten.keeps, place, hwritten.keeps.reach hplace, fun name => ?_,
    fun path hpath => ?_⟩
  · cases hname : c.files.get? name with
    | some text =>
      have hfile := hwritten.inside (name, text) (Dictionary.mem_entries_iff.mpr hname)
      rw [Disk.file?, hfile]
      rfl
    | none =>
      have hfree : ∀ file ∈ c.files.entries, place ++ [name] ≠ place ++ [file.1] := by
        rintro ⟨other, text⟩ hmem heq
        obtain rfl : name = other := by simpa using heq
        rw [Dictionary.mem_entries_iff.mp hmem] at hname
        cases hname
      rw [Disk.file?_eq_of_get?_eq (hwritten.outside _ hfree), hgrows.file?_eq]
      rfl
  · have hfree : ∀ file ∈ c.files.entries, path ≠ place ++ [file.1] := fun file hmem =>
      hpath file.1 (c.mem_generatedNames_of_get? (Dictionary.mem_entries_iff.mp hmem))
    rw [Disk.file?_eq_of_get?_eq (hwritten.outside _ hfree), hgrows.file?_eq]

theorem read_writeTo (hf : access.Faithful)
    (h : c.writeTo access directory d = (.ok paths, d')) {file : String × String}
    (hfile : file ∈ c.files.entries) :
    d'.read (Path.join directory file.1) = .ok file.2.toUTF8 := by
  obtain ⟨e, place, _, hplace, hwritten⟩ := exists_written_writeTo hf h
  have hname := c.isName_of_mem_files hfile
  have hlocated := Disk.locate_join hname (hwritten.keeps.reach hplace)
  exact Disk.read_of_get? hlocated (hwritten.inside file hfile)
    (Path.namesDirectory_join hname directory)

end Compiled

/-- After two configurations have been written into a directory without generated files, the second
one is there in full, and of the first one the files under other names. So the directory holds the
second one alone just if that has a file wherever the first one does. No other file has changed. -/
theorem rewriting_keeps_leftovers {access : FileAccess (StateM Disk)} (hf : access.Faithful)
    {first second : Compiled} {directory : String} {d e f : Disk}
    {firstPaths secondPaths : List String}
    (hfirst : first.writeTo access directory d = (.ok firstPaths, e))
    (hsecond : second.writeTo access directory e = (.ok secondPaths, f)) :
    ∃ place, f.reach directory = .ok place ∧
      (∀ path, (∀ name ∈ generatedNames, path ≠ place ++ [name]) → f.file? path = d.file? path) ∧
      ((∀ name ∈ generatedNames, d.get? (place ++ [name]) = none) →
        (∀ name ∈ generatedNames, f.file? (place ++ [name]) =
          ((second.files.get? name).or (first.files.get? name)).map (·.toUTF8)) ∧
        ((∀ name ∈ generatedNames,
            f.file? (place ++ [name]) = (second.files.get? name).map (·.toUTF8)) ↔
          ∀ name ∈ first.files.keys, name ∈ second.files.keys)) := by
  obtain ⟨_, place, hplace, hinside, houtside⟩ := Compiled.file?_writeTo hf hfirst
  obtain ⟨hkeeps, place', hplace', hinside', houtside'⟩ := Compiled.file?_writeTo hf hsecond
  obtain rfl : place = place' := Except.ok.inj ((hkeeps.reach hplace).symm.trans hplace')
  refine ⟨place, hplace', fun path hpath => ?_, fun hfree => ?_⟩
  · rw [houtside' path hpath, houtside path hpath]
  · have hfiles : ∀ name ∈ generatedNames, f.file? (place ++ [name]) =
        ((second.files.get? name).or (first.files.get? name)).map (·.toUTF8) := by
      intro name hname
      have hnone : d.file? (place ++ [name]) = none := by
        rw [Disk.file?, hfree name hname]
      rw [hinside', hinside, hnone, Option.or_none, Option.map_or]
    refine ⟨hfiles, fun hexact name hname => ?_, fun hcovers name hname => ?_⟩
    · rw [Dictionary.mem_keys_iff] at hname ⊢
      obtain ⟨text, htext⟩ := Option.isSome_iff_exists.mp hname
      have hgenerated := first.mem_generatedNames_of_get? htext
      have hsame := (hfiles name hgenerated).symm.trans (hexact name hgenerated)
      cases hown : second.files.get? name with
      | some other => rfl
      | none =>
        rw [hown, htext] at hsame
        cases hsame
    · rw [hfiles name hname]
      cases hown : second.files.get? name with
      | some text => rfl
      | none =>
        have hnone : first.files.get? name = none := by
          rw [← Option.not_isSome_iff_eq_none, ← Dictionary.mem_keys_iff]
          intro hmem
          have hcovered := Dictionary.mem_keys_iff.mp (hcovers name hmem)
          rw [hown] at hcovered
          cases hcovered
        rw [hnone]
        rfl

theorem writeTo_eq_of_isSome {access : FileAccess (StateM Disk)} {c : Compiled}
    {directory : String} {d : Disk} (h : (c.writeTo access directory d).1.toOption.isSome) :
    ∃ paths, c.writeTo access directory d = (.ok paths, (c.writeTo access directory d).2) := by
  cases hrun : c.writeTo access directory d with
  | mk outcome d' =>
    rw [hrun] at h
    cases outcome with
    | error e => cases h
    | ok paths => exact ⟨paths, rfl⟩

def taggedConfiguration : Compiled :=
  Diagram.compileConsistent { project := Project.addTag {} "env" "prod" } Azure.catalog

def untaggedConfiguration : Compiled := Diagram.compileConsistent {} Azure.catalog

/-- A directory outside the working directory with a file that is none of a configuration. -/
def notedDisk : Disk where
  entries := [(["srv"], .directory), (["srv", "out"], .directory),
    (["srv", "out", "notes.txt"], .file "keep".toUTF8)]
  workingDirectory := ["home"]

/-- The disk with the configuration that has tags, and then with the one that has none. -/
def taggedDisk : Disk := (taggedConfiguration.writeTo Disk.access "/srv/out" notedDisk).2

def retaggedDisk : Disk := (untaggedConfiguration.writeTo Disk.access "/srv/out" taggedDisk).2

theorem exists_writeTo_tagged : ∃ paths,
    taggedConfiguration.writeTo Disk.access "/srv/out" notedDisk = (.ok paths, taggedDisk) :=
  writeTo_eq_of_isSome (by decide +kernel)

theorem exists_writeTo_untagged : ∃ paths,
    untaggedConfiguration.writeTo Disk.access "/srv/out" taggedDisk = (.ok paths, retaggedDisk) :=
  writeTo_eq_of_isSome (by decide +kernel)

theorem reach_retaggedDisk : retaggedDisk.reach "/srv/out" = .ok ["srv", "out"] := by
  decide +kernel

theorem get?_notedDisk :
    ∀ name ∈ generatedNames, notedDisk.get? (["srv", "out"] ++ [name]) = none := by
  decide

theorem get?_locals_untagged : untaggedConfiguration.files.get? "locals.tf" = none := by
  decide +kernel

theorem rewriting_keeps_leftovers_untagged : Disk.access.Faithful ∧ ∃ firstPaths secondPaths,
    taggedConfiguration.writeTo Disk.access "/srv/out" notedDisk = (.ok firstPaths, taggedDisk) ∧
    untaggedConfiguration.writeTo Disk.access "/srv/out" taggedDisk =
      (.ok secondPaths, retaggedDisk) ∧
    retaggedDisk.file? ["srv", "out", "notes.txt"] = some "keep".toUTF8 ∧
    retaggedDisk.file? ["srv", "out", "terraform.tf"] =
      (untaggedConfiguration.files.get? "terraform.tf").map (·.toUTF8) ∧
    retaggedDisk.file? ["srv", "out", "locals.tf"] =
      (taggedConfiguration.files.get? "locals.tf").map (·.toUTF8) := by
  obtain ⟨firstPaths, hfirst⟩ := exists_writeTo_tagged
  obtain ⟨secondPaths, hsecond⟩ := exists_writeTo_untagged
  obtain ⟨place, hplace, houtside, hinside⟩ :=
    rewriting_keeps_leftovers Disk.faithful_access hfirst hsecond
  obtain rfl : ["srv", "out"] = place := Except.ok.inj (reach_retaggedDisk.symm.trans hplace)
  have hterraform : (untaggedConfiguration.files.get? "terraform.tf").isSome := by decide +kernel
  obtain ⟨text, htext⟩ := Option.isSome_iff_exists.mp hterraform
  have hfiles := (hinside get?_notedDisk).1
  refine ⟨Disk.faithful_access, firstPaths, secondPaths, hfirst, hsecond, ?_, ?_, ?_⟩
  · exact (houtside ["srv", "out", "notes.txt"] (by decide)).trans rfl
  · refine (hfiles "terraform.tf" (by decide)).trans ?_
    rw [htext]
    rfl
  · refine (hfiles "locals.tf" (by decide)).trans ?_
    rw [get?_locals_untagged, Option.none_or]

/-- The file with the tags stays when a configuration without tags is written. -/
theorem leftover_after_rewriting : ∃ firstPaths secondPaths,
    taggedConfiguration.writeTo Disk.access "/srv/out" notedDisk = (.ok firstPaths, taggedDisk) ∧
    untaggedConfiguration.writeTo Disk.access "/srv/out" taggedDisk =
      (.ok secondPaths, retaggedDisk) ∧
    retaggedDisk.reach "/srv/out" = .ok ["srv", "out"] ∧
    (∀ name ∈ generatedNames, notedDisk.get? (["srv", "out"] ++ [name]) = none) ∧
    ¬∀ name ∈ generatedNames, retaggedDisk.file? (["srv", "out"] ++ [name]) =
      (untaggedConfiguration.files.get? name).map (·.toUTF8) := by
  obtain ⟨firstPaths, hfirst⟩ := exists_writeTo_tagged
  obtain ⟨secondPaths, hsecond⟩ := exists_writeTo_untagged
  refine ⟨firstPaths, secondPaths, hfirst, hsecond, reach_retaggedDisk, get?_notedDisk,
    fun hexact => ?_⟩
  have hleft : (retaggedDisk.file? (["srv", "out"] ++ ["locals.tf"])).isSome := by decide +kernel
  rw [hexact "locals.tf" (by decide), get?_locals_untagged] at hleft
  cases hleft

end Groundplan
