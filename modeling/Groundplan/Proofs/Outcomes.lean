import Groundplan.CommandLine.Execution
import Groundplan.Proofs.Constraints
import Groundplan.Proofs.Printing
import Groundplan.Proofs.Restoring
import Groundplan.Proofs.Writing

/-!
# Outcomes of compilations

How the command ends that compiles a stored diagram: the first step that fails decides about the exit
code. Up to the writing of files a failure leaves nothing behind, neither in the output nor on the
disk, and a compilation that is carried out emits all of its result, whatever it has found.
-/

namespace Groundplan

theorem Text.occursIn_iff {part text : List Char} :
    Text.occursIn part text = true ↔ part <:+: text := by
  induction text with
  | nil => simp [Text.occursIn]
  | cons c cs ih =>
    rw [Text.occursIn, Bool.or_eq_true, List.isPrefixOf_iff_prefix, ih, List.infix_cons_iff]

namespace Failure

theorem exitCode_known (contexts : List String) (e : CompileError) :
    (Failure.mk contexts (.known e)).exitCode = e.exitCode := rfl

theorem exitCode_words (words : String) :
    (Failure.mk [] (.words words)).exitCode = codeOfWords words := rfl

theorem codeOfWords_of_occursIn {words : String}
    (h : Text.occursIn "error finding".toList (Text.lowercase words).toList = true) :
    codeOfWords words = 3 := by
  unfold codeOfWords
  simp only [h, if_true]
  rfl

/-- However many errors have been found, the words of the failure tell of them. -/
theorem exitCode_errorFindings (count : Nat) : (errorFindings count).exitCode = 3 := by
  have hsmall : " error finding(s)".toList.all (fun ch =>
      decide (ch.toNat < 0xc0 ∧ ¬(0x41 ≤ ch.toNat ∧ ch.toNat ≤ 0x5a))) = true := rfl
  have hlower : ∀ ch ∈ " error finding(s)".toList, Text.IsLowercase ch := by
    intro ch hch
    have hrange := of_decide_eq_true (List.all_eq_true.mp hsmall ch hch)
    exact Text.isLowercase_of_toNat_lt hrange.1 hrange.2
  have hpart : "error finding".toList <:+: " error finding(s)".toList :=
    ⟨" ".toList, "(s)".toList, rfl⟩
  have hend := Text.suffix_lowercase ("Compilation produced " ++ toString count) hlower
  rw [errorFindings, exitCode_words]
  exact codeOfWords_of_occursIn (Text.occursIn_iff.mpr (hpart.trans hend.isInfix))

theorem exitCode_outcome (f : Failure) (output diagnostics : String) :
    (f.outcome output diagnostics).exitCode = f.exitCode := rfl

end Failure

section Loading

variable {n : Notations} {access : FileAccess (StateM Disk)} {α : Type} {read : Reader α}
  {path text : String}

/-- The text of a file; nothing if the file cannot be read or holds no text. -/
def FileAccess.text? (access : FileAccess (StateM Disk)) (d : Disk) (path : String) :
    Option String :=
  match (access.read path d).1 with
  | .ok content => String.fromUTF8? content
  | .error _ => none

/-- The value that a text stands for in a file of the given name. -/
def Notations.parse? (n : Notations) (read : Reader α) (path text : String) : Option α :=
  if Path.isJson path then (n.readJson read text).toOption
  else (n.readYaml read text).toOption

/-- How the loading of a file ends when its text is as given. -/
inductive Loaded (n : Notations) (read : Reader α) (path : String) :
    Option String → Except CompileError α → Prop
  | unreadable (e : DiskError) : Loaded n read path none (.error (.disk e))
  | unfit {text : String} (e : CompileError) (hparse : n.parse? read path text = none)
      (hcode : e.exitCode = 2) : Loaded n read path (some text) (.error e)
  | fit {text : String} {value : α} (hparse : n.parse? read path text = some value) :
      Loaded n read path (some text) (.ok value)

theorem Loaded.of_mapError {x : Except TextFault α} {f : TextFault → CompileError}
    (hcode : ∀ e, (f e).exitCode = 2) (hparse : n.parse? read path text = x.toOption) :
    Loaded n read path (some text) (x.mapError f) := by
  cases x with
  | error e => exact .unfit (f e) hparse (hcode e)
  | ok value => exact .fit hparse

theorem loaded_loadContent (content : ByteArray) :
    Loaded n read path (String.fromUTF8? content) (loadContent n read path content) := by
  unfold loadContent
  cases String.fromUTF8? content with
  | none => exact .unreadable .notText
  | some text =>
    dsimp only
    split
    · rename_i hjson
      exact .of_mapError (fun _ => rfl) (if_pos hjson)
    · rename_i hyaml
      exact .of_mapError (fun _ => rfl) (if_neg hyaml)

theorem exists_loadFile (hf : access.Faithful) (n : Notations) (read : Reader α) (path : String)
    (d : Disk) : ∃ outcome, loadFile n access read path d = (outcome, d) ∧
      Loaded n read path (access.text? d path) outcome := by
  have hdisk := hf.disk_read path d
  rw [loadFile, run_bind, FileAccess.text?, hdisk]
  cases (access.read path d).1 with
  | error e => exact ⟨_, rfl, .unreadable e⟩
  | ok content => exact ⟨_, rfl, loaded_loadContent content⟩

theorem exists_loadFile_of_unreadable (hf : access.Faithful) (n : Notations) (read : Reader α)
    {d : Disk} (htext : access.text? d path = none) :
    ∃ cause, loadFile n access read path d = (.error (.disk cause), d) := by
  obtain ⟨outcome, hload, hloaded⟩ := exists_loadFile hf n read path d
  rw [htext] at hloaded
  cases hloaded with
  | unreadable cause => exact ⟨cause, hload⟩

theorem exists_loadFile_of_unfit (hf : access.Faithful) {d : Disk}
    (htext : access.text? d path = some text) (hparse : n.parse? read path text = none) :
    ∃ e : CompileError, loadFile n access read path d = (.error e, d) ∧ e.exitCode = 2 := by
  obtain ⟨outcome, hload, hloaded⟩ := exists_loadFile hf n read path d
  rw [htext] at hloaded
  cases hloaded with
  | unfit e _ hcode => exact ⟨e, hload, hcode⟩
  | fit hvalue =>
    rw [hparse] at hvalue
    cases hvalue

theorem loadFile_of_fit (hf : access.Faithful) {d : Disk} {value : α}
    (htext : access.text? d path = some text) (hparse : n.parse? read path text = some value) :
    loadFile n access read path d = (.ok value, d) := by
  obtain ⟨outcome, hload, hloaded⟩ := exists_loadFile hf n read path d
  rw [htext] at hloaded
  cases hloaded with
  | unfit e hnone _ =>
    rw [hparse] at hnone
    cases hnone
  | fit hvalue =>
    rw [hparse] at hvalue
    cases hvalue
    exact hload

theorem Notations.parse?_of_stores {write : α → Json} (h : Restores read write)
    (hjson : Path.isJson path = true) {value : α} (hstores : n.Stores text (write value)) :
    n.parse? read path text = some value := by
  rw [parse?, if_pos hjson, hstores read, h value]
  rfl

end Loading

section Reporting

variable {n : Notations}

theorem isPlain_ofStrings (bound : Nat) (items : List String) :
    (Json.ofStrings items).isPlain (bound + 1) = true := by
  rw [Json.ofStrings, Json.isPlain_array_iff, Json.arePlainItems_iff]
  intro item hitem
  obtain ⟨s, _, rfl⟩ := List.mem_map.mp hitem
  rfl

theorem isPlain_optional (bound : Nat) (name : String) (text : Option String) :
    ∀ m ∈ Json.optional name (text.map .string), m.2.isPlain bound = true := by
  cases text with
  | none => exact nofun
  | some s =>
    intro m hm
    rw [List.mem_singleton.mp hm]
    rfl

theorem Finding.isPlain_toJson (bound : Nat) (f : Finding) :
    f.toJson.isPlain (bound + 1) = true := by
  rw [Finding.toJson, Json.isPlain_object_iff, Json.arePlainMembers_iff, List.forall_mem_append,
    List.forall_mem_append]
  refine ⟨⟨?_, isPlain_optional bound "node_id" f.node⟩, isPlain_optional bound "edge_id" f.edge⟩
  simp [Json.isPlain]

theorem Compiled.isPlain_reportJson (c : Compiled) (delivery : Delivery) :
    (c.reportJson delivery).isPlain Json.depthLimit = true := by
  have hfindings : Json.arePlainItems 125 (c.findings.map (·.toJson)) = true := by
    rw [Json.arePlainItems_iff, List.forall_mem_map]
    exact fun f _ => f.isPlain_toJson 124
  rw [reportJson, Json.depthLimit, Json.isPlain_object_iff, Json.arePlainMembers_iff,
    List.forall_mem_append]
  refine ⟨?_, ?_⟩
  · cases delivery with
    | document => exact isPlain_optional 126 "document" (some c.document)
    | files paths => exact nofun
  · simp [hfindings, isPlain_ofStrings, Json.isPlain]

/-- Whether a text shows the document of a configuration: alone, or as the part of a report that has
its name. -/
def Compiled.Shows (n : Notations) (c : Compiled) (output : String) : Format → Prop
  | .text => output = c.document
  | .json => ∃ text members, output = text ++ "\n" ∧ n.Stores text (.object members) ∧
      (Json.object members).get? "document" = some (.string c.document)

/-- Whatever has been delivered can be reported, and so the document is shown if there are no
files. -/
theorem Compiled.exists_report (hn : n.Faithful) (c : Compiled) (delivery : Delivery)
    (format : Format) : ∃ output diagnostics,
      c.report n delivery format = .ok (output, diagnostics) ∧
        (delivery = .document → c.Shows n output format) := by
  cases format with
  | text =>
    refine ⟨_, _, rfl, ?_⟩
    rintro rfl
    rfl
  | json =>
    obtain ⟨text, hprint, hstores⟩ := hn.exists_printJson _ (c.isPlain_reportJson delivery)
    refine ⟨text ++ "\n", "", ?_, ?_⟩
    · rw [report, Notations.printLine, hprint]
      rfl
    · rintro rfl
      exact ⟨text, _, rfl, hstores, rfl⟩

end Reporting

/-- Whether a command has ended with an exit code and nothing else to show for it. -/
structure EndsSilently (code : Nat) (d : Disk) (result : Outcome × Disk) : Prop where
  exitCode_eq : result.1.exitCode = code
  output_eq : result.1.output = ""
  disk_eq : result.2 = d

namespace Command

variable {n : Notations} {access : FileAccess (StateM Disk)} {d : Disk} {snapshot : String}
  {project out : Option String}

/-- What a compilation emits: its document and no file, or all of its files, each of which can be
read in the directory. -/
def Emits (n : Notations) (c : Compiled) (format : Format) (d : Disk) (result : Outcome × Disk) :
    Option String → Prop
  | none => c.Shows n result.1.output format ∧ result.2 = d
  | some directory => ∀ file ∈ c.files.entries,
      result.2.read (Path.join directory file.1) = .ok file.2.toUTF8

/-- Whether a configuration cannot be written to where it is asked for. -/
def Unwritable (access : FileAccess (StateM Disk)) (c : Compiled) (out : Option String)
    (d : Disk) : Prop :=
  ∃ directory ∈ out, ∃ e, (c.writeTo access directory d).1 = .error e

/-- The settings of a compilation: those of the project file if there is one, else the stored ones. -/
def Settles (n : Notations) (access : FileAccess (StateM Disk)) (d : Disk) (stored : Diagram)
    (settings : Project) : Option String → Prop
  | none => settings = stored.project
  | some path => ∃ text, access.text? d path = some text ∧
      n.parse? Project.read path text = some settings

section Stages

variable {catalog : Catalog} {format : Format} {stored : Diagram} {c : Compiled}

theorem loadDiagram_of_error {e : CompileError}
    (h : loadFile n access Diagram.read snapshot d = (.error e, d)) : ∃ context,
      loadDiagram n access snapshot project d = (.error (.during context e), d) := by
  rw [loadDiagram, run_bind, h]
  exact ⟨_, rfl⟩

theorem loadDiagram_of_project_error {path : String} {e : CompileError}
    (hstored : loadFile n access Diagram.read snapshot d = (.ok stored, d))
    (h : loadFile n access Project.read path d = (.error e, d)) : ∃ context,
      loadDiagram n access snapshot (some path) d = (.error (.during context e), d) := by
  rw [loadDiagram, run_bind, hstored]
  dsimp only
  rw [run_bind, h]
  exact ⟨_, rfl⟩

theorem loadDiagram_of_settles (hf : access.Faithful)
    (hstored : loadFile n access Diagram.read snapshot d = (.ok stored, d)) {settings : Project}
    (h : Settles n access d stored settings project) :
    loadDiagram n access snapshot project d = (.ok { stored with project := settings }, d) := by
  rw [loadDiagram, run_bind, hstored]
  cases project with
  | none =>
    obtain rfl : settings = stored.project := h
    rfl
  | some path =>
    obtain ⟨text, htext, hparse⟩ := h
    dsimp only
    rw [run_bind, loadFile_of_fit hf htext hparse]
    rfl

theorem endsSilently_of_error {e : CompileError}
    (h : ∃ context, loadDiagram n access snapshot project d = (.error (.during context e), d)) :
    EndsSilently e.exitCode d
      ((Command.compile snapshot project out format).run n access catalog d) := by
  obtain ⟨context, h⟩ := h
  have hrun : (Command.compile snapshot project out format).run n access catalog d =
      ((Failure.during context e).outcome, d) := by
    show compileStored n access catalog snapshot project out format d = _
    rw [compileStored, run_bind, h]
    rfl
  rw [hrun]
  exact ⟨Failure.exitCode_known [context] e, rfl, rfl⟩

theorem endsSilently_of_inconsistent {diagram : Diagram}
    (h : loadDiagram n access snapshot project d = (.ok diagram, d))
    (hcheck : diagram.check ≠ .ok ()) :
    EndsSilently 2 d ((Command.compile snapshot project out format).run n access catalog d) := by
  obtain ⟨e, he⟩ : ∃ e, diagram.compile catalog = .error e := by
    unfold Diagram.compile
    cases hresult : diagram.check with
    | error e => exact ⟨e, rfl⟩
    | ok done => exact absurd hresult hcheck
  have hrun : (Command.compile snapshot project out format).run n access catalog d =
      ((Failure.during "Failed to compile diagram" (.inconsistent e)).outcome, d) := by
    show compileStored n access catalog snapshot project out format d = _
    rw [compileStored, run_bind, h]
    simp only [he]
    rfl
  rw [hrun]
  exact ⟨rfl, rfl, rfl⟩

/-- Errors among the findings show in the exit code alone. -/
theorem exists_compilationOutcome (hn : n.Faithful) (c : Compiled) (delivery : Delivery)
    (format : Format) :
    (compilationOutcome n c delivery format).exitCode =
        (if ∃ f ∈ c.findings, f.severity = .error then 3 else 0) ∧
      (delivery = .document →
        c.Shows n (compilationOutcome n c delivery format).output format) := by
  obtain ⟨output, diagnostics, hreport, hshows⟩ := c.exists_report hn delivery format
  have herrors : (∃ f ∈ c.findings, f.severity = .error) ↔ 0 < Finding.count .error c.findings := by
    simp [Finding.count, List.countP_pos_iff]
  unfold compilationOutcome
  rw [hreport]
  dsimp only
  split
  · rename_i hcount
    rw [if_neg (by rw [herrors, hcount]; exact Nat.lt_irrefl 0)]
    exact ⟨rfl, hshows⟩
  · rename_i hcount
    rw [if_pos (herrors.mpr (Nat.pos_of_ne_zero hcount)), Failure.exitCode_outcome,
      Failure.exitCode_errorFindings]
    exact ⟨rfl, hshows⟩

section Delivery

variable {diagram : Diagram} (hload : loadDiagram n access snapshot project d = (.ok diagram, d))
  (hcompile : diagram.compile catalog = .ok c)

include hload hcompile

theorem run_of_compile (format : Format) :
    (Command.compile snapshot project out format).run n access catalog d =
      ((match (deliver access c out d).1 with
        | .error failure => failure.outcome
        | .ok delivery => compilationOutcome n c delivery format), (deliver access c out d).2) := by
  show compileStored n access catalog snapshot project out format d = _
  rw [compileStored, run_bind, hload]
  simp only [hcompile]
  rw [run_bind]
  cases (deliver access c out d).1 <;> rfl

theorem exitCode_of_unwritable (h : Unwritable access c out d) :
    ((Command.compile snapshot project out format).run n access catalog d).1.exitCode = 5 := by
  obtain ⟨directory, rfl, e, he⟩ := h
  obtain ⟨context, hdeliver⟩ : ∃ context, (deliver access c (some directory) d).1 =
      .error (.during context (.disk e)) := by
    rw [deliver, run_bind, he]
    exact ⟨_, rfl⟩
  rw [run_of_compile hload hcompile, hdeliver]
  rfl

/-- What can be written is delivered, and reported of whatever else there is to say. -/
theorem exists_delivery (h : ¬Unwritable access c out d) (format : Format) : ∃ delivery d',
    (Command.compile snapshot project out format).run n access catalog d =
      (compilationOutcome n c delivery format, d') ∧
    match out with
    | none => delivery = .document ∧ d' = d
    | some directory => ∃ paths, c.writeTo access directory d = (.ok paths, d') := by
  rw [run_of_compile hload hcompile]
  cases out with
  | none => exact ⟨.document, d, rfl, rfl, rfl⟩
  | some directory =>
    cases hwrite : c.writeTo access directory d with
    | mk outcome d' =>
      cases outcome with
      | error e => exact absurd ⟨directory, rfl, e, by rw [hwrite]⟩ h
      | ok paths =>
        have hdeliver : deliver access c (some directory) d = (.ok (.files paths), d') := by
          rw [deliver, run_bind, hwrite]
          rfl
        rw [hdeliver]
        exact ⟨.files paths, d', rfl, paths, hwrite⟩

theorem emits_of_writable (hn : n.Faithful) (hf : access.Faithful)
    (h : ¬Unwritable access c out d) (format : Format) :
    let result := (Command.compile snapshot project out format).run n access catalog d
    result.1.exitCode = (if ∃ f ∈ c.findings, f.severity = .error then 3 else 0) ∧
      Emits n c format d result out := by
  obtain ⟨delivery, d', hrun, hdelivery⟩ := exists_delivery hload hcompile h format
  obtain ⟨hcode, hshows⟩ := exists_compilationOutcome hn c delivery format
  dsimp only
  rw [hrun]
  refine ⟨hcode, ?_⟩
  cases out with
  | none => exact ⟨hshows hdelivery.1, hdelivery.2⟩
  | some directory =>
    obtain ⟨paths, hwrite⟩ := hdelivery
    exact fun file hfile => Compiled.read_writeTo hf hwrite hfile

end Delivery

end Stages

/-- The outcome of a compilation for whatever stands in the files. The first of its steps that fails
(reading the diagram, reading the project, the check of the diagram, writing) decides about the exit
code; up to the check nothing is shown or written, and if all succeed everything is. The stored form
of a diagram or project is read as what has been stored. -/
theorem compile_outcome (hn : n.Faithful) (hf : access.Faithful) (catalog : Catalog)
    (snapshot : String) (project out : Option String) (format : Format) (d : Disk) :
    let result := (Command.compile snapshot project out format).run n access catalog d
    (access.text? d snapshot = none → EndsSilently 5 d result) ∧
    (∀ text, access.text? d snapshot = some text → n.parse? Diagram.read snapshot text = none →
      EndsSilently 2 d result) ∧
    (∀ text stored, access.text? d snapshot = some text →
      n.parse? Diagram.read snapshot text = some stored →
      (∀ path ∈ project, access.text? d path = none → EndsSilently 5 d result) ∧
      (∀ path ∈ project, ∀ text, access.text? d path = some text →
        n.parse? Project.read path text = none → EndsSilently 2 d result) ∧
      ∀ settings, Settles n access d stored settings project →
        let diagram := { stored with project := settings }
        (diagram.check ≠ .ok () → EndsSilently 2 d result) ∧
        (diagram.check = .ok () → ∃ c, diagram.compile catalog = .ok c ∧
          (Unwritable access c out d → result.1.exitCode = 5) ∧
          (¬Unwritable access c out d →
            result.1.exitCode = (if ∃ f ∈ c.findings, f.severity = .error then 3 else 0) ∧
              Emits n c format d result out))) ∧
    ∀ path text, Path.isJson path = true →
      (∀ stored : Diagram, n.Stores text stored.toJson →
        n.parse? Diagram.read path text = some stored) ∧
      ∀ settings : Project, n.Stores text settings.toJson →
        n.parse? Project.read path text = some settings := by
  refine ⟨fun htext => ?_, fun text htext hparse => ?_, fun text stored htext hparse => ?_,
    fun path text hjson => ?_⟩
  · obtain ⟨cause, hload⟩ := exists_loadFile_of_unreadable hf n Diagram.read htext
    exact endsSilently_of_error (loadDiagram_of_error hload)
  · obtain ⟨e, hload, hcode⟩ := exists_loadFile_of_unfit hf htext hparse
    exact hcode ▸ endsSilently_of_error (loadDiagram_of_error hload)
  · have hstored := loadFile_of_fit hf htext hparse
    refine ⟨?_, ?_, fun settings hsettles => ⟨fun hcheck => ?_, fun hcheck => ?_⟩⟩
    · rintro path rfl hproject
      obtain ⟨cause, hload⟩ := exists_loadFile_of_unreadable hf n Project.read hproject
      exact endsSilently_of_error (loadDiagram_of_project_error hstored hload)
    · rintro path rfl other hproject hunfit
      obtain ⟨e, hload, hcode⟩ := exists_loadFile_of_unfit hf hproject hunfit
      exact hcode ▸ endsSilently_of_error (loadDiagram_of_project_error hstored hload)
    · exact endsSilently_of_inconsistent (loadDiagram_of_settles hf hstored hsettles) hcheck
    · have hload := loadDiagram_of_settles hf hstored hsettles
      have hcompile : Diagram.compile { stored with project := settings } catalog =
          .ok (Diagram.compileConsistent { stored with project := settings } catalog) :=
        Diagram.compile_eq_ok_iff.mpr ⟨hcheck, rfl⟩
      exact ⟨_, hcompile, exitCode_of_unwritable hload hcompile,
        fun hwritable => emits_of_writable hload hcompile hn hf hwritable format⟩
  · exact ⟨fun _ => Notations.parse?_of_stores restores_diagram hjson,
      fun _ => Notations.parse?_of_stores restores_project hjson⟩

/-- A diagram with a resource of unknown type and a tag. -/
def storedText : String :=
  "\x7b\"nodes\":[[\"a\",\"t\",\"n\"]],\"project\":\x7b\"common_tags\":\x7b\"k\":\"v\"\x7d\x7d\x7d"

def storedDiagram : Diagram where
  nodes := [{ id := "a", typeId := "t", name := "n" }]
  project := Project.addTag {} "k" "v"

/-- A disk with the diagram and with settings that have no tag. -/
def storedDisk : Disk where
  entries := [(["home", "d.json"], .file storedText.toUTF8),
    (["home", "p.json"], .file "\x7b\x7d".toUTF8)]
  workingDirectory := ["home"]

def settledConfiguration : Compiled :=
  Diagram.compileConsistent { storedDiagram with project := {} } {}

theorem writable_settledConfiguration :
    ¬Unwritable Disk.access settledConfiguration (some "/srv/out") storedDisk := by
  rintro ⟨directory, hout, e, he⟩
  cases hout
  obtain ⟨paths, hpaths⟩ := writeTo_eq_of_isSome
    (show (settledConfiguration.writeTo Disk.access "/srv/out" storedDisk).1.toOption.isSome by
      decide +kernel)
  rw [hpaths] at he
  cases he

theorem compile_outcome_settled : Notations.builtIn.Faithful ∧ Disk.access.Faithful ∧
    let result := (Command.compile "d.json" (some "../home/p.json") (some "/srv/out") .json).run
      .builtIn Disk.access {} storedDisk
    result.1.exitCode = 3 ∧ settledConfiguration.files.keys = ["terraform.tf"] ∧
      ∀ file ∈ settledConfiguration.files.entries,
        result.2.read (Path.join "/srv/out" file.1) = .ok file.2.toUTF8 := by
  have hstored : Disk.access.text? storedDisk "d.json" = some storedText := by decide +kernel
  have hproject : Disk.access.text? storedDisk "../home/p.json" = some "\x7b\x7d" := by
    decide +kernel
  have hparse : Notations.builtIn.parse? Diagram.read "d.json" storedText = some storedDiagram := by
    decide +kernel
  have hsettles :
      Settles .builtIn Disk.access storedDisk storedDiagram {} (some "../home/p.json") :=
    ⟨_, hproject, by decide +kernel⟩
  have herror : ∃ f ∈ settledConfiguration.findings, f.severity = .error := by decide +kernel
  obtain ⟨_, _, hload, _⟩ := compile_outcome Notations.faithful_builtIn Disk.faithful_access {}
    "d.json" (some "../home/p.json") (some "/srv/out") .json storedDisk
  obtain ⟨_, _, hsettled⟩ := hload storedText storedDiagram hstored hparse
  obtain ⟨c, hc, _, hemits⟩ := (hsettled {} hsettles).2 (by decide)
  obtain rfl : settledConfiguration = c := (Diagram.compile_eq_ok_iff.mp hc).2
  obtain ⟨hcode, hfiles⟩ := hemits writable_settledConfiguration
  rw [if_pos herror] at hcode
  exact ⟨Notations.faithful_builtIn, Disk.faithful_access, hcode, by decide +kernel, hfiles⟩

end Command

end Groundplan
