import ErrorPages.Config.Problem
import ErrorPages.Proofs.Template.Directory

/-! Which extensions of template files work. The settings accept every extension that is not blank, but the
extension of a file is what stands after the last dot of its name. So a setting with a dot in it is
accepted, and yet no file ever has that extension: the templates are passed over one and all, without an
error, and every page is the built-in one. All other extensions work. -/

namespace ErrorPages

namespace Config

theorem blankExtension_mem_problems_iff {config : Config} :
    .blankExtension ∈ config.problems ↔ ∀ c ∈ config.templates.extension.toList, Text.isBlank c := by
  simp [problems, mem_problem?_iff, isExtension, Text.trim_eq_nil_iff]

end Config

namespace TemplateSet

/-- The directory has a file of this name that holds this text. -/
def HasFile (entries : List Entry) (name text : String) : Prop :=
  ⟨name.toUTF8.toList, some text.toUTF8⟩ ∈ entries

/-- All files of the directory are texts. -/
def AllTexts (entries : List Entry) : Prop :=
  ∀ entry ∈ entries, ∀ content, entry.content = some content → ∃ text : String, text.toUTF8 = content

theorem allTexts_singleton (name : FileName) (text : String) :
    AllTexts [⟨name, some text.toUTF8⟩] := by
  intro entry hentry content hcontent
  obtain rfl := List.mem_singleton.1 hentry
  exact ⟨text, Option.some.inj hcontent⟩

theorem dot_mem_extension_iff {extension : String} :
    FileName.dot ∈ extension.toUTF8.toList ↔ '.' ∈ extension.toList :=
  Text.mem_toList_toUTF8_iff (c := '.') (by decide)

theorem Holds.no_dot {extension : String} {entry : Entry} {name : String} {content : ByteArray}
    (h : Holds extension entry name content) : '.' ∉ extension.toList :=
  mt dot_mem_extension_iff.2 h.lastDot

/-- The file that is named for a template and an extension without a dot holds the template. -/
theorem HasFile.holds {entries : List Entry} {name extension text : String}
    (h : HasFile entries (name ++ "." ++ extension) text) (hname : name ≠ "")
    (hdot : '.' ∉ extension.toList) : ∃ entry ∈ entries, Holds extension entry name text.toUTF8 := by
  refine ⟨_, h, rfl, ?_, mt dot_mem_extension_iff.1 hdot, hname⟩
  have hbyte : ".".toUTF8.toList = [FileName.dot] := by
    rw [Text.toList_eq_data_toList]
    rfl
  rw [Text.toList_toUTF8_append, Text.toList_toUTF8_append, hbyte, List.append_assoc]
  rfl

theorem AllTexts.exists_ofDirectory {entries : List Entry} (h : AllTexts entries)
    (directory extension : String) : ∃ set, ofDirectory directory extension entries = .ok set := by
  refine ⟨_, foldlM_insertEntry_eq_ok_iff.2 ⟨fun entry hentry name content hholds => ?_, rfl⟩⟩
  exact h entry hentry content hholds.isFile

section Dotted

variable {directory extension : String} {entries : List Entry} {set : TemplateSet}
  (hnames : (entries.map (·.name)).Nodup)
  (hset : ofDirectory directory extension entries = .ok set) (hdot : '.' ∈ extension.toList)

include hnames hset hdot

theorem get?_ofDirectory_of_dot (name : String) : set.get? name = none := by
  rw [Option.eq_none_iff_forall_ne_some]
  intro text htext
  obtain ⟨entry, -, hholds⟩ := (get?_ofDirectory_iff hnames hset).1 htext
  exact hholds.no_dot hdot

theorem size_ofDirectory_of_dot : set.size = 0 := by
  rw [size_ofDirectory hnames hset, List.countP_eq_zero]
  intro entry _ hsome
  obtain ⟨name, content, hholds⟩ := of_decide_eq_true hsome
  exact hholds.no_dot hdot

end Dotted

/-- From a directory of texts the templates can always be read. A file that is named for a template and the
extension of the settings is read as that template exactly when there is no dot in the extension. An
extension with a dot is accepted all the same, and then nothing is read at all. -/
theorem load_template_iff_no_dot {files : Files} {directory : String} {entries : List Entry}
    (hfiles : files directory = .ok (.directory entries)) (hnames : (entries.map (·.name)).Nodup)
    (htexts : AllTexts entries) (config : Config) :
    let extension := config.templates.extension
    ∃ set, load files directory extension = .ok set ∧
      (∀ name text, name ≠ "" → HasFile entries (name ++ "." ++ extension) text →
        (set.get? name = some text ↔ '.' ∉ extension.toList)) ∧
      ('.' ∈ extension.toList → .blankExtension ∉ config.problems ∧ set.size = 0) := by
  intro extension
  obtain ⟨set, hset⟩ := htexts.exists_ofDirectory directory extension
  refine ⟨set, (load_of_directory hfiles).trans hset, fun name text hname hfile => ?_, fun hdot => ?_⟩
  · rw [get?_ofDirectory_iff hnames hset]
    constructor
    · rintro ⟨entry, -, hholds⟩
      exact hholds.no_dot
    · exact hfile.holds hname
  · refine ⟨fun hblank => ?_, size_ofDirectory_of_dot hnames hset hdot⟩
    have hblank := Config.blankExtension_mem_problems_iff.1 hblank '.' hdot
    exact absurd hblank (by decide)

/-- An extension that begins with a blank, and a template whose name ends in a dot. -/
theorem load_template_iff_no_dot_blank :
    let config : Config := { templates := { extension := " html" } }
    let entries : List Entry := [⟨"gone.. html".toUTF8.toList, some "Gone".toUTF8⟩]
    let files : Files := fun _ => .ok (.directory entries)
    HasFile entries ("gone." ++ "." ++ config.templates.extension) "Gone" ∧
    ∃ set, load files "pages" config.templates.extension = .ok set ∧
      set.get? "gone." = some "Gone" := by
  intro config entries files
  have hnames : (entries.map (·.name)).Nodup := by simp [entries]
  have htexts : AllTexts entries := allTexts_singleton _ "Gone"
  have hfile : HasFile entries ("gone." ++ "." ++ config.templates.extension) "Gone" :=
    List.mem_singleton_self _
  have hfiles : files "pages" = .ok (.directory entries) := rfl
  obtain ⟨set, hset, hget, -⟩ := load_template_iff_no_dot hfiles hnames htexts config
  exact ⟨hfile, set, hset, (hget "gone." "Gone" (by decide) hfile).2 (by decide)⟩

/-- All settings are as they should be, the template is there, and it is not read. -/
theorem exists_accepted_extension_unread :
    let config : Config := { templates := { extension := "html.tera" } }
    let entries : List Entry := [⟨"forbidden.html.tera".toUTF8.toList, some "No entry".toUTF8⟩]
    let files : Files := fun _ => .ok (.directory entries)
    config.problems = [] ∧
    HasFile entries ("forbidden" ++ "." ++ config.templates.extension) "No entry" ∧
    ∃ set, load files "pages" config.templates.extension = .ok set ∧
      set.get? "forbidden" = none := by
  intro config entries files
  have hnames : (entries.map (·.name)).Nodup := by simp [entries]
  have htexts : AllTexts entries := allTexts_singleton _ "No entry"
  obtain ⟨set, hset⟩ := htexts.exists_ofDirectory "pages" config.templates.extension
  refine ⟨by decide +kernel, List.mem_singleton_self _, set, (load_of_directory rfl).trans hset, ?_⟩
  exact get?_ofDirectory_of_dot hnames hset (by decide) "forbidden"

end TemplateSet

end ErrorPages
