import Mathlib.Data.List.TakeWhile
import Mathlib.Data.Option.Basic
import ErrorPages.Files.Tree
import ErrorPages.Proofs.Named
import ErrorPages.Proofs.Utf8
import ErrorPages.TemplateSet.Directory

/-! The templates of a directory. A file is one when its name ends in a dot and the extension, with
something in front; what stands in front is then the name of the template. In a directory no two names are
the same, so no two files hold templates of one name: none of them is lost, and the order in which they
are read does not matter. Reading fails only for a template whose content is no text. -/

namespace ErrorPages

section Trees

theorem nodup_eraseDups (names : List FileName) : names.eraseDups.Nodup := by
  match names with
  | [] => exact List.nodup_nil
  | name :: rest =>
    rw [List.eraseDups_cons, List.nodup_cons]
    refine ⟨?_, nodup_eraseDups (rest.filter fun other => !other == name)⟩
    simp [List.mem_eraseDups]
termination_by names.length
decreasing_by exact Nat.lt_succ_of_le (List.length_filter_le _ _)

theorem Placed.nodup_listing (entries : Placed) (place : Way) :
    ((entries.listing place).map (·.name)).Nodup := by
  rw [listing, List.map_map]
  exact (List.map_id _).symm ▸ nodup_eraseDups _

theorem Placed.nodup_node? {entries : Placed} {place : Way} {listed : List Entry}
    (h : entries.node? place = some (.directory listed)) : (listed.map (·.name)).Nodup := by
  unfold node? at h
  dsimp only at h
  split at h
  · cases h
    exact entries.nodup_listing []
  · split at h
    · cases h
    · split at h
      · cases h
      · cases h
        exact entries.nodup_listing place

theorem FileTree.nodup_walk (tree : FileTree) {place : Way} {node : Node} {parts : List FileName}
    {listed : List Entry}
    (hnode : ∀ entries, node = .directory entries → (entries.map (·.name)).Nodup)
    (h : tree.walk place node parts = .ok (.directory listed)) : (listed.map (·.name)).Nodup := by
  induction parts generalizing place node with
  | nil =>
    cases h
    exact hnode listed rfl
  | cons part rest ih =>
    cases node with
    | file content => cases h
    | directory entries =>
      simp only [walk] at h
      split at h
      · cases h
      · split at h
        · cases h
        · next found hfound =>
          refine ih (fun entries hentries => ?_) h
          rw [hentries] at hfound
          exact Placed.nodup_node? hfound

/-- In a tree of files no directory has two entries of one name. -/
theorem FileTree.nodup_files (tree : FileTree) {path : String} {listed : List Entry}
    (h : tree.files path = .ok (.directory listed)) : (listed.map (·.name)).Nodup := by
  unfold files at h
  dsimp only at h
  split at h
  · cases h
  split at h
  · cases h
  split at h
  · cases h
  split at h
  · cases h
  · next node hnode =>
    refine tree.nodup_walk (fun entries hentries => ?_) h
    rw [hentries] at hnode
    exact Placed.nodup_node? hnode

end Trees

namespace TemplateSet

open FileName (dot)

theorem splitName?_eq_some_iff {name stem extension : FileName} :
    splitName? name = some (stem, extension) ↔
      name = stem ++ dot :: extension ∧ dot ∉ extension ∧ stem ≠ [] := by
  unfold splitName?
  constructor
  · intro h
    have hname := List.takeWhile_append_dropWhile (p := (· != dot)) (l := name.reverse)
    have hdot : dot ∉ (name.reverse.takeWhile (· != dot)).reverse := by
      intro hmem
      simpa using List.mem_takeWhile_imp (List.mem_reverse.1 hmem)
    generalize name.reverse.takeWhile (· != dot) = last at h hname hdot
    cases hfront : name.reverse.dropWhile (· != dot) with
    | nil => simp [hfront] at h
    | cons d front =>
      have hd : d = dot := by
        have hhead := List.head?_dropWhile_not (· != dot) name.reverse
        simpa [hfront] using hhead
      simp only [hfront, Option.ite_none_left_eq_some, Option.some.injEq, Prod.mk.injEq] at h
      obtain ⟨hstem, rfl, rfl⟩ := h
      rw [hfront, hd] at hname
      refine ⟨?_, hdot, by simpa using hstem⟩
      rw [← List.reverse_reverse name, ← hname, List.reverse_append, List.reverse_cons,
        List.append_assoc, List.singleton_append]
  · rintro ⟨rfl, hdot, hstem⟩
    have hlast : ∀ b ∈ extension.reverse, (b != dot) = true := by
      intro b hb
      have hne : b ≠ dot := fun heq => hdot (heq ▸ List.mem_reverse.1 hb)
      simpa using hne
    have hreverse : (stem ++ dot :: extension).reverse =
        extension.reverse ++ dot :: stem.reverse := by simp
    rw [hreverse, List.takeWhile_append_of_pos hlast, List.dropWhile_append_of_pos hlast]
    simp [hstem]

/-- A file whose name is that of a template, a dot and the extension, which begins after the last dot. -/
structure Holds (extension : String) (entry : Entry) (name : String) (content : ByteArray) : Prop where
  isFile : entry.content = some content
  nameOf : entry.name = name.toUTF8.toList ++ dot :: extension.toUTF8.toList
  lastDot : dot ∉ extension.toUTF8.toList
  nonempty : name ≠ ""

theorem stem_eq_iff {stem : FileName} {name : String} :
    String.fromUTF8? ⟨stem.toArray⟩ = some name ↔ stem = name.toUTF8.toList := by
  rw [Text.fromUTF8?_eq_some_iff, Text.toList_eq_data_toList]
  constructor
  · intro h
    rw [h]
  · rintro rfl
    rfl

theorem toList_toUTF8_eq_nil_iff {name : String} : name.toUTF8.toList = [] ↔ name = "" := by
  rw [eq_comm, ← stem_eq_iff, Text.fromUTF8?_eq_some_iff]
  exact String.toByteArray_inj (t := "")

theorem templateOf?_eq_some_iff {extension : String} {entry : Entry} {name : String}
    {content : ByteArray} : templateOf? extension entry = some (name, content) ↔
      Holds extension entry name content := by
  have hparts : templateOf? extension entry = some (name, content) ↔
      entry.content = some content ∧ ∃ stem,
        splitName? entry.name = some (stem, extension.toUTF8.toList) ∧
        String.fromUTF8? ⟨stem.toArray⟩ = some name := by
    simp only [templateOf?, Option.bind_eq_bind, Option.bind_eq_some_iff, Option.guard_eq_some',
      Option.pure_def, Option.some.injEq, Prod.mk.injEq]
    constructor
    · rintro ⟨content, hfile, ⟨stem, found⟩, hsplit, -, hfound, name, hname, rfl, rfl⟩
      obtain rfl : found = extension.toUTF8.toList := hfound
      exact ⟨hfile, stem, hsplit, hname⟩
    · rintro ⟨hfile, stem, hsplit, hname⟩
      exact ⟨content, hfile, _, hsplit, (), rfl, name, hname, rfl, rfl⟩
  rw [hparts]
  constructor
  · rintro ⟨hfile, stem, hsplit, hname⟩
    obtain ⟨hentry, hdot, hstem⟩ := splitName?_eq_some_iff.1 hsplit
    rw [stem_eq_iff.1 hname] at hentry hstem
    exact ⟨hfile, hentry, hdot, mt toList_toUTF8_eq_nil_iff.2 hstem⟩
  · rintro ⟨hfile, hentry, hdot, hname⟩
    refine ⟨hfile, name.toUTF8.toList, splitName?_eq_some_iff.2 ⟨hentry, hdot, ?_⟩, stem_eq_iff.2 rfl⟩
    exact mt toList_toUTF8_eq_nil_iff.1 hname

/-- The content of each template that the entry holds is a text. -/
def Readable (extension : String) (entry : Entry) : Prop :=
  ∀ name content, Holds extension entry name content → ∃ source : String, source.toUTF8 = content

/-- The name and the text of the template that an entry holds, when its content is a text. -/
def source? (extension : String) (entry : Entry) : Option (String × String) :=
  (templateOf? extension entry).bind fun template =>
    (String.fromUTF8? template.2).map fun source => (template.1, source)

theorem source?_eq_some_iff {extension : String} {entry : Entry} {name source : String} :
    source? extension entry = some (name, source) ↔
      Holds extension entry name source.toUTF8 := by
  simp only [source?, Option.bind_eq_some_iff, Option.map_eq_some_iff, Prod.mk.injEq, Prod.exists,
    templateOf?_eq_some_iff, Text.fromUTF8?_eq_some_iff]
  constructor
  · rintro ⟨_, _, hholds, _, rfl, rfl, rfl⟩
    exact hholds
  · intro hholds
    exact ⟨name, source.toUTF8, hholds, source, rfl, rfl, rfl⟩

variable {directory extension : String}

theorem insertEntry_eq_ok_iff {set result : TemplateSet} {entry : Entry} :
    insertEntry directory extension set entry = .ok result ↔
      Readable extension entry ∧ result = set.extend (source? extension entry).toList := by
  unfold insertEntry source?
  cases htemplate : templateOf? extension entry with
  | none =>
    have hreadable : Readable extension entry := by
      intro name content hholds
      rw [← templateOf?_eq_some_iff, htemplate] at hholds
      cases hholds
    simp [hreadable, Named.extend, eq_comm]
  | some template =>
    obtain ⟨name, content⟩ := template
    have hholds := templateOf?_eq_some_iff.1 htemplate
    dsimp only [Option.bind_some]
    cases hsource : String.fromUTF8? content with
    | none =>
      have hunreadable : ¬ Readable extension entry := by
        intro hreadable
        obtain ⟨source, hbytes⟩ := hreadable name content hholds
        rw [← Text.fromUTF8?_eq_some_iff, hsource] at hbytes
        cases hbytes
      simp [utf8Text?, hsource, hunreadable]
    | some source =>
      have hreadable : Readable extension entry := by
        intro name' content' hholds'
        have hsame : content' = content := Option.some.inj (hholds'.isFile.symm.trans hholds.isFile)
        exact ⟨source, hsame ▸ Text.fromUTF8?_eq_some_iff.1 hsource⟩
      simp [utf8Text?, hsource, hreadable, Named.extend, eq_comm]

theorem foldlM_insertEntry_eq_ok_iff {set result : TemplateSet} {entries : List Entry} :
    entries.foldlM (insertEntry directory extension) set = .ok result ↔
      (∀ entry ∈ entries, Readable extension entry) ∧
        result = set.extend (entries.filterMap (source? extension)) := by
  induction entries generalizing set with
  | nil => simp [Named.extend, pure, Except.pure, eq_comm]
  | cons entry rest ih =>
    have hbind : (entry :: rest).foldlM (insertEntry directory extension) set = .ok result ↔
        ∃ next, insertEntry directory extension set entry = .ok next ∧
          rest.foldlM (insertEntry directory extension) next = .ok result := by
      rw [List.foldlM_cons]
      cases insertEntry directory extension set entry <;> simp [bind, Except.bind]
    simp only [hbind, insertEntry_eq_ok_iff, ih, List.forall_mem_cons]
    have hextend (set : TemplateSet) : (set.extend (source? extension entry).toList).extend
        (rest.filterMap (source? extension)) =
          set.extend ((entry :: rest).filterMap (source? extension)) := by
      rw [Named.extend, Named.extend, Named.extend, ← List.foldl_append]
      cases hsource : source? extension entry <;> simp [hsource]
    constructor
    · rintro ⟨_, ⟨hentry, rfl⟩, hrest, rfl⟩
      exact ⟨⟨hentry, hrest⟩, hextend set⟩
    · rintro ⟨⟨hentry, hrest⟩, rfl⟩
      exact ⟨_, ⟨hentry, rfl⟩, hrest, (hextend set).symm⟩

/-- The entry is the file of some template. -/
def HoldsSome (extension : String) (entry : Entry) : Prop :=
  ∃ name content, Holds extension entry name content

theorem isSome_templateOf?_iff {entry : Entry} :
    (templateOf? extension entry).isSome ↔ HoldsSome extension entry := by
  simp only [HoldsSome, ← templateOf?_eq_some_iff, Option.isSome_iff_exists, Prod.exists]

instance (extension : String) (entry : Entry) : Decidable (HoldsSome extension entry) :=
  decidable_of_iff _ isSome_templateOf?_iff

theorem isSome_source?_iff {entry : Entry} (h : Readable extension entry) :
    (source? extension entry).isSome ↔ HoldsSome extension entry := by
  rw [Option.isSome_iff_exists]
  constructor
  · rintro ⟨⟨name, source⟩, hsource⟩
    exact ⟨name, _, source?_eq_some_iff.1 hsource⟩
  · rintro ⟨name, content, hholds⟩
    obtain ⟨source, rfl⟩ := h name content hholds
    exact ⟨(name, source), source?_eq_some_iff.2 hholds⟩

section Entries

variable {entries : List Entry} (hnames : (entries.map (·.name)).Nodup)

include hnames

/-- Two files do not hold templates of one name. -/
theorem names_ne_source? : (entries.filterMap (source? extension)).Pairwise (·.1 ≠ ·.1) := by
  refine List.Pairwise.filterMap (source? extension) ?_ (List.pairwise_map.1 hnames)
  rintro entry entry' hne ⟨name, source⟩ hsource ⟨name', source'⟩ hsource' rfl
  have hholds := source?_eq_some_iff.1 hsource
  have hholds' := source?_eq_some_iff.1 hsource'
  exact hne (hholds.nameOf.trans hholds'.nameOf.symm)

theorem get?_ofDirectory_iff {set : TemplateSet}
    (h : ofDirectory directory extension entries = .ok set) {name source : String} :
    set.get? name = some source ↔ ∃ entry ∈ entries, Holds extension entry name source.toUTF8 := by
  obtain ⟨-, rfl⟩ := foldlM_insertEntry_eq_ok_iff.1 h
  refine (Named.get?_ofList_iff (names_ne_source? hnames)).trans ?_
  simp only [List.mem_filterMap, source?_eq_some_iff]

theorem size_ofDirectory {set : TemplateSet}
    (h : ofDirectory directory extension entries = .ok set) :
    set.size = entries.countP (HoldsSome extension ·) := by
  obtain ⟨hreadable, rfl⟩ := foldlM_insertEntry_eq_ok_iff.1 h
  refine (Named.size_ofList (names_ne_source? hnames)).trans ?_
  rw [List.length_filterMap_eq_countP]
  refine List.countP_congr fun entry hentry => ?_
  rw [isSome_source?_iff (hreadable entry hentry), decide_eq_true_iff]

/-- The order of the entries does not matter to what is read. -/
theorem ofDirectory_perm {entries' : List Entry} (hperm : entries'.Perm entries) {set : TemplateSet}
    (h : ofDirectory directory extension entries = .ok set) :
    ofDirectory directory extension entries' = .ok set := by
  obtain ⟨hreadable, rfl⟩ := foldlM_insertEntry_eq_ok_iff.1 h
  refine foldlM_insertEntry_eq_ok_iff.2 ⟨fun entry hentry => ?_, ?_⟩
  · exact hreadable entry (hperm.mem_iff.1 hentry)
  · exact Named.ofList_perm (names_ne_source? hnames) (hperm.symm.filterMap _)

end Entries

theorem load_of_directory {files : Files} {entries : List Entry}
    (h : files directory = .ok (.directory entries)) :
    load files directory extension = ofDirectory directory extension entries := by
  rw [load, h]

/-- The templates of a directory can be read exactly when all of them are texts. What is read are these
templates and no others, each once, in whatever order the directory is listed. -/
theorem load_exact {files : Files} {directory : String} {entries : List Entry}
    (hfiles : files directory = .ok (.directory entries)) (hnames : (entries.map (·.name)).Nodup)
    (extension : String) :
    ((∃ set, load files directory extension = .ok set) ↔
      ∀ entry ∈ entries, Readable extension entry) ∧
    (∀ set, load files directory extension = .ok set →
      (∀ name source, set.get? name = some source ↔
        ∃ entry ∈ entries, Holds extension entry name source.toUTF8) ∧
      set.size = entries.countP (HoldsSome extension ·)) ∧
    ∀ (files' : Files) (entries' : List Entry),
      files' directory = .ok (.directory entries') → entries'.Perm entries →
      (∃ set, load files directory extension = .ok set ∧
        load files' directory extension = .ok set) ∨
      ∃ e e', load files directory extension = .error e ∧
        load files' directory extension = .error e' := by
  simp only [load_of_directory hfiles]
  refine ⟨?_, fun set hset => ⟨fun name source => ?_, ?_⟩, ?_⟩
  · constructor
    · rintro ⟨set, hset⟩
      exact (foldlM_insertEntry_eq_ok_iff.1 hset).1
    · intro hreadable
      exact ⟨_, foldlM_insertEntry_eq_ok_iff.2 ⟨hreadable, rfl⟩⟩
  · exact get?_ofDirectory_iff hnames hset
  · exact size_ofDirectory hnames hset
  · intro files' entries' hfiles' hperm
    rw [load_of_directory hfiles']
    cases hset : ofDirectory directory extension entries with
    | ok set => exact .inl ⟨set, rfl, ofDirectory_perm hnames hperm hset⟩
    | error e =>
      cases hset' : ofDirectory directory extension entries' with
      | error e' => exact .inr ⟨e, e', rfl, rfl⟩
      | ok set =>
        have hnames' : (entries'.map (·.name)).Nodup := (hperm.map _).nodup_iff.2 hnames
        have hsame := ofDirectory_perm hnames' hperm.symm hset'
        rw [hset] at hsame
        cases hsame

/-- A template, a file that has no extension, one with another extension, and a directory; only the first
of them is text. -/
theorem load_exact_mixed :
    let named (name : String) (content : Option ByteArray) : Entry := ⟨name.toUTF8.data.toList, content⟩
    let entries : List Entry :=
      [named "gone.html" (some "Gone".toUTF8), named ".html" (some ⟨#[0xFF]⟩),
        named "gone.txt" (some ⟨#[0xFF]⟩), named "old.html" none]
    let files : Files := fun _ => .ok (.directory entries)
    let files' : Files := fun _ => .ok (.directory entries.reverse)
    ∃ set, TemplateSet.load files "pages" "html" = .ok set ∧
      TemplateSet.load files' "pages" "html" = .ok set ∧
      set.get? "gone" = some "Gone" ∧ set.size = 1 := by
  intro named entries files files'
  have hnames : (entries.map (·.name)).Nodup := by decide +kernel
  have hfiles : files "pages" = .ok (.directory entries) := rfl
  obtain ⟨-, hset, horder⟩ := load_exact hfiles hnames "html"
  have hloaded : (TemplateSet.load files "pages" "html").toOption.isSome := by decide +kernel
  have hgone : Holds "html" (named "gone.html" (some "Gone".toUTF8)) "gone" "Gone".toUTF8 :=
    ⟨rfl, by decide +kernel, by decide +kernel, by decide⟩
  obtain ⟨set, hload, hload'⟩ | ⟨e, e', hload, -⟩ :=
    horder files' entries.reverse rfl (List.reverse_perm entries)
  · obtain ⟨hget, hsize⟩ := hset set hload
    refine ⟨set, hload, hload', (hget "gone" "Gone").2 ⟨_, List.mem_cons_self, hgone⟩, ?_⟩
    rw [hsize]
    decide +kernel
  · rw [hload] at hloaded
    cases hloaded

end TemplateSet

end ErrorPages
