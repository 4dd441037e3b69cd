import Triage.Proofs.GlobPrefix
import Triage.Proofs.Search
import Triage.Proofs.TreeFiles

/-!
# A search of a directory is a search of its files

On a bundle without links, a search of the directory gives what the plain store of the same files
gives, in whatever order directories give their entries: a search that starts where the pattern
spells it out misses nothing (`start_of_accepts`), and it comes to its end unless an accepted file
is too long.
-/

namespace Triage

/-- The plain store of the files of a tree. -/
def Tree.toMemory (t : Tree) : MemoryStore :=
  .ofList (t.files.map fun (names, content) => (Directory.pathOf names, content))

namespace Directory

open FileSystem (IsNamedStep)

variable {fs : FileSystem} {config : DirectoryConfig} {d : Directory}

/-- The names of an accepted file go on from those that the search starts from. -/
theorem start_of_accepts {glob : Glob} {start names : List String} (hne : names ≠ [])
    (hstart : startOf glob = .ok start) (hproper : ∀ name ∈ names, IsEntryName name)
    (haccepts : glob.accepts (pathOf names) = true) :
    ∃ rest, rest ≠ [] ∧ names = start ++ rest := by
  rw [startOf] at hstart
  split_ifs at hstart with hempty
  · rw [Except.ok.injEq] at hstart
    exact ⟨names, hne, by rw [← hstart, List.nil_append]⟩
  have hnames : start = FileSystem.namedSteps glob.literalDir :=
    (requested_eq_ok.1 (mapError_eq_ok.1 hstart)).2.2.2.2
  obtain ⟨rest, hrest⟩ := Glob.literalDir_prefix haccepts (by simpa using hempty)
  have hsteps : names = FileSystem.steps glob.literalDir ++ FileSystem.steps rest := by
    rw [← FileSystem.steps_append_slash, ← hrest,
      steps_pathOf hne fun name hname => (hproper name hname).no_slash]
  -- the steps of the literal directory are names of entries, so none of them is passed over
  have hkept : FileSystem.namedSteps glob.literalDir = FileSystem.steps glob.literalDir := by
    refine List.filter_eq_self.2 fun step hstep => ?_
    have hname := hproper step (hsteps ▸ List.mem_append_left _ hstep)
    exact decide_eq_true ⟨hname.ne_empty, hname.ne_dot⟩
  exact ⟨FileSystem.steps rest, FileSystem.steps_ne_nil rest, by rw [hnames, hkept, hsteps]⟩

/-- In a bundle without links, a search starts at the directory that its start is the path of. -/
theorem descend_of_entriesAt? (wf : fs.root.WellFormed) (hopen : openIn fs config = .ok d)
    {bundle : Tree} (hbundle : fs.root.descend d.root = some bundle) (hlinks : bundle.LinkFree)
    {start : List String} (hnamed : ∀ name ∈ start, IsNamedStep name ∧ '/' ∉ name.toList)
    {entries : List (String × Tree)} (h : d.entriesAt? fs start = some entries) :
    bundle.descend start = some (.dir entries) := by
  obtain ⟨place, hplace, hdir⟩ := entriesAt?_eq_some.1 h
  obtain ⟨links, -, hleads⟩ := (exists_resolve_below_iff wf hopen
    (fun name h => (hnamed name h).2) fun name h => (hnamed name h).1).1 ⟨place, hplace, rfl⟩
  obtain ⟨root, _, hreal, hroot, -⟩ := real_root_of_openIn hopen
  have hnolink : ∀ target, bundle ≠ .link target := by
    rintro target rfl
    cases hlinks
  have hfrom : fs.Leads d.root start links (FileSystem.names place) :=
    @FileSystem.Leads.of_descend_append fs bundle hnolink start _ links d.root [] hbundle
      (fun name hname => hreal.isNamedStep name (hroot ▸ hname)) hleads
  have hnames := hfrom.eq_append_of_linkFree hbundle hlinks fun name h => (hnamed name h).1
  have hdescend := (FileSystem.isReal_of_resolve hplace).descend
  rw [hnames, hdir, Tree.descend_append_eq_some] at hdescend
  obtain ⟨mid, hmid, hrest⟩ := hdescend
  rw [hbundle, Option.some.injEq] at hmid
  exact hmid ▸ hrest

section Memory

variable {bundle : Tree}

theorem mem_paths_iff (wf : bundle.WellFormed) (file : FoundFile) :
    file ∈ bundle.files.map (fun (names, content) => (pathOf names, content)) ↔
      ∃ names, file.1 = pathOf names ∧ bundle.descend names = some (.file file.2) := by
  obtain ⟨path, content⟩ := file
  simp only [List.mem_map, Prod.exists, Prod.mk.injEq]
  constructor
  · rintro ⟨names, stored, hmem, rfl, rfl⟩
    exact ⟨names, rfl, (Tree.mem_files_iff wf).1 hmem⟩
  · rintro ⟨names, rfl, hdescend⟩
    exact ⟨names, content, (Tree.mem_files_iff wf).2 hdescend, rfl, rfl⟩

/-- No two files of a tree have the same path. -/
theorem consistent_paths (wf : bundle.WellFormed) : MemoryStore.Consistent
    (bundle.files.map fun (names, content) => (pathOf names, content)) := by
  intro path content other hc ho
  obtain ⟨names, rfl, hdescend⟩ := (mem_paths_iff wf (path, content)).1 hc
  obtain ⟨others, hpath, hdescend'⟩ := (mem_paths_iff wf (pathOf names, other)).1 ho
  obtain rfl := pathOf_inj (wf.descend hdescend).2 (wf.descend hdescend').2 hpath
  rw [hdescend, Option.some.injEq, Tree.file.injEq] at hdescend'
  exact hdescend'

theorem ascending_toMemory (bundle : Tree) : Ascending bundle.toMemory.files :=
  MemoryStore.ascending_ofList _

theorem mem_toMemory_iff (wf : bundle.WellFormed) (file : FoundFile) :
    file ∈ bundle.toMemory.files ↔
      ∃ names, file.1 = pathOf names ∧ bundle.descend names = some (.file file.2) := by
  rw [Tree.toMemory, MemoryStore.mem_ofList_iff (consistent_paths wf), mem_paths_iff wf]

theorem toMemory_eq_of_reordered {tree : Tree} (h : tree.Reordered bundle)
    (wf : bundle.WellFormed) : tree.toMemory = bundle.toMemory := by
  have hwf := h.wellFormed wf
  have hfiles : tree.toMemory.files = bundle.toMemory.files := by
    refine (ascending_toMemory _).eq_of_mem_iff (ascending_toMemory _) fun file => ?_
    rw [mem_toMemory_iff hwf, mem_toMemory_iff wf]
    simp only [h.descend_file_iff wf]
  cases htree : tree.toMemory
  cases hbundle : bundle.toMemory
  simp_all

end Memory

section Refinement

variable {bundle : Tree} {pattern : String} {exclude : List String}

/-- An accepted file lies below the directory that the search starts from. -/
theorem descend_start_of_accepts (wf : bundle.WellFormed) {entries : List (String × Tree)}
    (hdir : bundle = .dir entries) {filter : Glob.Filter} {start : List String}
    (hstart : startOf filter.wanted = .ok start) {names : List String} {content : Bytes}
    (hfile : bundle.descend names = some (.file content))
    (haccepts : filter.accepts (pathOf names) = true) : ∃ rest es, names = start ++ rest
      ∧ bundle.descend start = some (.dir es) ∧ (Tree.dir es).descend rest = some (.file content) := by
  have hne : names ≠ [] := by
    rintro rfl
    simp [hdir] at hfile
  rw [Glob.Filter.accepts, Bool.and_eq_true] at haccepts
  obtain ⟨rest, hrest, rfl⟩ := start_of_accepts hne hstart (wf.descend hfile).2 haccepts.1
  obtain ⟨mid, hmid, hbelow⟩ := Tree.descend_append_eq_some.1 hfile
  obtain ⟨name, rest, rfl⟩ := List.exists_cons_of_ne_nil hrest
  obtain ⟨es, _, rfl, -⟩ := Tree.descend_cons_eq_some.1 hbelow
  exact ⟨name :: rest, es, rfl, hmid, hbelow⟩

/-- A search of a bundle without links finds its accepted files, none of which is too long. -/
theorem mem_find_iff (wf : fs.root.WellFormed) (hopen : openIn fs config = .ok d)
    (hbundle : fs.root.descend d.root = some bundle) (hlinks : bundle.LinkFree)
    {found : List FoundFile} (h : d.find fs pattern exclude = .ok found) :
    ∃ filter start, Glob.Filter.ofPatterns pattern exclude = .ok filter
      ∧ startOf filter.wanted = .ok start ∧ Ascending found
      ∧ (∀ file, file ∈ found ↔ (∃ names, file.1 = pathOf names
        ∧ bundle.descend names = some (.file file.2)) ∧ filter.accepts file.1 = true)
      ∧ ∀ file ∈ found, file.2.length ≤ d.maxFileBytes := by
  obtain ⟨top, hdir⟩ := descend_root_of_openIn hopen
  rw [hbundle, Option.some.injEq] at hdir
  have hwf := (wf.descend hbundle).1
  obtain ⟨filter, start, hfilter, hstart, ⟨hnone, rfl⟩ | ⟨entries, hentries, hsound⟩⟩ :=
    find_eq_ok wf hopen h
  all_goals refine ⟨filter, start, hfilter, hstart, ?_⟩
  · refine ⟨.nil, fun file => ?_, by simp⟩
    simp only [List.not_mem_nil, false_iff, not_and]
    rintro ⟨names, hpath, hfile⟩ haccepts
    obtain ⟨rest, es, -, hes, -⟩ :=
      descend_start_of_accepts hwf hdir hstart hfile (hpath ▸ haccepts)
    have hsome := entriesAt?_of_descend wf hopen (isNamedStep_of_startOf hstart)
      (Tree.descend_append_eq_some.2 ⟨bundle, hbundle, hes⟩)
    simp [hnone] at hsome
  · have hes := descend_of_entriesAt? wf hopen hbundle hlinks (isNamedStep_of_startOf hstart)
      hentries
    refine ⟨hsound.ascending, fun file => ?_, fun file hfile => ?_⟩
    · rw [hsound.mem_iff]
      constructor
      · rintro ⟨rest, hpath, hrest, haccepts⟩
        exact ⟨⟨start ++ rest, hpath, Tree.descend_append_eq_some.2 ⟨_, hes, hrest⟩⟩, haccepts⟩
      · rintro ⟨⟨names, hpath, hfile⟩, haccepts⟩
        obtain ⟨rest, es, rfl, hes', hrest⟩ :=
          descend_start_of_accepts hwf hdir hstart hfile (hpath ▸ haccepts)
        rw [hes, Option.some.injEq] at hes'
        exact ⟨rest, hpath, hes' ▸ hrest, haccepts⟩
    · obtain ⟨_, -, -, -, hle⟩ := hsound.found file hfile
      exact hle

theorem exists_find (wf : fs.root.WellFormed) (hopen : openIn fs config = .ok d)
    (hbundle : fs.root.descend d.root = some bundle) (hlinks : bundle.LinkFree)
    {filter : Glob.Filter} {start : List String}
    (hfilter : Glob.Filter.ofPatterns pattern exclude = .ok filter)
    (hstart : startOf filter.wanted = .ok start)
    (hshort : ∀ names content, bundle.descend names = some (.file content) →
      filter.accepts (pathOf names) = true → content.length ≤ d.maxFileBytes) :
    ∃ found, d.find fs pattern exclude = .ok found := by
  simp only [find, hfilter, hstart, bind, Except.bind]
  cases hentries : d.entriesAt? fs start with
  | none => exact ⟨[], rfl⟩
  | some entries =>
    have hes := descend_of_entriesAt? wf hopen hbundle hlinks (isNamedStep_of_startOf hstart)
      hentries
    obtain ⟨hwf, hproper⟩ := (wf.descend hbundle).1.descend hes
    refine (Listing.sound_start hwf).exists_run hwf hproper (fun names content hfile => ?_) _
    exact hshort _ content (Tree.descend_append_eq_some.2 ⟨_, hes, hfile⟩)

/-- What a search of a bundle without links gives is what the plain store of its files gives. -/
theorem toMemory_find_of_find (wf : fs.root.WellFormed) (hopen : openIn fs config = .ok d)
    (hbundle : fs.root.descend d.root = some bundle) (hlinks : bundle.LinkFree)
    {found : List FoundFile} (h : d.find fs pattern exclude = .ok found) :
    bundle.toMemory.find pattern exclude = .ok found := by
  obtain ⟨filter, start, hfilter, -, hasc, hmem, -⟩ := mem_find_iff wf hopen hbundle hlinks h
  simp only [MemoryStore.find, hfilter, bind, Except.bind, pure_eq_ok, Except.ok.injEq]
  refine ((ascending_toMemory _).filter _).eq_of_mem_iff hasc fun file => ?_
  rw [List.mem_filter, mem_toMemory_iff (wf.descend hbundle).1, hmem]

end Refinement

/-- On a bundle without links, in whatever order its directories give their entries, what a search
gives is what the plain store of its files gives. It gives something exactly when the patterns are
fine, so is the directory that the pattern spells out, and no accepted file is too long. -/
theorem find_refines_memory (wf : fs.root.WellFormed) (hopen : openIn fs config = .ok d)
    {bundle tree : Tree} (hbundle : fs.root.descend d.root = some bundle)
    (hlinks : bundle.LinkFree) (horder : tree.Reordered bundle) (pattern : String)
    (exclude : List String) :
    (∀ found, d.find fs pattern exclude = .ok found →
      tree.toMemory.find pattern exclude = .ok found)
    ∧ ((∃ found, d.find fs pattern exclude = .ok found) ↔
      ∃ filter start, Glob.Filter.ofPatterns pattern exclude = .ok filter
        ∧ startOf filter.wanted = .ok start
        ∧ ∀ names content, (names, content) ∈ tree.files →
          filter.accepts (pathOf names) = true → content.length ≤ config.maxFileBytes) := by
  have hwf := (wf.descend hbundle).1
  obtain ⟨_, _, -, -, hd⟩ := openIn_eq_ok hopen
  have hlimit : d.maxFileBytes = config.maxFileBytes := by rw [hd]
  rw [toMemory_eq_of_reordered horder hwf]
  refine ⟨fun found h => toMemory_find_of_find wf hopen hbundle hlinks h, ?_, ?_⟩
  · rintro ⟨found, h⟩
    obtain ⟨filter, start, hfilter, hstart, -, hmem, hshort⟩ :=
      mem_find_iff wf hopen hbundle hlinks h
    refine ⟨filter, start, hfilter, hstart, fun names content hfile haccepts => ?_⟩
    rw [Tree.mem_files_iff (horder.wellFormed hwf), horder.descend_file_iff hwf] at hfile
    rw [← hlimit]
    exact hshort (pathOf names, content) ((hmem _).2 ⟨⟨names, rfl, hfile⟩, haccepts⟩)
  · rintro ⟨filter, start, hfilter, hstart, hshort⟩
    refine exists_find wf hopen hbundle hlinks hfilter hstart fun names content hfile haccepts => ?_
    rw [← horder.descend_file_iff hwf, ← Tree.mem_files_iff (horder.wellFormed hwf)] at hfile
    rw [hlimit]
    exact hshort names content hfile haccepts

/-- A bundle of two files in directories that give the later entry first. -/
def nestedBundle : Tree :=
  .dir [("notes", .file [110]), ("logs", .dir [("old", .dir [("a", .file [97])]), ("b", .file [98])])]

/-- The same bundle, with the earlier entry first. -/
def sortedBundle : Tree :=
  .dir [("logs", .dir [("b", .file [98]), ("old", .dir [("a", .file [97])])]), ("notes", .file [110])]

/-- Whichever entry comes first, both logs are found, and no more than the pattern wants. -/
theorem find_refines_memory_in_nestedBundle :
    (Tree.dir [("bundle", nestedBundle)]).WellFormed
    ∧ openIn ⟨.dir [("bundle", nestedBundle)], []⟩ ⟨"/bundle", 1⟩ = .ok ⟨["bundle"], 1⟩
    ∧ (Tree.dir [("bundle", nestedBundle)]).descend ["bundle"] = some nestedBundle
    ∧ nestedBundle.LinkFree ∧ sortedBundle.Reordered nestedBundle
    ∧ sortedBundle.toMemory.find "logs/**" [] = .ok [("logs/b", [98]), ("logs/old/a", [97])] := by
  have wf : (Tree.dir [("bundle", nestedBundle)]).WellFormed := by decide +kernel
  have hopen : openIn ⟨.dir [("bundle", nestedBundle)], []⟩ ⟨"/bundle", 1⟩ =
      .ok ⟨["bundle"], 1⟩ := by decide +kernel
  have hbundle : (Tree.dir [("bundle", nestedBundle)]).descend ["bundle"] = some nestedBundle := rfl
  have hlogs : (Tree.dir [("old", .dir [("a", .file [97])]), ("b", .file [98])]).LinkFree :=
    .dir (by simpa using ⟨.dir (by simpa using .file [97]), .file [98]⟩)
  have hlinks : nestedBundle.LinkFree := .dir (by simpa using ⟨.file [110], hlogs⟩)
  have horder : sortedBundle.Reordered nestedBundle := by
    refine .dir (.swap _ _ _) fun name node other hnode hother => ?_
    simp only [List.mem_cons, List.not_mem_nil, or_false, Prod.mk.injEq] at hnode hother
    rcases hnode with ⟨rfl, rfl⟩ | ⟨rfl, rfl⟩ <;> simp at hother <;> subst hother
    · exact .of_perm (by decide +kernel) (.swap _ _ _)
    · exact .file [110]
  have hfind : find ⟨.dir [("bundle", nestedBundle)], []⟩ ⟨["bundle"], 1⟩ "logs/**" [] =
      .ok [("logs/b", [98]), ("logs/old/a", [97])] := by decide +kernel
  exact ⟨wf, hopen, hbundle, hlinks, horder,
    (find_refines_memory wf hopen hbundle hlinks horder "logs/**" []).1 _ hfind⟩

end Directory

end Triage
