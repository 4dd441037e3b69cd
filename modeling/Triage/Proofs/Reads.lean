import Triage.Proofs.Places

/-!
# Reading one file of a bundle

The root of an open directory is a real one (`real_root_of_openIn`). A request is answered exactly
when it is lexically within its bounds and leads, all links followed, to a file below the root that
is no longer than the limit; the answer is the whole file (`get_eq_ok`).
-/

namespace Triage

namespace Directory

open FileSystem (IsNamedStep)

variable {fs : FileSystem} {config : DirectoryConfig} {d : Directory}

/-- What an open directory is: the place its configuration leads to, and the limit from there. -/
theorem openIn_eq_ok (h : openIn fs config = .ok d) : ∃ place entries,
    fs.resolve config.root = .ok place ∧ fs.node place = .dir entries
      ∧ d = ⟨FileSystem.names place, config.maxFileBytes⟩ := by
  rw [openIn] at h
  obtain ⟨_, -, h⟩ := bind_eq_ok.1 h
  split at h
  · simp at h
  · rename_i place hplace
    dsimp only at h
    split_ifs at h with hdir
    rw [FileSystem.isDir] at hdir
    split at hdir
    · rename_i entries hnode
      simp only [pure_eq_ok, Except.ok.injEq] at h
      exact ⟨place, entries, hplace, hnode, h.symm⟩
    · simp at hdir

/-- The root of an open directory is a real directory. -/
theorem real_root_of_openIn (h : openIn fs config = .ok d) : ∃ place entries,
    fs.IsReal place ∧ FileSystem.names place = d.root ∧ fs.node place = .dir entries := by
  obtain ⟨place, entries, hplace, hdir, rfl⟩ := openIn_eq_ok h
  exact ⟨place, entries, FileSystem.isReal_of_resolve hplace, rfl, hdir⟩

theorem descend_root_of_openIn (h : openIn fs config = .ok d) :
    ∃ entries, fs.root.descend d.root = some (.dir entries) := by
  obtain ⟨place, entries, hreal, hnames, hdir⟩ := real_root_of_openIn h
  exact ⟨entries, by rw [← hnames, hreal.descend, hdir]⟩

/-- Names below the root lead, all links followed, where their path is resolved to. -/
theorem exists_resolve_below_iff (wf : fs.root.WellFormed) (hopen : openIn fs config = .ok d)
    {names dest : List String} (hslash : ∀ name ∈ names, '/' ∉ name.toList)
    (hnamed : ∀ name ∈ names, IsNamedStep name) :
    (∃ place, fs.resolve (d.below names) = .ok place ∧ FileSystem.names place = dest) ↔
      ∃ links ≤ FileSystem.linkLimit, fs.Leads [] (d.root ++ names) links dest := by
  obtain ⟨place, entries, hreal, hnames, -⟩ := real_root_of_openIn hopen
  obtain ⟨_, hdir⟩ := descend_root_of_openIn hopen
  obtain ⟨_, hroot⟩ := Tree.dir_of_descend_dir hdir
  obtain ⟨-, hentry⟩ := wf.descend hdir
  rw [below]
  apply FileSystem.exists_resolve_absolute_iff wf hroot
  · intro name hname
    rcases List.mem_append.1 hname with hname | hname
    · exact (hentry name hname).no_slash
    · exact hslash name hname
  · intro name hname
    rcases List.mem_append.1 hname with hname | hname
    · exact hreal.isNamedStep name (hnames ▸ hname)
    · exact hnamed name hname

/-- The names of a request are steps to entries. -/
theorem isNamedStep_of_requested {path : String} {names : List String}
    (h : requested path = .ok names) :
    ∀ name ∈ names, IsNamedStep name ∧ '/' ∉ name.toList := by
  obtain ⟨-, -, -, hsteps, rfl⟩ := requested_eq_ok.1 h
  intro name hname
  obtain ⟨hmem, hkeep⟩ := List.mem_filter.1 hname
  obtain ⟨hup, hshort⟩ := hsteps name hmem
  simp only [decide_eq_true_eq] at hkeep
  exact ⟨⟨hkeep.1, hkeep.2, hup, hshort⟩, FileSystem.no_slash_of_mem_steps hmem⟩

theorem get_eq_ok {path : String} {content : Bytes} : d.get fs path = .ok content ↔
    ∃ names place, requested path = .ok names ∧ fs.resolve (d.below names) = .ok place
      ∧ d.root <+: FileSystem.names place ∧ fs.node place = .file content
      ∧ content.length ≤ d.maxFileBytes := by
  rw [get, bind_eq_ok]
  simp only [mapError_eq_ok]
  refine exists_congr fun names => ?_
  cases hplace : fs.resolve (d.below names) with
  | error fault => cases fault <;> simp
  | ok place =>
    by_cases hroot : d.root <+: FileSystem.names place
    · have hbelow : d.root.isPrefixOf (FileSystem.names place) = true := by simpa using hroot
      cases hnode : fs.node place with
      | file stored =>
        simp only [hbelow, hnode, Bool.not_true, Bool.false_eq_true, if_false, bind, Except.bind,
          bounded_eq_ok, Except.ok.injEq]
        constructor
        · rintro ⟨hnames, hle, rfl⟩
          exact ⟨place, hnames, rfl, hroot, hnode, hle⟩
        · rintro ⟨_, hnames, rfl, -, hfile, hle⟩
          rw [hnode, Tree.file.injEq] at hfile
          subst hfile
          exact ⟨hnames, hle, rfl⟩
      | dir entries => simp [hbelow, hnode]
      | link target => simp [hbelow, hnode]
    · have hbelow : d.root.isPrefixOf (FileSystem.names place) = false := by
        simpa [← Bool.not_eq_true] using hroot
      simp [hbelow, hroot, bind, Except.bind]

/-- A request is answered exactly when it is within its bounds by its names and leads, all links
followed, to a file below the root that is not too long; the answer is the whole file. -/
theorem get_eq_ok_iff_leads_below (wf : fs.root.WellFormed) (hopen : openIn fs config = .ok d)
    (path : String) (content : Bytes) :
    d.get fs path = .ok content ↔
      path ≠ "" ∧ byteLength path ≤ 4096 ∧ FileSystem.isAbsolute path = false
      ∧ (∀ step ∈ FileSystem.steps path, step ≠ ".." ∧ byteLength step ≤ 255)
      ∧ ∃ links ≤ FileSystem.linkLimit, ∃ dest,
        fs.Leads [] (d.root ++ FileSystem.namedSteps path) links dest ∧ d.root <+: dest
        ∧ fs.root.descend dest = some (.file content) ∧ content.length ≤ config.maxFileBytes := by
  have hlimit : d.maxFileBytes = config.maxFileBytes := by
    obtain ⟨_, _, -, -, rfl⟩ := openIn_eq_ok hopen
    rfl
  rw [get_eq_ok, hlimit]
  constructor
  · rintro ⟨names, place, hnames, hplace, hbelow, hfile, hle⟩
    have hsteps := isNamedStep_of_requested hnames
    obtain ⟨links, hlinks, hleads⟩ := (exists_resolve_below_iff wf hopen
      (fun name h => (hsteps name h).2) fun name h => (hsteps name h).1).1 ⟨place, hplace, rfl⟩
    have hdescend := (FileSystem.isReal_of_resolve hplace).descend
    rw [hfile] at hdescend
    obtain ⟨hne, hlong, habsolute, hbounds, rfl⟩ := requested_eq_ok.1 hnames
    exact ⟨hne, hlong, habsolute, hbounds, links, hlinks, _, hleads, hbelow, hdescend, hle⟩
  · rintro ⟨hne, hlong, habsolute, hbounds, links, hlinks, dest, hleads, hbelow, hdescend, hle⟩
    have hnames : requested path = .ok (FileSystem.namedSteps path) :=
      requested_eq_ok.2 ⟨hne, hlong, habsolute, hbounds, rfl⟩
    have hsteps := isNamedStep_of_requested hnames
    obtain ⟨place, hplace, rfl⟩ := (exists_resolve_below_iff wf hopen
      (fun name h => (hsteps name h).2) fun name h => (hsteps name h).1).2 ⟨links, hlinks, hleads⟩
    have hfile := (FileSystem.isReal_of_resolve hplace).node_eq hdescend
    exact ⟨_, place, hnames, hplace, hbelow, hfile, hle⟩

/-- A bundle with a link to one of its own files and a link to a directory beside it. -/
def linkedBundle : FileSystem where
  root := .dir [
    ("bundle", .dir [
      ("in.txt", .link "real/data.txt"),
      ("outdir", .link "../out"),
      ("real", .dir [("data.txt", .file [100, 97, 116, 97]), ("self", .link ".")])]),
    ("out", .dir [("f.txt", .file [116, 111, 107, 101, 110])])]

/-- The link within the bundle is followed to the file that it leads to, which is just as long as
it may be. -/
theorem get_in_linkedBundle : linkedBundle.root.WellFormed
    ∧ openIn linkedBundle ⟨"/bundle", 4⟩ = .ok ⟨["bundle"], 4⟩
    ∧ ∃ links ≤ FileSystem.linkLimit, ∃ dest,
      linkedBundle.Leads [] (["bundle"] ++ FileSystem.namedSteps "./in.txt") links dest
      ∧ ["bundle"] <+: dest ∧ linkedBundle.root.descend dest = some (.file [100, 97, 116, 97])
      ∧ 4 ≤ 4 := by
  have wf : linkedBundle.root.WellFormed := by decide +kernel
  have hopen : openIn linkedBundle ⟨"/bundle", 4⟩ = .ok ⟨["bundle"], 4⟩ := by decide +kernel
  have hget : get linkedBundle ⟨["bundle"], 4⟩ "./in.txt" = .ok [100, 97, 116, 97] := by
    decide +kernel
  obtain ⟨-, -, -, -, hleads⟩ :=
    (get_eq_ok_iff_leads_below wf hopen "./in.txt" [100, 97, 116, 97]).1 hget
  exact ⟨wf, hopen, hleads⟩

end Directory

end Triage
