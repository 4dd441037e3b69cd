import Triage.Proofs.Listing

/-!
# What a search follows

A search finds the accepted files below the one directory that its pattern spells out, and on the
way down it follows no link (`find_eq_ok`). On the way to that directory it does. A directory that
the pattern spells out and that is reached without a link is the one that the search starts from
(`entriesAt?_of_descend`); then the files found lie where their paths say.
-/

namespace Triage

namespace Directory

open FileSystem (IsNamedStep)

variable {fs : FileSystem} {config : DirectoryConfig} {d : Directory}

theorem entriesAt?_eq_some {names : List String} {entries : List (String × Tree)} :
    d.entriesAt? fs names = some entries ↔
      ∃ place, fs.resolve (d.below names) = .ok place ∧ fs.node place = .dir entries := by
  rw [entriesAt?]
  cases fs.resolve (d.below names) with
  | error fault => simp
  | ok place => cases hnode : fs.node place <;> simp [hnode]

theorem isNamedStep_of_startOf {glob : Glob} {start : List String} (h : startOf glob = .ok start) :
    ∀ name ∈ start, IsNamedStep name ∧ '/' ∉ name.toList := by
  rw [startOf] at h
  split_ifs at h
  · simp only [Except.ok.injEq] at h
    simp [← h]
  · exact isNamedStep_of_requested (mapError_eq_ok.1 h)

/-- The names that a search starts from are names of entries when they lead anywhere. -/
theorem isEntryName_of_startOf (wf : fs.root.WellFormed) (hopen : openIn fs config = .ok d)
    {glob : Glob} {start : List String} (hstart : startOf glob = .ok start)
    {place : FileSystem.Place} (hplace : fs.resolve (d.below start) = .ok place) :
    ∀ name ∈ start, IsEntryName name := by
  intro name hname
  have hsteps := isNamedStep_of_startOf hstart
  obtain ⟨links, -, hleads⟩ := (exists_resolve_below_iff wf hopen
    (fun name h => (hsteps name h).2) fun name h => (hsteps name h).1).1 ⟨place, hplace, rfl⟩
  exact hleads.isEntryName wf name (List.mem_append_right _ hname) (hsteps name hname).1

/-- What a search gives: the accepted files below the start, if that is a directory. -/
theorem find_eq_ok (wf : fs.root.WellFormed) (hopen : openIn fs config = .ok d) {pattern : String}
    {exclude : List String} {found : List FoundFile}
    (h : d.find fs pattern exclude = .ok found) :
    ∃ filter start, Glob.Filter.ofPatterns pattern exclude = .ok filter
      ∧ startOf filter.wanted = .ok start
      ∧ (d.entriesAt? fs start = none ∧ found = []
        ∨ ∃ entries, d.entriesAt? fs start = some entries
          ∧ Listing.Sound d filter start (.dir entries) ⟨[], found⟩) := by
  rw [find, bind_eq_ok] at h
  obtain ⟨filter, hfilter, h⟩ := h
  obtain ⟨start, hstart, h⟩ := bind_eq_ok.1 h
  refine ⟨filter, start, hfilter, hstart, ?_⟩
  split at h
  · rename_i hnone
    simp only [pure_eq_ok, Except.ok.injEq] at h
    exact .inl ⟨hnone, h.symm⟩
  · rename_i entries hsome
    obtain ⟨place, hplace, hdir⟩ := entriesAt?_eq_some.1 hsome
    have hwf : (Tree.dir entries).WellFormed := by
      have := (wf.descend (FileSystem.isReal_of_resolve hplace).descend).1
      rwa [hdir] at this
    exact .inr ⟨entries, hsome, (Listing.sound_start hwf).run hwf
      (isEntryName_of_startOf wf hopen hstart hplace) _ h⟩

/-- An open directory finds its files in the order of their paths. -/
theorem orderly (wf : fs.root.WellFormed) (hopen : openIn fs config = .ok d) :
    (d.toStore fs).Orderly := by
  intro pattern exclude files h
  obtain ⟨filter, start, -, -, ⟨-, rfl⟩ | ⟨entries, -, hsound⟩⟩ := find_eq_ok wf hopen h
  · exact .nil
  · exact hsound.ascending

/-- A directory that is reached without a link is the one that a search starts from. -/
theorem entriesAt?_of_descend (wf : fs.root.WellFormed) (hopen : openIn fs config = .ok d)
    {names : List String} (hnamed : ∀ name ∈ names, IsNamedStep name ∧ '/' ∉ name.toList)
    {entries : List (String × Tree)} (h : fs.root.descend (d.root ++ names) = some (.dir entries)) :
    d.entriesAt? fs names = some entries := by
  obtain ⟨root, -, hreal, hroot, -⟩ := real_root_of_openIn hopen
  have hsteps : ∀ name ∈ d.root ++ names, IsNamedStep name := by
    intro name hname
    rcases List.mem_append.1 hname with hname | hname
    · exact hreal.isNamedStep name (hroot ▸ hname)
    · exact (hnamed name hname).1
  have hleads : fs.Leads [] (d.root ++ names) 0 (d.root ++ names) :=
    FileSystem.leads_of_descend (by simp) h hsteps
  obtain ⟨place, hplace, hdest⟩ := (exists_resolve_below_iff wf hopen
    (fun name h => (hnamed name h).2) fun name h => (hnamed name h).1).2 ⟨0, by omega, hleads⟩
  rw [← hdest] at h
  exact entriesAt?_eq_some.2 ⟨place, hplace, (FileSystem.isReal_of_resolve hplace).node_eq h⟩

theorem ofPattern_of_ofPatterns {pattern : String} {exclude : List String} {filter : Glob.Filter}
    (h : Glob.Filter.ofPatterns pattern exclude = .ok filter) :
    Glob.ofPattern pattern = .ok filter.wanted := by
  obtain ⟨wanted, hwanted, hrest⟩ := bind_eq_ok.1 h
  obtain ⟨unwanted, -, hpair⟩ := bind_eq_ok.1 hrest
  rw [pure_eq_ok, Except.ok.injEq] at hpair
  rw [hwanted, ← hpair]

section Start

variable {filter : Glob.Filter} {start : List String} {place : FileSystem.Place}
  {entries : List (String × Tree)} {found : List FoundFile}

/-- What is found lies below the place of the start, with no link between. -/
theorem exists_below_start (hplace : fs.resolve (d.below start) = .ok place)
    (hdir : fs.node place = .dir entries)
    (hsound : Listing.Sound d filter start (.dir entries) ⟨[], found⟩) {file : FoundFile}
    (hfile : file ∈ found) : ∃ rest, rest ≠ [] ∧ file.1 = pathOf (start ++ rest)
      ∧ fs.root.descend (FileSystem.names place ++ rest) = some (.file file.2) := by
  obtain ⟨rest, hpath, hbelow, -⟩ := hsound.found file hfile
  have hrest : rest ≠ [] := by
    rintro rfl
    simp at hbelow
  refine ⟨rest, hrest, hpath, ?_⟩
  rw [Tree.descend_append_eq_some]
  exact ⟨_, (FileSystem.isReal_of_resolve hplace).descend, hdir ▸ hbelow⟩

/-- A file that lies where its path says was not reached through a link before the start. -/
theorem descend_start_of_descend (wf : fs.root.WellFormed) (hopen : openIn fs config = .ok d)
    (hstart : startOf filter.wanted = .ok start) (hplace : fs.resolve (d.below start) = .ok place)
    (hdir : fs.node place = .dir entries)
    (hsound : Listing.Sound d filter start (.dir entries) ⟨[], found⟩) {file : FoundFile}
    (hfile : file ∈ found) {names : List String} (hpath : file.1 = pathOf names)
    (hdescend : fs.root.descend (d.root ++ names) = some (.file file.2)) :
    ∃ es, fs.root.descend (d.root ++ start) = some (.dir es) := by
  obtain ⟨rest, hrest, hbelow, -⟩ := hsound.found file hfile
  have hwf := (wf.descend (FileSystem.isReal_of_resolve hplace).descend).1
  have hstartNames := isEntryName_of_startOf wf hopen hstart hplace
  have hrestNames := (hwf.descend (hdir ▸ hbelow)).2
  have hnames : ∀ name ∈ names, IsEntryName name := fun name hname =>
    (wf.descend hdescend).2 name (List.mem_append_right _ hname)
  obtain rfl : names = start ++ rest := by
    refine pathOf_inj hnames (fun name hname => ?_) (hpath.symm.trans hrest)
    exact (List.mem_append.1 hname).elim (hstartNames name) (hrestNames name)
  rw [← List.append_assoc, Tree.descend_append_eq_some] at hdescend
  obtain ⟨mid, hmid, hfile⟩ := hdescend
  cases rest with
  | nil => simp at hbelow
  | cons name rest =>
    obtain ⟨es, _, rfl, _⟩ := Tree.descend_cons_eq_some.1 hfile
    exact ⟨es, hmid⟩

/-- When no link lies before the start, what is found lies where its path says. -/
theorem descend_of_descend_start (wf : fs.root.WellFormed) (hopen : openIn fs config = .ok d)
    (hstart : startOf filter.wanted = .ok start) (hentries : d.entriesAt? fs start = some entries)
    (hsound : Listing.Sound d filter start (.dir entries) ⟨[], found⟩)
    {es : List (String × Tree)} (hdescend : fs.root.descend (d.root ++ start) = some (.dir es))
    {file : FoundFile} (hfile : file ∈ found) : ∃ names, file.1 = pathOf names
      ∧ fs.root.descend (d.root ++ names) = some (.file file.2) := by
  have hsame := entriesAt?_of_descend wf hopen (isNamedStep_of_startOf hstart) hdescend
  rw [hentries, Option.some.injEq] at hsame
  obtain ⟨rest, hpath, hbelow, -⟩ := hsound.found file hfile
  refine ⟨start ++ rest, hpath, ?_⟩
  rw [← List.append_assoc, Tree.descend_append_eq_some]
  exact ⟨_, hdescend, hsame ▸ hbelow⟩

end Start

/-- A search starts from one directory, which its pattern spells out. The files that it gives lie
below the place that this directory leads to, and no link lies between. They lie where their paths
say, below the root, exactly when nothing is found or no link lies on the way to the start
either. -/
theorem find_descends_iff_start_descends (wf : fs.root.WellFormed)
    (hopen : openIn fs config = .ok d) {pattern : String} {exclude : List String}
    {found : List FoundFile} (hfind : d.find fs pattern exclude = .ok found) :
    (∃ glob start, Glob.ofPattern pattern = .ok glob ∧ startOf glob = .ok start
      ∧ (found = [] ∨ ∃ place, fs.resolve (d.below start) = .ok place
        ∧ ∀ file ∈ found, ∃ rest, rest ≠ [] ∧ file.1 = pathOf (start ++ rest)
          ∧ fs.root.descend (FileSystem.names place ++ rest) = some (.file file.2)))
    ∧ ((∀ file ∈ found, ∃ names, file.1 = pathOf names
        ∧ fs.root.descend (d.root ++ names) = some (.file file.2)) ↔
      found = [] ∨ ∃ glob start entries, Glob.ofPattern pattern = .ok glob
        ∧ startOf glob = .ok start ∧ fs.root.descend (d.root ++ start) = some (.dir entries)) := by
  obtain ⟨filter, start, hfilter, hstart, ⟨-, rfl⟩ | ⟨entries, hentries, hsound⟩⟩ :=
    find_eq_ok wf hopen hfind
  · exact ⟨⟨_, start, ofPattern_of_ofPatterns hfilter, hstart, .inl rfl⟩, by simp⟩
  obtain ⟨place, hplace, hdir⟩ := entriesAt?_eq_some.1 hentries
  have hglob := ofPattern_of_ofPatterns hfilter
  refine ⟨⟨_, start, hglob, hstart, .inr ⟨place, hplace, fun file hfile => ?_⟩⟩,
    fun hall => ?_, ?_⟩
  · exact exists_below_start hplace hdir hsound hfile
  · by_cases hempty : found = []
    · exact .inl hempty
    obtain ⟨file, hfile⟩ := List.exists_mem_of_ne_nil found hempty
    obtain ⟨names, hpath, hdescend⟩ := hall file hfile
    obtain ⟨es, hes⟩ :=
      descend_start_of_descend wf hopen hstart hplace hdir hsound hfile hpath hdescend
    exact .inr ⟨filter.wanted, start, es, hglob, hstart, hes⟩
  · rintro (rfl | ⟨glob, start', es, hglob', hstart', hdescend⟩)
    · simp
    obtain rfl : filter.wanted = glob := Except.ok.inj (hglob.symm.trans hglob')
    obtain rfl : start = start' := Except.ok.inj (hstart.symm.trans hstart')
    exact fun file hfile =>
      descend_of_descend_start wf hopen hstart hentries hsound hdescend hfile

/-- The pattern spells out a directory of the bundle; the link that lies in it is not followed. -/
theorem find_descends_in_linkedBundle : linkedBundle.root.WellFormed
    ∧ openIn linkedBundle ⟨"/bundle", 9⟩ = .ok ⟨["bundle"], 9⟩
    ∧ find linkedBundle ⟨["bundle"], 9⟩ "real/**" [] = .ok [("real/data.txt", [100, 97, 116, 97])]
    ∧ ∃ names, "real/data.txt" = pathOf names
      ∧ linkedBundle.root.descend (["bundle"] ++ names) = some (.file [100, 97, 116, 97]) := by
  have wf : linkedBundle.root.WellFormed := by decide +kernel
  have hopen : openIn linkedBundle ⟨"/bundle", 9⟩ = .ok ⟨["bundle"], 9⟩ := by decide +kernel
  have hfind : find linkedBundle ⟨["bundle"], 9⟩ "real/**" [] =
      .ok [("real/data.txt", [100, 97, 116, 97])] := by decide +kernel
  have hglob : Glob.ofPattern "real/**" =
      .ok ⟨"real/**", by decide +kernel, by decide +kernel⟩ :=
    (dif_pos (by decide +kernel)).trans (dif_pos (by decide +kernel))
  have hstart : startOf ⟨"real/**", by decide +kernel, by decide +kernel⟩ = .ok ["real"] := by
    decide +kernel
  have hall := (find_descends_iff_start_descends wf hopen hfind).2.2
    (.inr ⟨_, _, _, hglob, hstart, by simp [linkedBundle, Tree.descend, List.lookup_cons]; rfl⟩)
  exact ⟨wf, hopen, hfind, hall _ List.mem_cons_self⟩

/-- A link that the pattern spells out is followed, out of the bundle. -/
theorem find_follows_link_of_pattern : linkedBundle.root.WellFormed
    ∧ openIn linkedBundle ⟨"/bundle", 9⟩ = .ok ⟨["bundle"], 9⟩
    ∧ find linkedBundle ⟨["bundle"], 9⟩ "outdir/*" [] =
      .ok [("outdir/f.txt", [116, 111, 107, 101, 110])]
    ∧ ¬ ∃ names, "outdir/f.txt" = pathOf names
      ∧ linkedBundle.root.descend (["bundle"] ++ names) =
        some (.file [116, 111, 107, 101, 110]) := by
  have wf : linkedBundle.root.WellFormed := by decide +kernel
  refine ⟨wf, by decide +kernel, by decide +kernel, ?_⟩
  rintro ⟨names, hpath, hdescend⟩
  have hnames : ∀ name ∈ names, IsEntryName name := fun name hname =>
    (wf.descend hdescend).2 name (List.mem_append_right _ hname)
  obtain rfl : names = ["outdir", "f.txt"] :=
    pathOf_inj hnames (by decide +kernel) (hpath.symm.trans (by decide +kernel))
  simp [linkedBundle, Tree.descend, List.lookup_cons] at hdescend

end Directory

end Triage
