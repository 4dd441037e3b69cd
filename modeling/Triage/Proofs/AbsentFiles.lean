import Triage.Proofs.FanOut
import Triage.Proofs.SearchRefinement

/-!
# Requests for what is not there

A path without links that leads nowhere either misses an entry of a directory or runs into a file
where a directory should be (`walk_of_descend_eq_none`). The plain store says of both that there is
no such file. The store of a directory says so of the first only: when a file is in the way, or the
path has a zero character in it, the request fails, and so does the fan-out that made it
(`get_absent_eq_notFound_iff`).
-/

namespace Triage

namespace Tree

/-- Where the names should go on below some entry, there is a file. -/
def Obstructed (t : Tree) (names : List String) : Prop :=
  ∃ before after content, names = before ++ after ∧ after ≠ []
    ∧ t.descend before = some (file content)

theorem obstructed_file (content : Bytes) (name : String) (names : List String) :
    (file content).Obstructed (name :: names) :=
  ⟨[], name :: names, content, rfl, List.cons_ne_nil _ _, rfl⟩

theorem obstructed_dir_iff {entries : List (String × Tree)} {name : String} {names : List String} :
    (dir entries).Obstructed (name :: names) ↔
      ∃ node, entries.lookup name = some node ∧ node.Obstructed names := by
  constructor
  · rintro ⟨before, after, content, hnames, hafter, hfile⟩
    cases before with
    | nil => simp at hfile
    | cons first before =>
      obtain ⟨rfl, rfl⟩ := List.cons.inj hnames
      obtain ⟨_, node, ⟨rfl⟩, hlookup, hnode⟩ := descend_cons_eq_some.1 hfile
      exact ⟨node, hlookup, before, after, content, rfl, hafter, hnode⟩
  · rintro ⟨node, hlookup, before, after, content, rfl, hafter, hfile⟩
    exact ⟨name :: before, after, content, rfl, hafter,
      descend_cons_eq_some.2 ⟨entries, node, rfl, hlookup, hfile⟩⟩

end Tree

namespace FileSystem

variable {fs : FileSystem} {limit : Nat} {place : Place}

section Steps

variable {step : String} {rest : List String}

theorem walk_file {content : Bytes} (hfile : fs.node place = .file content) :
    fs.walk limit place (step :: rest) = .error .notADirectory := by
  cases limit <;> simp [walk, walkWith, hfile]

end Steps

/-- Names that descend to a node are steps that go there. -/
theorem walk_of_descend {t : Tree} (hlink : ∀ target, t ≠ .link target) :
    ∀ {names : List String} {place : Place}, (∀ name ∈ names, IsNamedStep name) →
      (fs.node place).descend names = some t →
      ∃ p, fs.node p = t ∧ ∀ rest, fs.walk limit place (names ++ rest) = fs.walk limit p rest
  | [], place, _, h => ⟨place, by simpa using h, fun _ => rfl⟩
  | name :: names, place, hnamed, h => by
    obtain ⟨hname, hnames⟩ := List.forall_mem_cons.1 hnamed
    obtain ⟨entries, node, hdir, hlookup, hnode⟩ := Tree.descend_cons_eq_some.1 h
    have hnolink : ∀ target, node ≠ .link target := by
      rintro target rfl
      cases names with
      | nil => exact hlink target (by simpa using hnode.symm)
      | cons n ns => simp [Tree.descend] at hnode
    have hbelow : (fs.node ((name, node) :: place)).descend names = some t := hnode
    obtain ⟨p, hp, hwalk⟩ := walk_of_descend hlink hnames hbelow
    refine ⟨p, hp, fun rest => ?_⟩
    rw [List.cons_append, walk_enter hdir hname hlookup hnolink, hwalk]

/-- Where there are no links, names that lead nowhere run into a file or miss an entry. -/
theorem walk_of_descend_eq_none : ∀ {names : List String} {place : Place},
    (fs.node place).LinkFree → (∀ name ∈ names, IsNamedStep name) →
    (fs.node place).descend names = none →
    ((fs.node place).Obstructed names ∧ fs.walk limit place names = .error .notADirectory)
    ∨ (¬ (fs.node place).Obstructed names ∧ fs.walk limit place names = .error .notFound)
  | [], place, _, _, h => by simp at h
  | name :: names, place, hfree, hnamed, h => by
    obtain ⟨hname, hnames⟩ := List.forall_mem_cons.1 hnamed
    cases hnode : fs.node place with
    | file content => exact .inl ⟨Tree.obstructed_file content name names, walk_file hnode⟩
    | link target =>
      rw [hnode] at hfree
      cases hfree
    | dir entries =>
      rw [hnode] at h hfree
      rw [Tree.obstructed_dir_iff]
      cases hlookup : entries.lookup name with
      | none => exact .inr ⟨by simp, walk_missing hnode hname hlookup⟩
      | some node =>
        cases hfree with
        | dir hnodes =>
          have hbelow : (fs.node ((name, node) :: place)).LinkFree := hnodes _ (mem_of_lookup hlookup)
          have hnolink : ∀ target, node ≠ .link target := by
            rintro target rfl
            cases hbelow
          have habsent : (fs.node ((name, node) :: place)).descend names = none := by
            simpa [Tree.descend, hlookup] using h
          rw [walk_enter hnode hname hlookup hnolink]
          simpa using walk_of_descend_eq_none hbelow hnames habsent

/-- A path from the root has the characters of its names in it, and slashes. -/
theorem mem_absolute_iff {names : List String} {c : Char} (hc : c ≠ '/') :
    c ∈ (absolute names).toList ↔ ∃ name ∈ names, c ∈ name.toList := by
  rw [absolute]
  split
  · simp_all
  · simp [String.toList_join, hc]

theorem mem_pathOf_iff {names : List String} {c : Char} (hc : c ≠ '/') :
    c ∈ (Directory.pathOf names).toList ↔ ∃ name ∈ names, c ∈ name.toList := by
  rw [← mem_absolute_iff hc, absolute_eq]
  simp [hc]

end FileSystem

namespace Directory

open FileSystem (IsNamedStep)

/-- An absolute path begins with an empty step. -/
theorem empty_mem_steps_of_isAbsolute {path : String} (h : FileSystem.isAbsolute path = true) :
    "" ∈ FileSystem.steps path := by
  rw [FileSystem.isAbsolute, beq_iff_eq, List.head?_eq_some_iff] at h
  obtain ⟨rest, hpath⟩ := h
  rw [FileSystem.steps, splitString, hpath, Text.splitAt, if_pos rfl]
  exact List.mem_cons_self

theorem namedSteps_pathOf {names : List String} (hne : names ≠ [])
    (hproper : ∀ name ∈ names, name ≠ "" ∧ name ≠ "." ∧ '/' ∉ name.toList) :
    FileSystem.namedSteps (pathOf names) = names := by
  rw [FileSystem.namedSteps, steps_pathOf hne fun name hname => (hproper name hname).2.2]
  exact List.filter_eq_self.2 fun name hname =>
    decide_eq_true ⟨(hproper name hname).1, (hproper name hname).2.1⟩

/-- The path of some names is a request for them. -/
theorem requested_pathOf {names : List String} (hne : names ≠ [])
    (hnamed : ∀ name ∈ names, IsNamedStep name ∧ '/' ∉ name.toList)
    (hlong : byteLength (pathOf names) ≤ DirectoryConfig.pathLimit) :
    requested (pathOf names) = .ok names := by
  have hsteps : FileSystem.steps (pathOf names) = names :=
    steps_pathOf hne fun name hname => (hnamed name hname).2
  have hempty : "" ∉ names := fun hmem => (hnamed "" hmem).1.ne_empty rfl
  refine requested_eq_ok.2 ⟨?_, hlong, ?_, ?_, ?_⟩
  · intro hpath
    rw [hpath, show FileSystem.steps "" = [""] from by decide] at hsteps
    exact hempty (hsteps ▸ List.mem_singleton_self _)
  · rw [← Bool.not_eq_true]
    intro habsolute
    exact hempty (hsteps ▸ empty_mem_steps_of_isAbsolute habsolute)
  · rw [hsteps]
    exact fun step hstep => ⟨(hnamed step hstep).1.ne_dots, (hnamed step hstep).1.short⟩
  · exact (namedSteps_pathOf hne fun name hname =>
      ⟨(hnamed name hname).1.ne_empty, (hnamed name hname).1.ne_dot, (hnamed name hname).2⟩).symm

variable {fs : FileSystem} {config : DirectoryConfig} {d : Directory} {names : List String}

/-- A request whose path leads nowhere fails; only an entry that is missing is reported as such. -/
theorem get_of_fault {path : String} (hnames : requested path = .ok names) {fault : PathFault}
    (h : fs.resolve (d.below names) = .error fault) :
    d.get fs path = .error (if fault = .notFound then .notFound path
      else .io s!"{path}: {fault.message}") := by
  simp only [get, hnames, Except.mapError, bind, Except.bind, h]
  cases fault <;> rfl

/-- What the path of names that lead nowhere is resolved to. -/
theorem resolve_below_of_absent (wf : fs.root.WellFormed) (hopen : openIn fs config = .ok d)
    {bundle : Tree} (hbundle : fs.root.descend d.root = some bundle) (hlinks : bundle.LinkFree)
    (hnamed : ∀ name ∈ names, IsNamedStep name ∧ '/' ∉ name.toList)
    (habsent : bundle.descend names = none) : ∃ fault, fs.resolve (d.below names) = .error fault
      ∧ (fault = .zeroCharacter ∧ '\x00' ∈ (pathOf names).toList
        ∨ '\x00' ∉ (pathOf names).toList ∧ (fault = .notADirectory ∧ bundle.Obstructed names
          ∨ fault = .notFound ∧ ¬ bundle.Obstructed names)) := by
  obtain ⟨_, _, hreal, hroot, -⟩ := real_root_of_openIn hopen
  obtain ⟨_, hdir⟩ := descend_root_of_openIn hopen
  obtain ⟨_, htop⟩ := Tree.dir_of_descend_dir hdir
  have hentry := (wf.descend hdir).2
  have hslash : ∀ name ∈ d.root ++ names, '/' ∉ name.toList :=
    List.forall_mem_append.2 ⟨fun name h => (hentry name h).no_slash, fun name h => (hnamed name h).2⟩
  have hnolink : ∀ target, bundle ≠ .link target := by
    rintro target rfl
    cases hlinks
  have hzero : '\x00' ∈ (FileSystem.absolute (d.root ++ names)).toList ↔
      '\x00' ∈ (pathOf names).toList := by
    rw [FileSystem.mem_absolute_iff (by decide), FileSystem.mem_pathOf_iff (by decide)]
    simp only [List.mem_append, or_and_right, exists_or]
    exact or_iff_right fun ⟨name, hname, hmem⟩ => (hentry name hname).no_zero hmem
  rw [below, FileSystem.resolve_absolute htop hslash]
  by_cases hmem : '\x00' ∈ (pathOf names).toList
  · rw [if_pos (List.contains_iff_mem.2 (hzero.2 hmem))]
    exact ⟨_, rfl, .inl ⟨rfl, hmem⟩⟩
  · rw [if_neg (mt (fun h => hzero.1 (List.contains_iff_mem.1 h)) hmem)]
    have hdescend : (fs.node []).descend d.root = some bundle := hbundle
    obtain ⟨place, rfl, hwalk⟩ := FileSystem.walk_of_descend hnolink
      (fun name h => hreal.isNamedStep name (hroot ▸ h)) hdescend
    rw [hwalk]
    rcases FileSystem.walk_of_descend_eq_none hlinks (fun name h => (hnamed name h).1) habsent with
      ⟨hfile, h⟩ | ⟨hfile, h⟩
    · exact ⟨_, h, .inr ⟨hmem, .inl ⟨rfl, hfile⟩⟩⟩
    · exact ⟨_, h, .inr ⟨hmem, .inr ⟨rfl, hfile⟩⟩⟩

theorem toMemory_get_of_absent {bundle : Tree} (wf : bundle.WellFormed)
    (hnames : requested (pathOf names) = .ok names) (habsent : bundle.descend names = none) :
    bundle.toMemory.get (pathOf names) = .error (.notFound (pathOf names)) := by
  rw [MemoryStore.get]
  cases hlookup : bundle.toMemory.files.lookup (pathOf names) with
  | none => rfl
  | some content =>
    obtain ⟨others, hpath, hfile⟩ := (mem_toMemory_iff wf _).1 (mem_of_lookup hlookup)
    obtain ⟨hne, -, -, -, hsteps⟩ := requested_eq_ok.1 hnames
    have hothers : FileSystem.namedSteps (pathOf others) = others := by
      refine namedSteps_pathOf ?_ fun name hname => ?_
      · rintro rfl
        exact hne hpath
      · have := (wf.descend hfile).2 name hname
        exact ⟨this.ne_empty, this.ne_dot, this.no_slash⟩
    have hsame : names = others := hsteps.trans ((congrArg _ hpath).trans hothers)
    rw [hsame, hfile] at habsent
    cases habsent

/-- Nothing is at the path of these names, in a bundle without links. The plain store of the same
files says that there is no such file. The open directory says so exactly when the path has no zero
character and no file is in the way; otherwise it fails, for one of these two reasons, and a fan-out
that asks for its own file there fails with it instead of turning to the nodes. -/
theorem get_absent_eq_notFound_iff (wf : fs.root.WellFormed) (hopen : openIn fs config = .ok d)
    {bundle : Tree} (hbundle : fs.root.descend d.root = some bundle) (hlinks : bundle.LinkFree)
    (hne : names ≠ []) (hnamed : ∀ name ∈ names, IsNamedStep name ∧ '/' ∉ name.toList)
    (hlong : byteLength (pathOf names) ≤ 4096) (habsent : bundle.descend names = none) :
    bundle.toMemory.get (pathOf names) = .error (.notFound (pathOf names))
    ∧ (d.get fs (pathOf names) = .error (.notFound (pathOf names)) ↔
      '\x00' ∉ (pathOf names).toList ∧ ¬ bundle.Obstructed names)
    ∧ ('\x00' ∈ (pathOf names).toList ∨ bundle.Obstructed names → ∃ fault : PathFault,
      (fault = .zeroCharacter ∧ '\x00' ∈ (pathOf names).toList
        ∨ fault = .notADirectory ∧ '\x00' ∉ (pathOf names).toList)
      ∧ d.get fs (pathOf names) = .error (.io s!"{pathOf names}: {fault.message}")
      ∧ ∀ paths : FactPaths, paths.own = pathOf names → (d.toStore fs).collect paths =
        .error (.store (.io s!"{pathOf names}: {fault.message}"))) := by
  have hnames := requested_pathOf hne hnamed hlong
  obtain ⟨fault, hfault, hcause⟩ :=
    resolve_below_of_absent wf hopen hbundle hlinks hnamed habsent
  have hget := get_of_fault hnames hfault
  refine ⟨toMemory_get_of_absent (wf.descend hbundle).1 hnames habsent, ?_, ?_⟩
  · rw [hget]
    rcases hcause with ⟨rfl, hzero⟩ | ⟨hzero, ⟨rfl, hfile⟩ | ⟨rfl, hfile⟩⟩
    · simp [hzero]
    · simp [hfile]
    · simp [hzero, hfile]
  · intro hfails
    have hfound : fault ≠ .notFound := by
      rintro rfl
      rcases hcause with ⟨h, -⟩ | ⟨hzero, ⟨h, -⟩ | ⟨-, hfile⟩⟩
      · exact PathFault.noConfusion h
      · exact PathFault.noConfusion h
      · exact hfails.elim hzero hfile
    rw [if_neg hfound] at hget
    refine ⟨fault, ?_, hget, fun paths hown => ?_⟩
    · rcases hcause with hzero | ⟨hzero, ⟨hdir, -⟩ | ⟨hnone, -⟩⟩
      · exact .inl hzero
      · exact .inr ⟨hdir, hzero⟩
      · exact absurd hnone hfound
    · exact EvidenceStore.collect_of_own_error (by rw [hown]; exact hget) nofun

/-- A bundle with a file where the directory of host facts should be. -/
def spoiltBundle : Tree := .dir [("host-collectors", .dir [("system", .file [120])])]

def spoiltSystem : FileSystem := ⟨.dir [("bundle", spoiltBundle)], []⟩

theorem linkFree_spoiltBundle : spoiltBundle.LinkFree :=
  .dir (by simpa using .dir (by simpa using .file [120]))

/-- The fact is not there, and neither is a list of nodes; but the fan-out fails. -/
theorem collect_fails_in_spoiltBundle :
    spoiltSystem.root.WellFormed ∧ openIn spoiltSystem ⟨"/bundle", 1⟩ = .ok ⟨["bundle"], 1⟩
    ∧ spoiltSystem.root.descend ["bundle"] = some spoiltBundle ∧ spoiltBundle.LinkFree
    ∧ (∀ name ∈ ["host-collectors", "system", "memory.json"],
      IsNamedStep name ∧ '/' ∉ name.toList)
    ∧ byteLength (pathOf ["host-collectors", "system", "memory.json"]) ≤ 4096
    ∧ spoiltBundle.descend ["host-collectors", "system", "memory.json"] = none
    ∧ (toStore spoiltSystem ⟨["bundle"], 1⟩).collect (.standard "memory.json") =
      .error (.store (.io "host-collectors/system/memory.json: not a directory")) := by
  have wf : spoiltSystem.root.WellFormed := by decide +kernel
  have hopen : openIn spoiltSystem ⟨"/bundle", 1⟩ = .ok ⟨["bundle"], 1⟩ := by decide +kernel
  have hbundle : spoiltSystem.root.descend ["bundle"] = some spoiltBundle := rfl
  have hnamed : ∀ name ∈ ["host-collectors", "system", "memory.json"],
      IsNamedStep name ∧ '/' ∉ name.toList := by
    simp only [List.forall_mem_cons]
    exact ⟨⟨⟨by decide, by decide, by decide, by decide⟩, by decide⟩,
      ⟨⟨by decide, by decide, by decide, by decide⟩, by decide⟩,
      ⟨⟨by decide, by decide, by decide, by decide⟩, by decide⟩, by simp⟩
  have hlong : byteLength (pathOf ["host-collectors", "system", "memory.json"]) ≤ 4096 := by
    decide +kernel
  have habsent : spoiltBundle.descend ["host-collectors", "system", "memory.json"] = none := rfl
  have hfile : spoiltBundle.Obstructed ["host-collectors", "system", "memory.json"] :=
    ⟨["host-collectors", "system"], ["memory.json"], [120], rfl, by simp, rfl⟩
  obtain ⟨-, -, hfails⟩ := get_absent_eq_notFound_iff wf hopen hbundle linkFree_spoiltBundle
    (by simp) hnamed hlong habsent
  obtain ⟨fault, ⟨-, hzero⟩ | ⟨rfl, -⟩, -, hcollect⟩ := hfails (.inr hfile)
  · exact absurd hzero (by decide +kernel)
  · exact ⟨wf, hopen, hbundle, linkFree_spoiltBundle, hnamed, hlong, habsent,
      hcollect (.standard "memory.json") (by decide +kernel)⟩

/-- There is nothing below a file, but a request for it fails. -/
theorem get_fails_below_file :
    spoiltSystem.root.WellFormed ∧ openIn spoiltSystem ⟨"/bundle", 1⟩ = .ok ⟨["bundle"], 1⟩
    ∧ spoiltSystem.root.descend ["bundle"] = some spoiltBundle ∧ spoiltBundle.LinkFree
    ∧ spoiltBundle.descend ["host-collectors", "system", "memory.json"] = none
    ∧ spoiltBundle.toMemory.get "host-collectors/system/memory.json" =
      .error (.notFound "host-collectors/system/memory.json")
    ∧ get spoiltSystem ⟨["bundle"], 1⟩ "host-collectors/system/memory.json" =
      .error (.io "host-collectors/system/memory.json: not a directory") :=
  ⟨by decide +kernel, by decide +kernel, rfl, linkFree_spoiltBundle, rfl, by decide +kernel,
    by decide +kernel⟩

end Directory

end Triage
