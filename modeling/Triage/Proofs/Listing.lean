import Triage.Proofs.FoundFiles
import Triage.Proofs.Reads

/-!
# What a search goes through

A search works on a stack of directories. What it keeps throughout (`Listing.Sound`) is that every
directory on the stack is reached from the start without a link, that what is found are accepted
files, and that every accepted file is found already or lies below a directory of the stack. So the
search ends with all accepted files below the start and nothing else (`Sound.run`, `Sound.mem_iff`), and it
does end unless one of them is too long (`Sound.exists_run`).
-/

namespace Triage

namespace Listing

open Directory (pathOf)

/-- The file at `names` is found already, or below a directory that waits. -/
def Covered (base : List String) (l : Listing) (names : List String) (content : Bytes) : Prop :=
  (pathOf (base ++ names), content) ∈ l.found
    ∨ ∃ dir ∈ l.pending, ∃ front back, names = front ++ back ∧ dir.1 = base ++ front
      ∧ (Tree.dir dir.2).descend back = some (.file content)

/-- What holds at every point of a search that began at `top`, where the names `base` lead. -/
structure Sound (d : Directory) (filter : Glob.Filter) (base : List String) (top : Tree)
    (l : Listing) : Prop where
  ascending : Ascending l.found
  pending : ∀ dir ∈ l.pending, ∃ front, dir.1 = base ++ front
    ∧ ∀ entry ∈ dir.2, top.descend (front ++ [entry.1]) = some entry.2
  found : ∀ file ∈ l.found, ∃ names, file.1 = pathOf (base ++ names)
    ∧ top.descend names = some (.file file.2) ∧ filter.accepts file.1 = true
    ∧ file.2.length ≤ d.maxFileBytes
  covers : ∀ names content, top.descend names = some (.file content) →
    filter.accepts (pathOf (base ++ names)) = true → Covered base l names content

variable {d : Directory} {filter : Glob.Filter} {base : List String} {top : Tree}

theorem sound_start {entries : List (String × Tree)} (wf : (Tree.dir entries).WellFormed) :
    Sound d filter base (.dir entries) { pending := [(base, entries)] } where
  ascending := .nil
  pending := by
    cases wf with
    | dir _ hnodup _ =>
      intro dir hdir
      obtain rfl := List.mem_singleton.1 hdir
      refine ⟨[], by simp, fun entry hentry => ?_⟩
      rw [List.nil_append, Tree.descend_singleton]
      exact lookup_of_mem hnodup hentry
  found := by simp
  covers := fun names content h _ => .inr ⟨(base, entries), by simp, [], names, by simp, by simp, h⟩

section Step

variable {names front : List String} {name : String} {node : Tree}
  {entries : List (String × Tree)} {l next : Listing}

/-- What was covered stays covered when its first entry is taken off a directory, as long as the
files of that entry are covered. -/
theorem Sound.covers_next (next : Listing)
    (h : Sound d filter base top ⟨(names, (name, node) :: entries) :: l.pending, l.found⟩)
    (hnames : names = base ++ front)
    (hfound : ∀ names content, top.descend names = some (.file content) →
      (pathOf (base ++ names), content) ∈ l.found → (pathOf (base ++ names), content) ∈ next.found)
    (hpending : ∀ dir ∈ l.pending, dir ∈ next.pending)
    (hentry : ∀ rest content, node.descend rest = some (.file content) →
      filter.accepts (pathOf (base ++ (front ++ name :: rest))) = true →
      Covered base next (front ++ name :: rest) content)
    {ns : List String} {content : Bytes} (hfile : top.descend ns = some (.file content))
    (haccepts : filter.accepts (pathOf (base ++ ns)) = true) :
    Covered base ⟨(names, entries) :: next.pending, next.found⟩ ns content := by
  have hweaken {ns : List String} {content : Bytes} (hc : Covered base next ns content) :
      Covered base ⟨(names, entries) :: next.pending, next.found⟩ ns content := by
    rcases hc with hc | ⟨dir, hdir, hc⟩
    · exact .inl hc
    · exact .inr ⟨dir, List.mem_cons_of_mem _ hdir, hc⟩
  rcases h.covers ns content hfile haccepts with hc | ⟨dir, hdir, f, back, rfl, hdirnames, hc⟩
  · exact .inl (hfound ns content hfile hc)
  rcases List.mem_cons.1 hdir with rfl | hdir
  · obtain rfl : front = f := List.append_cancel_left (hnames.symm.trans hdirnames)
    rcases Tree.descend_file_cons hc with ⟨rest, rfl, hnode⟩ | hrest
    · exact hweaken (hentry rest content hnode haccepts)
    · exact .inr ⟨_, List.mem_cons_self, front, back, rfl, hdirnames, hrest⟩
  · exact .inr ⟨dir, List.mem_cons_of_mem _ (hpending dir hdir), f, back, rfl, hdirnames, hc⟩

/-- A directory that waits is reached also without its first entry. -/
theorem Sound.pending_rest {entry : String × Tree}
    (h : Sound d filter base top ⟨(names, entry :: entries) :: l.pending, l.found⟩) :
    ∀ dir ∈ (names, entries) :: l.pending, ∃ front, dir.1 = base ++ front
      ∧ ∀ entry ∈ dir.2, top.descend (front ++ [entry.1]) = some entry.2 := by
  obtain ⟨front, hnames, hentries⟩ := h.pending _ List.mem_cons_self
  simp only [List.forall_mem_cons]
  exact ⟨⟨front, hnames, fun entry he => hentries entry (List.mem_cons_of_mem _ he)⟩,
    fun dir hdir => h.pending dir (List.mem_cons_of_mem _ hdir)⟩

/-- The first entry of a directory that waits is reached from the start. -/
theorem Sound.first_entry
    (h : Sound d filter base top ⟨(names, (name, node) :: entries) :: l.pending, l.found⟩) :
    ∃ front, names = base ++ front ∧ top.descend (front ++ [name]) = some node := by
  obtain ⟨front, hnames, hentries⟩ := h.pending _ List.mem_cons_self
  exact ⟨front, hnames, hentries _ List.mem_cons_self⟩

/-- A directory that is met waits from then on. -/
theorem Sound.enterDir (wf : top.WellFormed) {inner : List (String × Tree)}
    (h : Sound d filter base top ⟨(names, (name, .dir inner) :: entries) :: l.pending, l.found⟩) :
    Sound d filter base top
      ⟨(names, entries) :: (names ++ [name], inner) :: l.pending, l.found⟩ := by
  obtain ⟨front, hnames, hnode⟩ := h.first_entry
  have hpath : names ++ [name] = base ++ (front ++ [name]) := by rw [hnames, List.append_assoc]
  have hinner : ∀ entry ∈ inner, top.descend ((front ++ [name]) ++ [entry.1]) = some entry.2 := by
    intro entry he
    rw [Tree.descend_append_eq_some]
    refine ⟨_, hnode, ?_⟩
    obtain ⟨hdir, -⟩ := wf.descend hnode
    cases hdir with
    | dir _ hnodup _ => rw [Tree.descend_singleton, lookup_of_mem hnodup he]
  refine ⟨h.ascending, ?_, h.found, fun ns content => h.covers_next
    ⟨(names ++ [name], inner) :: l.pending, l.found⟩ hnames
    (fun _ _ _ hc => hc) (fun dir hdir => List.mem_cons_of_mem _ hdir) ?_⟩
  · have hrest := h.pending_rest
    simp only [List.forall_mem_cons] at hrest ⊢
    exact ⟨hrest.1, ⟨front ++ [name], hpath, hinner⟩, hrest.2⟩
  · intro rest content hfile _
    exact .inr ⟨_, List.mem_cons_self, front ++ [name], rest, by simp, hpath, hfile⟩

/-- An accepted file that is met is found. -/
theorem Sound.takeFile (wf : top.WellFormed) (hbase : ∀ name ∈ base, IsEntryName name)
    {content : Bytes}
    (h : Sound d filter base top ⟨(names, (name, .file content) :: entries) :: l.pending, l.found⟩)
    (hle : content.length ≤ d.maxFileBytes)
    (haccepts : filter.accepts (pathOf (names ++ [name])) = true) :
    Sound d filter base top ⟨(names, entries) :: l.pending,
      MemoryStore.insertFile (pathOf (names ++ [name])) content l.found⟩ := by
  obtain ⟨front, hnames, hnode⟩ := h.first_entry
  have hpath : names ++ [name] = base ++ (front ++ [name]) := by rw [hnames, List.append_assoc]
  refine ⟨MemoryStore.ascending_insertFile h.ascending, h.pending_rest, ?_,
    fun ns c => h.covers_next
      ⟨l.pending, MemoryStore.insertFile (pathOf (names ++ [name])) content l.found⟩
      hnames ?_ (fun dir hdir => hdir) ?_⟩
  · intro file hfile
    rcases MemoryStore.eq_or_mem_of_mem_insertFile hfile with rfl | hfile
    · exact ⟨front ++ [name], by rw [hpath], hnode, haccepts, hle⟩
    · exact h.found file hfile
  · -- an older file of the same path is the same file, so nothing is lost by replacing it
    intro ns c hns hc
    by_cases heq : pathOf (base ++ ns) = pathOf (names ++ [name])
    · have hproper {ns : List String} {c : Bytes} (hns : top.descend ns = some (.file c)) :
          ∀ name ∈ base ++ ns, IsEntryName name := by
        intro n hn
        exact (List.mem_append.1 hn).elim (hbase n) ((wf.descend hns).2 n)
      rw [hpath] at heq
      obtain rfl := List.append_cancel_left
        (Directory.pathOf_inj (hproper hns) (hproper hnode) heq)
      rw [hns, Option.some.injEq, Tree.file.injEq] at hnode
      rw [heq, ← hpath, hnode]
      exact MemoryStore.mem_insertFile_self _ _ _
    · exact MemoryStore.mem_insertFile_of_ne heq hc
  · intro rest c hfile _
    cases rest with
    | nil =>
      obtain rfl : content = c := by simpa using hfile
      rw [Covered, ← hpath]
      exact .inl (MemoryStore.mem_insertFile_self _ _ _)
    | cons n rest => simp [Tree.descend] at hfile

/-- A link, or a file that is not accepted, is passed over. -/
theorem Sound.passOver
    (h : Sound d filter base top ⟨(names, (name, node) :: entries) :: l.pending, l.found⟩)
    (hpassed : (∃ target, node = .link target)
      ∨ ∃ content, node = .file content ∧ filter.accepts (pathOf (names ++ [name])) = false) :
    Sound d filter base top ⟨(names, entries) :: l.pending, l.found⟩ := by
  obtain ⟨front, hnames, -⟩ := h.first_entry
  have hpath : names ++ [name] = base ++ (front ++ [name]) := by rw [hnames, List.append_assoc]
  refine ⟨h.ascending, h.pending_rest, h.found, fun ns content => h.covers_next l hnames
    (fun _ _ _ hc => hc) (fun dir hdir => hdir) ?_⟩
  intro rest c hfile haccepts
  rcases hpassed with ⟨target, rfl⟩ | ⟨content, rfl, hrefused⟩
  · cases rest <;> simp [Tree.descend] at hfile
  · cases rest with
    | nil => simp [← hpath, hrefused] at haccepts
    | cons n rest => simp [Tree.descend] at hfile

/-- An entry that is taken in leaves the rest of its directory to be read. -/
theorem Sound.addEntry (wf : top.WellFormed) (hbase : ∀ name ∈ base, IsEntryName name)
    (h : Sound d filter base top ⟨(names, (name, node) :: entries) :: l.pending, l.found⟩)
    (hadd : addEntry d filter names l (name, node) = .ok next) :
    Sound d filter base top ⟨(names, entries) :: next.pending, next.found⟩ := by
  obtain ⟨inner, rfl, rfl⟩ | ⟨content, rfl, hle, haccepts, rfl⟩ | ⟨rfl, hpassed⟩ :=
    addEntry_cases hadd
  · exact h.enterDir wf
  · exact h.takeFile wf hbase hle haccepts
  · exact h.passOver hpassed

theorem Sound.readDir (wf : top.WellFormed) (hbase : ∀ name ∈ base, IsEntryName name) :
    ∀ {entries : List (String × Tree)} {l next : Listing},
      Sound d filter base top ⟨(names, entries) :: l.pending, l.found⟩ →
      readDir d filter names entries l = .ok next → Sound d filter base top next
  | [], l, next, h, hread => by
    rw [readDir_nil hread]
    refine ⟨h.ascending, fun dir hdir => h.pending dir (List.mem_cons_of_mem _ hdir), h.found,
      fun ns content hfile haccepts => ?_⟩
    rcases h.covers ns content hfile haccepts with hc | ⟨dir, hdir, front, back, hns, hdirnames, hc⟩
    · exact .inl hc
    rcases List.mem_cons.1 hdir with rfl | hdir
    · cases back <;> simp [Tree.descend] at hc
    · exact .inr ⟨dir, hdir, front, back, hns, hdirnames, hc⟩
  | entry :: entries, l, next, h, hread => by
    obtain ⟨mid, hmid, hrest⟩ := readDir_cons hread
    exact Sound.readDir wf hbase (h.addEntry wf hbase hmid) hrest

end Step

/-- A search that ends has found what there is to find. -/
theorem Sound.run (wf : top.WellFormed) (hbase : ∀ name ∈ base, IsEntryName name) (l : Listing)
    {found : List FoundFile} (h : Sound d filter base top l) (hrun : run d filter l = .ok found) :
    Sound d filter base top ⟨[], found⟩ := by
  induction l using Listing.run.induct d filter with
  | case1 files =>
    rw [run_nil, Except.ok.injEq] at hrun
    exact hrun ▸ h
  | case2 names entries pending files e hread =>
    rw [run_cons, hread] at hrun
    simp [Except.bind] at hrun
  | case3 names entries pending files next hread _ ih =>
    rw [run_cons, hread] at hrun
    exact ih (h.readDir wf hbase hread) hrun

theorem Sound.mem_iff {found : List FoundFile} (h : Sound d filter base top ⟨[], found⟩)
    (file : FoundFile) : file ∈ found ↔ ∃ names, file.1 = pathOf (base ++ names)
      ∧ top.descend names = some (.file file.2) ∧ filter.accepts file.1 = true := by
  constructor
  · intro hfile
    obtain ⟨names, hpath, hdescend, haccepts, -⟩ := h.found file hfile
    exact ⟨names, hpath, hdescend, haccepts⟩
  · obtain ⟨path, content⟩ := file
    rintro ⟨names, rfl, hdescend, haccepts⟩
    simpa [Covered] using h.covers names content hdescend haccepts

section Short

variable {names : List String} {l : Listing}

/-- As long as no accepted file is too long, an entry can be taken in. -/
theorem exists_addEntry {name : String} {node : Tree}
    (hshort : ∀ content, node = .file content →
      filter.accepts (pathOf (names ++ [name])) = true → content.length ≤ d.maxFileBytes) :
    ∃ next, addEntry d filter names l (name, node) = .ok next := by
  cases node with
  | file content =>
    rw [Listing.addEntry]
    split
    · rename_i haccepts
      have hread := Directory.bounded_eq_ok.2 ⟨hshort content rfl haccepts, rfl⟩
      exact ⟨_, by rw [hread]; rfl⟩
    · exact ⟨l, rfl⟩
  | dir entries => exact ⟨_, rfl⟩
  | link target => exact ⟨l, rfl⟩

theorem exists_readDir {front : List String} (hnames : names = base ++ front)
    (hshort : ∀ names content, top.descend names = some (.file content) →
      filter.accepts (pathOf (base ++ names)) = true → content.length ≤ d.maxFileBytes) :
    ∀ {entries : List (String × Tree)} {l : Listing},
      (∀ entry ∈ entries, top.descend (front ++ [entry.1]) = some entry.2) →
      ∃ next, readDir d filter names entries l = .ok next
  | [], l, _ => ⟨l, rfl⟩
  | (name, node) :: entries, l, h => by
    obtain ⟨mid, hmid⟩ : ∃ mid, addEntry d filter names l (name, node) = .ok mid := by
      refine exists_addEntry fun content hnode haccepts => ?_
      rw [hnames, List.append_assoc] at haccepts
      exact hshort _ content (hnode ▸ h _ List.mem_cons_self) haccepts
    obtain ⟨next, hnext⟩ := @exists_readDir front hnames hshort entries mid fun entry he =>
      h entry (List.mem_cons_of_mem _ he)
    refine ⟨next, ?_⟩
    rw [readDir, List.foldlM_cons, hmid]
    exact hnext

/-- As long as no accepted file is too long, a search comes to its end. -/
theorem Sound.exists_run (wf : top.WellFormed) (hbase : ∀ name ∈ base, IsEntryName name)
    (hshort : ∀ names content, top.descend names = some (.file content) →
      filter.accepts (pathOf (base ++ names)) = true → content.length ≤ d.maxFileBytes)
    (l : Listing) (h : Sound d filter base top l) : ∃ found, Listing.run d filter l = .ok found := by
  induction l using Listing.run.induct d filter with
  | case1 files => exact ⟨files, run_nil d filter files⟩
  | case2 names entries pending files e hread =>
    obtain ⟨front, hnames, hentries⟩ := h.pending _ List.mem_cons_self
    obtain ⟨next, hnext⟩ := @exists_readDir d filter base top names front hnames hshort entries
      ⟨pending, files⟩ hentries
    rw [hread] at hnext
    simp at hnext
  | case3 names entries pending files next hread _ ih =>
    obtain ⟨found, hfound⟩ := ih (h.readDir wf hbase hread)
    refine ⟨found, ?_⟩
    rw [run_cons, hread]
    exact hfound

end Short

end Listing

end Triage
