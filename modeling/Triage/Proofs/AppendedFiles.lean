import Triage.Proofs.Places

/-!
# Files that are opened for appending

Opening finds the names of a file: of the one that the path leads to, or of one in an existing
directory, which is made (`Located`). What is appended there changes no directory and no link
(`Tree.Keeps`), so the path still leads to the file, and reading it gives what the file held and
then all that was appended (`Grown.append`, `Grown.read`).
-/

namespace Triage

namespace Tree

/-- Two nodes between which a path makes no difference: they differ in the content of a file or in
the entries of a directory. -/
inductive Alike : Tree → Tree → Prop
  | file (content other : Bytes) : Alike (file content) (file other)
  | link (target : String) : Alike (link target) (link target)
  | dir (entries others : List (String × Tree)) : Alike (dir entries) (dir others)

/-- What names lead to in the first tree, they lead to in the second. -/
def Keeps (t u : Tree) : Prop :=
  ∀ names node, t.descend names = some node →
    ∃ other, Alike node other ∧ u.descend names = some other

/-- A file can be written at the names: there is one, or only the last name is not there yet. -/
inductive Takes : List String → Tree → Prop
  | file (content : Bytes) : Takes [] (file content)
  | new {name : String} {entries : List (String × Tree)} (hnew : entries.lookup name = none) :
    Takes [name] (dir entries)
  | into {name : String} {names : List String} {entries : List (String × Tree)} {node : Tree}
    (hlookup : entries.lookup name = some node) (h : Takes names node) :
    Takes (name :: names) (dir entries)

variable {name other : String} {names : List String} {node t u v : Tree}
  {entries : List (String × Tree)} {content : Bytes}

theorem Alike.refl : ∀ node, Alike node node
  | .file content => .file content content
  | .link target => .link target
  | .dir entries => .dir entries entries

theorem Alike.trans (h : Alike t u) (h' : Alike u v) : Alike t v := by
  cases h with
  | file => cases h'; exact .file _ _
  | link => exact h'
  | dir => cases h'; exact .dir _ _

theorem Keeps.dir (h : Keeps t u) (hdir : t.descend names = some (.dir entries)) :
    ∃ others, u.descend names = some (.dir others) := by
  obtain ⟨other, halike, hother⟩ := h names _ hdir
  cases halike with
  | dir => exact ⟨_, hother⟩

theorem Keeps.link {target : String} (h : Keeps t u)
    (hlink : t.descend names = some (.link target)) : u.descend names = some (.link target) := by
  obtain ⟨other, halike, hother⟩ := h names _ hlink
  cases halike with
  | link => exact hother

theorem Keeps.not_link (h : Keeps t u) (hnode : t.descend names = some node)
    (hlink : ∀ target, node ≠ .link target) :
    ∃ other, u.descend names = some other ∧ ∀ target, other ≠ .link target := by
  obtain ⟨other, halike, hother⟩ := h names _ hnode
  refine ⟨other, hother, ?_⟩
  rintro target rfl
  cases halike with
  | link => exact hlink target rfl

theorem Keeps.refl (t : Tree) : Keeps t t := fun _ node h => ⟨node, .refl node, h⟩

theorem Keeps.trans (h : Keeps t u) (h' : Keeps u v) : Keeps t v := by
  intro names node hnode
  obtain ⟨mid, halike, hmid⟩ := h names node hnode
  obtain ⟨last, halike', hlast⟩ := h' names mid hmid
  exact ⟨last, halike.trans halike', hlast⟩

section Insert

theorem lookup_setEntry (name other : String) (node : Tree) : ∀ entries : List (String × Tree),
    (setEntry name node entries).lookup other =
      if other = name then some node else entries.lookup other
  | [] => by
    rw [setEntry, List.lookup_cons]
    by_cases h : other = name
    · simp [h]
    · simp [h, beq_eq_false_iff_ne.2 h]
  | (n, old) :: entries => by
    rw [setEntry]
    split_ifs with hn h h
    · simp [h]
    · have hne : other ≠ n := hn ▸ h
      simp [List.lookup_cons, beq_eq_false_iff_ne.2 h, beq_eq_false_iff_ne.2 hne]
    · have hne : other ≠ n := h ▸ Ne.symm hn
      rw [List.lookup_cons, beq_eq_false_iff_ne.2 hne]
      exact (lookup_setEntry name other node entries).trans (if_pos h)
    · rw [List.lookup_cons, List.lookup_cons, lookup_setEntry name other node entries, if_neg h]

theorem descend_insert (node : Tree) : ∀ (names : List String) (t : Tree),
    (insert node names t).descend names = some node
  | [], t => by rw [insert, descend_nil]
  | name :: names, dir entries => by
    rw [insert, descend, lookup_setEntry, if_pos rfl]
    exact descend_insert node names _
  | name :: names, file _ => by
    simpa [insert, descend] using descend_insert node names _
  | name :: names, link _ => by
    simpa [insert, descend] using descend_insert node names _

theorem keeps_setEntry (h : ∀ old, entries.lookup name = some old → Keeps old node) :
    Keeps (dir entries) (dir (setEntry name node entries)) := by
  intro path found hfound
  cases path with
  | nil =>
    cases hfound
    exact ⟨_, .dir _ _, rfl⟩
  | cons first path =>
    obtain ⟨old, hold, hpath⟩ := Option.bind_eq_some_iff.1 hfound
    by_cases hfirst : first = name
    · subst hfirst
      obtain ⟨other, halike, hother⟩ := h old hold path found hpath
      exact ⟨other, halike, by rw [descend, lookup_setEntry, if_pos rfl]; exact hother⟩
    · refine ⟨found, .refl found, ?_⟩
      rw [descend, lookup_setEntry, if_neg hfirst]
      exact hfound

theorem Takes.keeps_insert (h : Takes names t) (content : Bytes) :
    Keeps t (insert (.file content) names t) := by
  induction h with
  | file old =>
    intro path found hfound
    cases path with
    | nil =>
      cases hfound
      exact ⟨_, .file _ _, rfl⟩
    | cons => cases hfound
  | new hnew =>
    refine keeps_setEntry fun old hold => ?_
    rw [hnew] at hold
    cases hold
  | into hlookup _ ih =>
    rw [insert, hlookup, Option.getD_some]
    refine keeps_setEntry fun old hold => ?_
    rw [hlookup] at hold
    cases hold
    exact ih

theorem takes_of_descend : ∀ {names : List String} {t : Tree},
    t.descend names = some (file content) → Takes names t
  | [], _, h => by
    cases h
    exact .file content
  | _ :: _, _, h => by
    obtain ⟨entries, node, rfl, hlookup, hnode⟩ := descend_cons_eq_some.1 h
    exact .into hlookup (takes_of_descend hnode)

theorem takes_of_lookup (hnew : entries.lookup name = none) : ∀ {names : List String} {t : Tree},
    t.descend names = some (dir entries) → Takes (names ++ [name]) t
  | [], _, h => by
    cases h
    exact .new hnew
  | _ :: _, _, h => by
    obtain ⟨others, node, rfl, hlookup, hnode⟩ := descend_cons_eq_some.1 h
    exact .into hlookup (takes_of_lookup hnew hnode)

theorem Takes.descend (h : Takes names t) :
    t.descend names = none ∨ ∃ content, t.descend names = some (.file content) := by
  induction h with
  | file content => exact .inr ⟨content, rfl⟩
  | new hnew => exact .inl (by rw [descend_singleton, hnew])
  | into hlookup _ ih =>
    rw [Tree.descend, hlookup]
    exact ih

end Insert

end Tree

namespace FileSystem

variable {fs after : FileSystem} {limit : Nat} {place : Place} {step path : String}
  {here rest way file : List String} {entries : List (String × Tree)} {content more : Bytes}

theorem descend_concat {node : Tree} (hdir : fs.root.descend here = some (.dir entries)) :
    fs.root.descend (here ++ [step]) = some node ↔ entries.lookup step = some node := by
  rw [Tree.descend_append, hdir, Option.bind_some, Tree.descend_singleton]

/-- What is known of the names of a file to which steps lead, whether it is still to be made or
not. -/
structure Located (fs : FileSystem) (limit : Nat) (here way file : List String) : Prop where
  takes : fs.root.Takes file
  named : ∀ name ∈ file, IsNamedStep name
  no_slash : fs.root.WellFormed → (∀ step ∈ way.getLast?, '/' ∉ step.toList) →
    ∀ name ∈ file, '/' ∉ name.toList
  leads : ∀ (after : FileSystem) (content : Bytes), fs.root.Keeps after.root →
    after.root.descend file = some (.file content) →
    ∃ links ≤ limit, after.Leads here way links file

namespace Located

theorem here_file (hplace : fs.IsReal place) (hfile : fs.node place = .file content) :
    fs.Located limit (names place) [] (names place) := by
  have hdescend : fs.root.descend (names place) = some (.file content) := by
    rw [hplace.descend, hfile]
  exact ⟨Tree.takes_of_descend hdescend, hplace.isNamedStep,
    fun wf _ name hname => ((wf.descend hdescend).2 name hname).no_slash,
    fun _ _ _ _ => ⟨0, by omega, .stop⟩⟩

theorem new_file (hplace : fs.IsReal place) (hnamed : IsNamedStep step)
    (hdir : fs.node place = .dir entries) (hnew : entries.lookup step = none) :
    fs.Located limit (names place) [step] (names place ++ [step]) := by
  have hhere : fs.root.descend (names place) = some (.dir entries) := by
    rw [hplace.descend, hdir]
  refine ⟨Tree.takes_of_lookup hnew hhere, ?_, fun wf hlast => ?_,
    fun after content hkeeps hfile => ?_⟩
  · simpa [or_imp, forall_and] using ⟨hplace.isNamedStep, hnamed⟩
  · have hslash : ∀ name ∈ names place, '/' ∉ name.toList :=
      fun name hname => ((wf.descend hhere).2 name hname).no_slash
    have hstep : '/' ∉ step.toList := hlast step rfl
    simpa [or_imp, forall_and] using ⟨hslash, hstep⟩
  · obtain ⟨others, hothers⟩ := hkeeps.dir hhere
    exact ⟨0, by omega, .enter hnamed hothers ((descend_concat hothers).1 hfile) nofun .stop⟩

theorem rest_last (h : ∀ last ∈ (step :: rest).getLast?, '/' ∉ last.toList) :
    ∀ last ∈ rest.getLast?, '/' ∉ last.toList := by
  intro last hlast
  refine h last ?_
  rw [Option.mem_def] at hlast ⊢
  rw [List.getLast?_cons, hlast, Option.getD_some]

/-- What is known of the steps that a first step leaves is known of all of them. -/
theorem cons {next onward : List String} (h : fs.Located limit next onward file) (followed : Nat)
    (hlast : (∀ last ∈ (step :: rest).getLast?, '/' ∉ last.toList) →
      ∀ last ∈ onward.getLast?, '/' ∉ last.toList)
    (hleads : ∀ {after : FileSystem} {links : Nat}, fs.root.Keeps after.root →
      after.Leads next onward links file → after.Leads here (step :: rest) (links + followed) file) :
    fs.Located (limit + followed) here (step :: rest) file := by
  refine ⟨h.takes, h.named, fun wf hslash => h.no_slash wf (hlast hslash),
    fun after content hkeeps hfile => ?_⟩
  obtain ⟨links, hle, honward⟩ := h.leads after content hkeeps hfile
  exact ⟨links + followed, by omega, hleads hkeeps honward⟩

theorem stay (hstay : step = "" ∨ step = ".") (hdir : fs.root.descend here = some (.dir entries))
    (h : fs.Located limit here rest file) : fs.Located limit here (step :: rest) file := by
  refine h.cons 0 rest_last fun hkeeps honward => ?_
  obtain ⟨others, hothers⟩ := hkeeps.dir hdir
  exact .stay hstay hothers honward

theorem up (hdir : fs.root.descend here = some (.dir entries))
    (h : fs.Located limit here.dropLast rest file) : fs.Located limit here (".." :: rest) file := by
  refine h.cons 0 rest_last fun hkeeps honward => ?_
  obtain ⟨others, hothers⟩ := hkeeps.dir hdir
  exact .up hothers honward

theorem enter {node : Tree} (hnamed : IsNamedStep step)
    (hdir : fs.root.descend here = some (.dir entries)) (hlookup : entries.lookup step = some node)
    (hlink : ∀ target, node ≠ .link target) (h : fs.Located limit (here ++ [step]) rest file) :
    fs.Located limit here (step :: rest) file := by
  refine h.cons 0 rest_last fun hkeeps honward => ?_
  obtain ⟨others, hothers⟩ := hkeeps.dir hdir
  obtain ⟨other, hother, hnolink⟩ := hkeeps.not_link ((descend_concat hdir).2 hlookup) hlink
  exact .enter hnamed hothers ((descend_concat hothers).1 hother) hnolink honward

theorem follow {target : String} (hnamed : IsNamedStep step)
    (hdir : fs.root.descend here = some (.dir entries))
    (hlookup : entries.lookup step = some (.link target))
    (h : fs.Located limit (if isAbsolute target then [] else here) (steps target ++ rest) file) :
    fs.Located (limit + 1) here (step :: rest) file := by
  refine h.cons 1 (fun hlast last hmem => ?_) fun hkeeps honward => ?_
  · rw [Option.mem_def, List.getLast?_append, Option.or_eq_some_iff] at hmem
    rcases hmem with hrest | ⟨-, htarget⟩
    · exact rest_last hlast last hrest
    · exact no_slash_of_mem_steps (List.mem_of_getLast? htarget)
  · obtain ⟨others, hothers⟩ := hkeeps.dir hdir
    have htarget := hkeeps.link ((descend_concat hdir).2 hlookup)
    exact .follow hnamed hothers ((descend_concat hothers).1 htarget) honward

end Located

section Locate

/-- All that a first step can do when a file is found. -/
theorem locateWith_cons_cases {follow : Place → List String → Except PathFault (List String)}
    (h : fs.locateWith follow place (step :: rest) = .ok file) :
    ∃ entries, fs.node place = .dir entries ∧
      ((step = "" ∨ step = ".") ∧ fs.locateWith follow place rest = .ok file
      ∨ step = ".." ∧ fs.locateWith follow (place.drop 1) rest = .ok file
      ∨ IsNamedStep step ∧
        (entries.lookup step = none ∧ rest = [] ∧ file = names place ++ [step]
        ∨ (∃ node, entries.lookup step = some node ∧ (∀ target, node ≠ .link target)
          ∧ fs.locateWith follow ((step, node) :: place) rest = .ok file)
        ∨ ∃ target, entries.lookup step = some (.link target)
          ∧ follow (if isAbsolute target then [] else place) (steps target ++ rest) =
            .ok file)) := by
  rw [locateWith] at h
  split at h
  · rename_i entries hdir
    refine ⟨entries, hdir, ?_⟩
    by_cases hstay : step = "" ∨ step = "."
    · rw [if_pos hstay] at h
      exact .inl ⟨hstay, h⟩
    by_cases hup : step = ".."
    · rw [if_neg hstay, if_pos hup] at h
      exact .inr (.inl ⟨hup, h⟩)
    by_cases hlong : nameLimit < byteLength step
    · rw [if_neg hstay, if_neg hup, if_pos hlong] at h
      cases h
    rw [if_neg hstay, if_neg hup, if_neg hlong] at h
    have hnamed : IsNamedStep step :=
      ⟨fun e => hstay (.inl e), fun e => hstay (.inr e), hup, by omega⟩
    refine .inr (.inr ⟨hnamed, ?_⟩)
    split at h
    · rename_i hlookup
      split_ifs at h with hrest
      exact .inl ⟨hlookup, List.isEmpty_iff.1 hrest, (Except.ok.inj h).symm⟩
    · rename_i target hlookup
      exact .inr (.inr ⟨target, hlookup, h⟩)
    · rename_i node hlink hlookup
      exact .inr (.inl ⟨node, hlookup, fun target e => hlink target e, h⟩)
  · simp at h

/-- What holds of the files that `follow` finds holds, with one link more, of all that are found. -/
theorem located_of_locateWith {follow : Place → List String → Except PathFault (List String)}
    (hfollow : ∀ {place way file}, fs.IsReal place → follow place way = .ok file →
      ∃ n, limit = n + 1 ∧ fs.Located n (names place) way file) :
    ∀ (way : List String) {place : Place}, fs.IsReal place →
      fs.locateWith follow place way = .ok file → fs.Located limit (names place) way file
  | [], place, hplace, h => by
    rw [locateWith] at h
    split at h
    · rename_i content hfile
      cases h
      exact .here_file hplace hfile
    · cases h
  | step :: rest, place, hplace, h => by
    obtain ⟨entries, hdir, hstep⟩ := locateWith_cons_cases h
    have hhere : fs.root.descend (names place) = some (.dir entries) := by
      rw [hplace.descend, hdir]
    rcases hstep with ⟨hstay, hrest⟩ | ⟨rfl, hrest⟩ |
      ⟨hnamed, ⟨hnew, rfl, rfl⟩ | ⟨node, hlookup, hlink, hrest⟩ | ⟨target, hlookup, hrest⟩⟩
    · exact (located_of_locateWith hfollow rest hplace hrest).stay hstay hhere
    · have hup := located_of_locateWith hfollow rest hplace.drop_one hrest
      rw [names_drop_one] at hup
      exact hup.up hhere
    · exact .new_file hplace hnamed hdir hnew
    · have hentry : fs.IsReal ((step, node) :: place) := .entry hplace hnamed hdir hlookup hlink
      have henter := located_of_locateWith hfollow rest hentry hrest
      rw [names_cons] at henter
      exact henter.enter hnamed hhere hlookup hlink
    · have hfrom : fs.IsReal (if isAbsolute target then [] else place) := by
        split
        · exact .root
        · exact hplace
      obtain ⟨n, rfl, htarget⟩ := hfollow hfrom hrest
      rw [apply_ite names, names_nil] at htarget
      exact htarget.follow hnamed hhere hlookup

theorem located_of_locate : ∀ (limit : Nat) {way file : List String} {place : Place},
    fs.IsReal place → fs.locate limit place way = .ok file →
    fs.Located limit (names place) way file
  | 0, way, _, _, hplace, h => located_of_locateWith (fun _ h => by cases h) way hplace h
  | limit + 1, way, _, _, hplace, h =>
    located_of_locateWith (fun hplace h => ⟨limit, rfl, located_of_locate limit hplace h⟩) way
      hplace h

/-- A file that a path leads to is the one that is found. -/
theorem locateWith_of_walkWith {follow : Place → List String → Except PathFault Place}
    {find : Place → List String → Except PathFault (List String)}
    (hfollow : ∀ {place way p}, follow place way = .ok p → fs.node p = .file content →
      find place way = .ok (names p)) :
    ∀ (way : List String) {place p : Place}, fs.walkWith follow place way = .ok p →
      fs.node p = .file content → fs.locateWith find place way = .ok (names p)
  | [], place, p, h, hfile => by
    cases h
    rw [locateWith, hfile]
  | step :: rest, place, p, h, hfile => by
    obtain ⟨entries, hdir, hstep⟩ := walkWith_cons_cases h
    rw [locateWith, hdir]
    rcases hstep with ⟨hstay, hrest⟩ | ⟨rfl, hrest⟩ |
      ⟨hnamed, ⟨node, hlookup, hlink, hrest⟩ | ⟨target, hlookup, hrest⟩⟩
    · simpa only [if_pos hstay] using locateWith_of_walkWith hfollow rest hrest hfile
    · simpa using locateWith_of_walkWith hfollow rest hrest hfile
    · have hshort : ¬ nameLimit < byteLength step := Nat.not_lt.2 hnamed.short
      have hentry := locateWith_of_walkWith hfollow rest hrest hfile
      cases node with
      | link target => exact absurd rfl (hlink target)
      | file => simpa [hnamed.ne_empty, hnamed.ne_dot, hnamed.ne_dots, hshort, hlookup] using hentry
      | dir => simpa [hnamed.ne_empty, hnamed.ne_dot, hnamed.ne_dots, hshort, hlookup] using hentry
    · have hshort : ¬ nameLimit < byteLength step := Nat.not_lt.2 hnamed.short
      have htarget := hfollow hrest hfile
      simpa [hnamed.ne_empty, hnamed.ne_dot, hnamed.ne_dots, hshort, hlookup] using htarget

theorem locate_of_walk : ∀ (limit : Nat) {way : List String} {place p : Place},
    fs.walk limit place way = .ok p → fs.node p = .file content →
    fs.locate limit place way = .ok (names p)
  | 0, way, _, _, h, hfile => locateWith_of_walkWith (fun h => by cases h) way h hfile
  | limit + 1, way, _, _, h, hfile =>
    locateWith_of_walkWith (fun h hfile => locate_of_walk limit h hfile) way h hfile

end Locate

/-- What the file at a path holds; nothing where there is none. -/
def contentAt (fs : FileSystem) (path : String) : Bytes := (fs.read path).toOption.getD []

section Read

theorem read_of_resolve (h : fs.resolve path = .ok place) (hfile : fs.node place = .file content) :
    fs.read path = .ok content := by
  rw [read, h, ok_bind, hfile]
  rfl

theorem node_of_read (h : fs.read path = .ok content) :
    ∃ place, fs.resolve path = .ok place ∧ fs.node place = .file content := by
  obtain ⟨place, hplace, h⟩ := bind_eq_ok.1 h
  refine ⟨place, hplace, ?_⟩
  split at h
  · rename_i hfile
    cases h
    exact hfile
  · cases h

/-- Proper names that descend to a file are a path of the file. -/
theorem read_absolute (hfile : fs.root.descend file = some (.file content))
    (hnamed : ∀ name ∈ file, IsNamedStep name) (hproper : ∀ name ∈ file, IsEntryName name)
    (hroot : fs.root = .dir entries) : fs.read (absolute file) = .ok content := by
  have hleads := @leads_of_descend fs (.file content) nofun file [] hfile hnamed
  obtain ⟨place, hplace, hnames⟩ := @walk_of_leads fs [] file _ 0 hleads linkLimit [] (by decide)
    .root rfl
  have hresolve : fs.resolve (absolute file) = .ok place := by
    rw [resolve_absolute hroot fun name hname => (hproper name hname).no_slash,
      no_zero_absolute fun name hname => (hproper name hname).no_zero]
    exact hplace
  refine read_of_resolve hresolve ((isReal_of_resolve hresolve).node_eq ?_)
  rw [hnames]
  exact hfile

end Read

/-- The file of the names holds this, and all that a path can lead to is as it was. -/
structure Grown (fs after : FileSystem) (file : List String) (content : Bytes) : Prop where
  keeps : fs.root.Keeps after.root
  workingDir : after.workingDir = fs.workingDir
  content : after.root.descend file = some (.file content)

/-- What a file system has to offer for appending to the file of the names. -/
structure Appends (fs : FileSystem) (path : String) (file : List String) : Prop where
  located : fs.Located linkLimit [] (fs.rooted path) file
  no_zero : '\x00' ∉ path.toList
  ne_empty : path ≠ ""
  proper : ∀ name ∈ file, IsEntryName name
  root : ∃ entries, fs.root = .dir entries

section Append

theorem Grown.root (h : fs.Grown after file content) (hroot : fs.root = .dir entries) :
    ∃ others, after.root = .dir others := by
  have hnil : fs.root.descend [] = some (.dir entries) := by rw [Tree.descend_nil, hroot]
  obtain ⟨others, hothers⟩ := h.keeps.dir hnil
  exact ⟨others, Option.some.inj hothers⟩

theorem Grown.append (h : fs.Grown after file content) (happends : fs.Appends path file)
    (more : Bytes) : fs.Grown (after.append file more) file (content ++ more) := by
  obtain ⟨entries, hroot⟩ := happends.root
  obtain ⟨others, hothers⟩ := h.root hroot
  have hread := read_absolute h.content happends.located.named happends.proper hothers
  have happend : after.append file more = after.insert file (.file (content ++ more)) := by
    rw [FileSystem.append, hread]
  rw [happend]
  exact ⟨h.keeps.trans ((Tree.takes_of_descend h.content).keeps_insert _), h.workingDir,
    Tree.descend_insert _ _ _⟩

/-- The path leads to the file whatever was appended to it. -/
theorem Grown.read (h : fs.Grown after file content) (happends : fs.Appends path file) :
    after.read path = .ok content := by
  obtain ⟨links, hle, hleads⟩ := happends.located.leads after content h.keeps h.content
  obtain ⟨place, hplace, hnames⟩ := walk_of_leads hleads hle .root rfl
  have hresolve : after.resolve path = .ok place := by
    have hrooted : after.rooted path = fs.rooted path := by rw [rooted, rooted, h.workingDir]
    have hempty : path.isEmpty = false := by simpa using happends.ne_empty
    have hzero : path.toList.contains '\x00' = false := by simpa using happends.no_zero
    rw [resolve, hzero, hempty, hrooted]
    exact hplace
  refine read_of_resolve hresolve ((isReal_of_resolve hresolve).node_eq ?_)
  rw [hnames]
  exact h.content

/-- No path of the names leads to a file that is not there yet. -/
theorem walk_of_takes {t : Tree} (h : Tree.Takes file t) : ∀ {place : Place}, fs.node place = t →
    (∀ name ∈ file, IsNamedStep name) → t.descend file = none →
    fs.walk limit place file = .error .notFound := by
  induction h with
  | file content =>
    intro _ _ _ habsent
    cases habsent
  | new hnew =>
    intro _ hdir hnamed _
    exact walk_missing hdir (hnamed _ List.mem_cons_self) hnew
  | @into name file entries node hlookup htakes ih =>
    intro place hdir hnamed habsent
    obtain ⟨hname, hnames⟩ := List.forall_mem_cons.1 hnamed
    have hlink : ∀ target, node ≠ .link target := by
      rintro target rfl
      cases htakes
    have hbelow : node.descend file = none := by simpa [Tree.descend, hlookup] using habsent
    rw [walk_enter hdir hname hlookup hlink]
    exact ih rfl hnames hbelow

end Append

section Open

theorem root_of_locate (hway : way ≠ []) (h : fs.locate (limit + 1) [] way = .ok file) :
    ∃ entries, fs.root = .dir entries := by
  obtain ⟨step, rest, rfl⟩ := List.exists_cons_of_ne_nil hway
  obtain ⟨entries, hdir, -⟩ := locateWith_cons_cases h
  exact ⟨entries, hdir⟩

theorem rooted_ne_nil (fs : FileSystem) (path : String) : fs.rooted path ≠ [] := by
  rw [rooted]
  split
  · exact steps_ne_nil path
  · simp [steps_ne_nil]

theorem getLast?_rooted (fs : FileSystem) (path : String) :
    ∀ step ∈ (fs.rooted path).getLast?, '/' ∉ step.toList := by
  intro step hstep
  have hlast : (fs.rooted path).getLast? = (steps path).getLast? := by
    rw [rooted]
    split
    · rfl
    · rw [List.getLast?_append, List.getLast?_eq_getLast_of_ne_nil (steps_ne_nil path)]
      rfl
  rw [hlast] at hstep
  exact no_slash_of_mem_steps (List.mem_of_getLast? hstep)

theorem walk_of_resolve (h : fs.resolve path = .ok place) :
    fs.walk linkLimit [] (fs.rooted path) = .ok place := by
  rw [resolve] at h
  split_ifs at h
  exact h

/-- Only a file that is not there is made. -/
theorem openForAppend_eq_ok {opened : FileSystem} :
    fs.openForAppend path = .ok (file, opened) ↔
      '\x00' ∉ path.toList ∧ path ≠ "" ∧ fs.locate linkLimit [] (fs.rooted path) = .ok file
      ∧ opened = if (fs.resolve (absolute file)).isOk then fs else fs.insert file (.file []) := by
  rw [openForAppend, check_eq_ok, check_eq_ok, bind_eq_ok, List.contains_iff_mem,
    String.isEmpty_iff]
  constructor
  · rintro ⟨hzero, hne, names, hlocate, h⟩
    split at h
    all_goals
      rename_i hresolve
      cases h
      exact ⟨hzero, hne, hlocate, by rw [hresolve]; rfl⟩
  · rintro ⟨hzero, hne, hlocate, rfl⟩
    refine ⟨hzero, hne, file, hlocate, ?_⟩
    split
    all_goals
      rename_i hresolve
      rw [hresolve]
      rfl

/-- A path that does not lead to the file that opening finds leads to no file. -/
theorem contentAt_of_absent (hlocate : fs.locate linkLimit [] (fs.rooted path) = .ok file)
    (habsent : fs.root.descend file = none) : fs.contentAt path = [] := by
  cases hread : fs.read path with
  | error fault => rw [contentAt, hread]; rfl
  | ok content =>
    obtain ⟨place, hplace, hfile⟩ := node_of_read hread
    have hfound := locate_of_walk linkLimit (walk_of_resolve hplace) hfile
    rw [hlocate] at hfound
    cases hfound
    rw [(isReal_of_resolve hplace).descend] at habsent
    cases habsent

/-- A file that is opened can be appended to, and holds what it held before. -/
theorem grown_of_openForAppend {opened : FileSystem}
    (hopen : fs.openForAppend path = .ok (file, opened)) (wf : opened.root.WellFormed) :
    fs.Appends path file ∧ fs.Grown opened file (fs.contentAt path) := by
  obtain ⟨hzero, hne, hlocate, hopened⟩ := openForAppend_eq_ok.1 hopen
  have hlocated := located_of_locate linkLimit .root hlocate
  obtain ⟨entries, hroot⟩ := root_of_locate (fs.rooted_ne_nil path) hlocate
  have happends (hproper : ∀ name ∈ file, IsEntryName name) : fs.Appends path file :=
    ⟨hlocated, hzero, hne, hproper, entries, hroot⟩
  have hmade : (fs.insert file (.file [])).root.descend file = some (.file []) :=
    Tree.descend_insert _ _ _
  rcases hlocated.takes.descend with habsent | ⟨content, hcontent⟩
  · have hinsert : opened = fs.insert file (.file []) := by
      split_ifs at hopened with hok
      · subst hopened
        have hslash := hlocated.no_slash wf (opened.getLast?_rooted path)
        rw [resolve_absolute hroot hslash, walk_of_takes hlocated.takes rfl hlocated.named habsent]
          at hok
        split_ifs at hok
        all_goals cases hok
      · exact hopened
    subst hinsert
    rw [contentAt_of_absent hlocate habsent]
    exact ⟨happends (wf.descend hmade).2, hlocated.takes.keeps_insert [], rfl, hmade⟩
  · have hsame : opened = fs := by
      split_ifs at hopened with hok
      · exact hopened
      · subst hopened
        have hread := read_absolute hcontent hlocated.named (wf.descend hmade).2 hroot
        obtain ⟨place, hplace, -⟩ := node_of_read hread
        rw [hplace] at hok
        exact absurd rfl hok
    subst hsame
    have hgrown : opened.Grown opened file content := ⟨.refl _, rfl, hcontent⟩
    have hproper := (wf.descend hcontent).2
    rw [contentAt, hgrown.read (happends hproper)]
    exact ⟨happends hproper, hgrown⟩

end Open

end FileSystem

end Triage
