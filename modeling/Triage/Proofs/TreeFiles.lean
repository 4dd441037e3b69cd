import Triage.Proofs.FoundFiles
import Triage.Proofs.Places

/-!
# The files of a tree

A tree without links is the list of its files, each with the names that lead to it (`mem_files_iff`),
and the order in which directories give their entries does not change which files these are
(`Reordered.descend_file_iff`).
-/

namespace Triage

namespace Tree

mutual

/-- The files of a tree, each with the names that lead to it. -/
def files : Tree → List (List String × Bytes)
  | file content => [([], content)]
  | dir entries => entryFiles entries
  | link _ => []

def entryFiles : List (String × Tree) → List (List String × Bytes)
  | [] => []
  | (name, node) :: entries =>
    (files node).map (fun (names, content) => (name :: names, content)) ++ entryFiles entries

end

mutual

theorem mem_files_iff {names : List String} {content : Bytes} : ∀ {t : Tree}, t.WellFormed →
    ((names, content) ∈ t.files ↔ t.descend names = some (file content))
  | file stored, _ => by
    cases names with
    | nil => simp [files, eq_comm]
    | cons name names => simp [files, descend]
  | link target, _ => by cases names <;> simp [files, descend]
  | dir entries, wf => by
    obtain ⟨-, hnodup, hnodes⟩ := wellFormed_dir_iff.1 wf
    rw [files, mem_entryFiles_iff hnodup hnodes]
    cases names with
    | nil => simp
    | cons name names => simp [descend, Option.bind_eq_some_iff]

theorem mem_entryFiles_iff {names : List String} {content : Bytes} :
    ∀ {entries : List (String × Tree)}, (entries.map (·.1)).Nodup →
      (∀ entry ∈ entries, entry.2.WellFormed) →
      ((names, content) ∈ entryFiles entries ↔ ∃ name rest node, names = name :: rest
        ∧ entries.lookup name = some node ∧ node.descend rest = some (file content))
  | [], _, _ => by simp [entryFiles]
  | (first, top) :: entries, hnodup, hnodes => by
    obtain ⟨htop, hnodes⟩ := List.forall_mem_cons.1 hnodes
    obtain ⟨hfirst, hnodup⟩ := List.nodup_cons.1 hnodup
    have hfiles : (names, content) ∈ (files top).map (fun (names, content) =>
        (first :: names, content)) ↔
          ∃ rest, names = first :: rest ∧ top.descend rest = some (file content) := by
      simp only [List.mem_map, Prod.exists, Prod.mk.injEq]
      constructor
      · rintro ⟨rest, stored, hmem, rfl, rfl⟩
        exact ⟨rest, rfl, (mem_files_iff htop).1 hmem⟩
      · rintro ⟨rest, rfl, hrest⟩
        exact ⟨rest, content, (mem_files_iff htop).2 hrest, rfl, rfl⟩
    rw [entryFiles, List.mem_append, hfiles, mem_entryFiles_iff hnodup hnodes]
    constructor
    · rintro (⟨rest, rfl, hrest⟩ | ⟨name, rest, node, rfl, hlookup, hrest⟩)
      · exact ⟨first, rest, top, rfl, by simp, hrest⟩
      · have hne : name ≠ first := by
          rintro rfl
          exact hfirst (List.mem_map.2 ⟨_, mem_of_lookup hlookup, rfl⟩)
        refine ⟨name, rest, node, rfl, ?_, hrest⟩
        rw [List.lookup_cons, beq_eq_false_iff_ne.2 hne]
        exact hlookup
    · rintro ⟨name, rest, node, rfl, hlookup, hrest⟩
      rw [List.lookup_cons] at hlookup
      split at hlookup
      · rename_i hname
        rw [Option.some.injEq] at hlookup
        exact .inl ⟨rest, by rw [eq_of_beq hname], hlookup ▸ hrest⟩
      · exact .inr ⟨name, rest, node, rfl, hlookup, hrest⟩

end

/-- There is no link in the tree. -/
inductive LinkFree : Tree → Prop
  | file (content : Bytes) : LinkFree (file content)
  | dir {entries : List (String × Tree)} (nodes : ∀ entry ∈ entries, LinkFree entry.2) :
    LinkFree (dir entries)

/-- The same tree, but its directories give their entries in another order. -/
inductive Reordered : Tree → Tree → Prop
  | file (content : Bytes) : Reordered (file content) (file content)
  | link (target : String) : Reordered (link target) (link target)
  | dir {entries others : List (String × Tree)}
    (names : (entries.map (·.1)).Perm (others.map (·.1)))
    (nodes : ∀ name node other, (name, node) ∈ entries → (name, other) ∈ others →
      Reordered node other) :
    Reordered (dir entries) (dir others)

namespace Reordered

theorem exists_mem {entries others : List (String × Tree)}
    (h : (entries.map (·.1)).Perm (others.map (·.1))) {entry : String × Tree}
    (hentry : entry ∈ entries) : ∃ other, (entry.1, other) ∈ others := by
  obtain ⟨⟨name, other⟩, hother, hname⟩ := List.mem_map.1 (h.subset (List.mem_map_of_mem hentry))
  exact ⟨other, by rwa [← hname]⟩

theorem wellFormed {t u : Tree} (h : t.Reordered u) (wf : u.WellFormed) : t.WellFormed := by
  induction h with
  | file content => exact .file content
  | link target => exact .link target
  | dir hperm hnodes ih =>
    obtain ⟨hnames, hnodup, hwf⟩ := wellFormed_dir_iff.1 wf
    refine .dir (fun entry hentry => ?_) (hperm.nodup_iff.2 hnodup) fun entry hentry => ?_
    · obtain ⟨other, hother⟩ := exists_mem hperm hentry
      have hname := hnames _ hother
      exact hname
    · obtain ⟨other, hother⟩ := exists_mem hperm hentry
      exact ih entry.1 entry.2 other hentry hother (hwf _ hother)

theorem refl {t : Tree} (wf : t.WellFormed) : t.Reordered t := by
  induction wf with
  | file content => exact .file content
  | link target => exact .link target
  | dir _ hnodup _ ih =>
    refine .dir (.refl _) fun name node other hnode hother => ?_
    have hlookup := lookup_of_mem hnodup hnode
    rw [lookup_of_mem hnodup hother, Option.some.injEq] at hlookup
    exact hlookup ▸ ih _ hother

/-- The entries of one directory may come in any order. -/
theorem of_perm {entries others : List (String × Tree)} (wf : (Tree.dir others).WellFormed)
    (h : entries.Perm others) : (Tree.dir entries).Reordered (Tree.dir others) := by
  obtain ⟨-, hnodup, hnodes⟩ := wellFormed_dir_iff.1 wf
  refine .dir (h.map _) fun name node other hnode hother => ?_
  have hlookup := lookup_of_mem hnodup (h.subset hnode)
  rw [lookup_of_mem hnodup hother, Option.some.injEq] at hlookup
  exact hlookup ▸ refl (hnodes _ hother)

/-- The names of a file lead to it in whatever order the directories give their entries. -/
theorem descend_file_iff {t u : Tree} (h : t.Reordered u) (wf : u.WellFormed) {content : Bytes} :
    ∀ names, t.descend names = some (.file content) ↔ u.descend names = some (.file content) := by
  induction h with
  | file stored => simp
  | link target => simp
  | @dir entries others hperm hnodes ih =>
    rintro (_ | ⟨name, names⟩)
    · simp
    obtain ⟨-, hnodup, hwf⟩ := wellFormed_dir_iff.1 wf
    have hnodup' := hperm.nodup_iff.2 hnodup
    rw [descend_cons_eq_some, descend_cons_eq_some]
    constructor
    · rintro ⟨_, node, ⟨rfl⟩, hlookup, hnode⟩
      have hmem := mem_of_lookup hlookup
      obtain ⟨other, hother⟩ := exists_mem hperm hmem
      exact ⟨others, other, rfl, lookup_of_mem hnodup hother,
        (ih name node other hmem hother (hwf _ hother) names).1 hnode⟩
    · rintro ⟨_, other, ⟨rfl⟩, hlookup, hnode⟩
      have hother := mem_of_lookup hlookup
      obtain ⟨node, hmem⟩ := exists_mem hperm.symm hother
      exact ⟨entries, node, rfl, lookup_of_mem hnodup' hmem,
        (ih name node other hmem hother (hwf _ hother) names).2 hnode⟩

end Reordered

end Tree

namespace FileSystem

variable {fs : FileSystem}

/-- Steps to entries go from names that lead to a directory just where the names go. -/
theorem Leads.of_descend_append {t : Tree} (hlink : ∀ target, t ≠ .link target)
    {rest dest : List String} {links : Nat} : ∀ {names here : List String},
      fs.root.descend (here ++ names) = some t → (∀ name ∈ names, IsNamedStep name) →
      fs.Leads here (names ++ rest) links dest → fs.Leads (here ++ names) rest links dest
  | [], here, _, _, h => by rwa [List.append_nil]
  | name :: names, here, hdescend, hnamed, h => by
    obtain ⟨hname, hnamed⟩ := List.forall_mem_cons.1 hnamed
    obtain ⟨mid, hhere, hmid⟩ := Tree.descend_append_eq_some.1 hdescend
    obtain ⟨entries, node, rfl, hlookup, hnode⟩ := Tree.descend_cons_eq_some.1 hmid
    rw [List.append_cons] at hdescend ⊢
    cases h with
    | stay hstep => exact absurd hstep (not_or.2 ⟨hname.ne_empty, hname.ne_dot⟩)
    | up => exact absurd rfl hname.ne_dots
    | enter _ _ _ _ hrest => exact of_descend_append hlink hdescend hnamed hrest
    | @follow _ _ _ _ target _ _ _ hdir hlookup' =>
      rw [hhere, Option.some.injEq, Tree.dir.injEq] at hdir
      rw [← hdir, hlookup, Option.some.injEq] at hlookup'
      subst hlookup'
      cases names with
      | nil => exact absurd (by simpa using hnode.symm) (hlink target)
      | cons n ns => simp [Tree.descend] at hnode

/-- Where there are no links, steps to entries lead just where the names say. -/
theorem Leads.eq_append_of_linkFree {here steps dest : List String} {links : Nat}
    (h : fs.Leads here steps links dest) : ∀ {t : Tree}, fs.root.descend here = some t →
      t.LinkFree → (∀ step ∈ steps, IsNamedStep step) → dest = here ++ steps := by
  induction h with
  | stop => simp
  | stay hstep =>
    intro t _ _ hnamed
    have := hnamed _ List.mem_cons_self
    exact absurd hstep (not_or.2 ⟨this.ne_empty, this.ne_dot⟩)
  | up =>
    intro t _ _ hnamed
    exact absurd rfl (hnamed _ List.mem_cons_self).ne_dots
  | @enter here rest dest step entries node links _ hdir hlookup _ _ ih =>
    intro t ht hfree hnamed
    rw [hdir, Option.some.injEq] at ht
    subst ht
    cases hfree with
    | dir hnodes =>
      have hnode : fs.root.descend (here ++ [step]) = some node := by
        rw [Tree.descend_append_eq_some]
        exact ⟨_, hdir, by rw [Tree.descend_singleton, hlookup]⟩
      rw [ih hnode (hnodes _ (mem_of_lookup hlookup)) (List.forall_mem_cons.1 hnamed).2]
      simp
  | follow _ hdir hlookup =>
    intro t ht hfree _
    rw [hdir, Option.some.injEq] at ht
    subst ht
    cases hfree with
    | dir hnodes => cases hnodes _ (mem_of_lookup hlookup)

end FileSystem

end Triage
