import Mathlib.Data.List.Nodup
import Triage.Proofs.PathNames

/-!
# Where names and paths lead

`Tree.descend` goes from directory to entry and follows no link. `FileSystem.Leads` says where the
steps of a path lead when all links are followed, and through how many; taking the steps one by one
finds exactly that (`exists_walk_iff`), and it ends at a real place, one that the names on the way
descend to (`IsReal.descend`).
-/

namespace Triage

section Entries

variable {α : Type*} {name : String} {node : α}

theorem mem_of_lookup : ∀ {entries : List (String × α)},
    entries.lookup name = some node → (name, node) ∈ entries
  | (n, x) :: entries, h => by
    rw [List.lookup_cons] at h
    split at h
    · rename_i hn
      simp_all
    · exact List.mem_cons_of_mem _ (mem_of_lookup h)

theorem lookup_of_mem : ∀ {entries : List (String × α)}, (entries.map (·.1)).Nodup →
    (name, node) ∈ entries → entries.lookup name = some node
  | (n, x) :: entries, hd, h => by
    rw [List.map_cons, List.nodup_cons] at hd
    rw [List.lookup_cons]
    rcases List.mem_cons.1 h with hfirst | hrest
    · simp_all
    · have hne : name ≠ n := by
        rintro rfl
        exact hd.1 (List.mem_map.2 ⟨_, hrest, rfl⟩)
      rw [beq_eq_false_iff_ne.2 hne]
      exact lookup_of_mem hd.2 hrest

end Entries

namespace Tree

/-- Where names lead when each goes from a directory to one of its entries; no link is followed. -/
def descend : List String → Tree → Option Tree
  | [], node => some node
  | name :: names, dir entries => (entries.lookup name).bind (descend names)
  | _ :: _, _ => none

/-- Every directory has proper names on its entries, and each of them once. -/
inductive WellFormed : Tree → Prop
  | file (content : Bytes) : WellFormed (file content)
  | link (target : String) : WellFormed (link target)
  | dir {entries : List (String × Tree)} (names : ∀ entry ∈ entries, IsEntryName entry.1)
    (nodup : (entries.map (·.1)).Nodup) (nodes : ∀ entry ∈ entries, WellFormed entry.2) :
    WellFormed (dir entries)

theorem wellFormed_dir_iff {entries : List (String × Tree)} : (dir entries).WellFormed ↔
    (∀ entry ∈ entries, IsEntryName entry.1) ∧ (entries.map (·.1)).Nodup
      ∧ ∀ entry ∈ entries, entry.2.WellFormed := by
  constructor
  · rintro ⟨⟩
    exact ⟨‹_›, ‹_›, ‹_›⟩
  · rintro ⟨hnames, hnodup, hnodes⟩
    exact .dir hnames hnodup hnodes

mutual

instance decidableWellFormed : (t : Tree) → Decidable t.WellFormed
  | file content => .isTrue (.file content)
  | link target => .isTrue (.link target)
  | dir entries =>
    have := decidableWellFormedNodes entries
    decidable_of_iff' _ wellFormed_dir_iff

instance decidableWellFormedNodes :
    (entries : List (String × Tree)) → Decidable (∀ entry ∈ entries, entry.2.WellFormed)
  | [] => .isTrue (by simp)
  | (_, node) :: entries =>
    have := decidableWellFormed node
    have := decidableWellFormedNodes entries
    decidable_of_iff' _ List.forall_mem_cons

end

theorem descend_cons_eq_some {name : String} {names : List String} {t u : Tree} :
    t.descend (name :: names) = some u ↔ ∃ entries node,
      t = dir entries ∧ entries.lookup name = some node ∧ node.descend names = some u := by
  cases t with
  | dir entries => simp [descend, Option.bind_eq_some_iff]
  | _ => simp [descend]

theorem descend_append (more : List String) : ∀ (names : List String) (t : Tree),
    t.descend (names ++ more) = (t.descend names).bind (descend more)
  | [], t => rfl
  | name :: names, dir entries => by
    cases h : entries.lookup name with
    | none => simp [descend, h]
    | some node => simp [descend, h, descend_append more names node]
  | _ :: _, file _ => rfl
  | _ :: _, link _ => rfl

theorem descend_append_eq_some {names more : List String} {t u : Tree} :
    t.descend (names ++ more) = some u ↔
      ∃ mid, t.descend names = some mid ∧ mid.descend more = some u := by
  rw [descend_append, Option.bind_eq_some_iff]

@[simp]
theorem descend_nil (t : Tree) : t.descend [] = some t := rfl

theorem descend_singleton (name : String) (entries : List (String × Tree)) :
    (dir entries).descend [name] = entries.lookup name := by
  cases h : entries.lookup name <;> simp [descend, h]

/-- A file below a directory is below its first entry or below the others. -/
theorem descend_file_cons {name : String} {node : Tree} {entries : List (String × Tree)}
    {names : List String} {content : Bytes}
    (h : (dir ((name, node) :: entries)).descend names = some (file content)) :
    (∃ rest, names = name :: rest ∧ node.descend rest = some (file content))
    ∨ (dir entries).descend names = some (file content) := by
  cases names with
  | nil => simp at h
  | cons n rest =>
    rw [descend, List.lookup_cons] at h
    split at h
    · rename_i hn
      exact .inl ⟨rest, by rw [eq_of_beq hn], h⟩
    · exact .inr h

theorem dir_of_descend_dir {names : List String} {t : Tree} {entries : List (String × Tree)}
    (h : t.descend names = some (dir entries)) : ∃ es, t = dir es := by
  cases names with
  | nil => exact ⟨entries, by simpa [descend] using h⟩
  | cons name names =>
    obtain ⟨es, _, rfl, _⟩ := descend_cons_eq_some.1 h
    exact ⟨es, rfl⟩

theorem WellFormed.descend : ∀ {names : List String} {t u : Tree}, t.WellFormed →
    t.descend names = some u → u.WellFormed ∧ ∀ name ∈ names, IsEntryName name
  | [], t, u, wf, h => by
    simp only [Tree.descend, Option.some.injEq] at h
    exact ⟨h ▸ wf, by simp⟩
  | name :: names, t, u, wf, h => by
    obtain ⟨entries, node, rfl, hlookup, hnode⟩ := descend_cons_eq_some.1 h
    cases wf with
    | dir hnames hnodup hnodes =>
      have hmem := mem_of_lookup hlookup
      obtain ⟨hu, hrest⟩ := WellFormed.descend (hnodes _ hmem) hnode
      exact ⟨hu, List.forall_mem_cons.2 ⟨hnames _ hmem, hrest⟩⟩

end Tree

namespace FileSystem

/-- A step that goes to an entry of the directory it is taken in. -/
structure IsNamedStep (step : String) : Prop where
  ne_empty : step ≠ ""
  ne_dot : step ≠ "."
  ne_dots : step ≠ ".."
  short : byteLength step ≤ nameLimit

/-- Every node of the place is an entry of the directory before it, and none is a link. -/
inductive IsReal (fs : FileSystem) : Place → Prop
  | root : fs.IsReal []
  | entry {place : Place} {name : String} {node : Tree} {entries : List (String × Tree)} :
    fs.IsReal place → IsNamedStep name → fs.node place = .dir entries →
    entries.lookup name = some node → (∀ target, node ≠ .link target) →
    fs.IsReal ((name, node) :: place)

/-- Where steps lead from a directory, and through how many links. -/
inductive Leads (fs : FileSystem) : List String → List String → Nat → List String → Prop
  | stop {here : List String} : fs.Leads here [] 0 here
  | stay {here rest dest : List String} {step : String} {entries : List (String × Tree)}
    {links : Nat} : step = "" ∨ step = "." → fs.root.descend here = some (.dir entries) →
    fs.Leads here rest links dest → fs.Leads here (step :: rest) links dest
  | up {here rest dest : List String} {entries : List (String × Tree)} {links : Nat} :
    fs.root.descend here = some (.dir entries) →
    fs.Leads here.dropLast rest links dest → fs.Leads here (".." :: rest) links dest
  | enter {here rest dest : List String} {step : String} {entries : List (String × Tree)}
    {node : Tree} {links : Nat} : IsNamedStep step →
    fs.root.descend here = some (.dir entries) → entries.lookup step = some node →
    (∀ target, node ≠ .link target) →
    fs.Leads (here ++ [step]) rest links dest → fs.Leads here (step :: rest) links dest
  | follow {here rest dest : List String} {step target : String} {entries : List (String × Tree)}
    {links : Nat} : IsNamedStep step →
    fs.root.descend here = some (.dir entries) → entries.lookup step = some (.link target) →
    fs.Leads (if isAbsolute target then [] else here) (steps target ++ rest) links dest →
    fs.Leads here (step :: rest) (links + 1) dest

variable {fs : FileSystem}

@[simp]
theorem names_nil : names [] = [] := rfl

@[simp]
theorem names_cons (name : String) (node : Tree) (place : Place) :
    names ((name, node) :: place) = names place ++ [name] := by
  simp [names]

@[simp]
theorem node_cons (fs : FileSystem) (name : String) (node : Tree) (place : Place) :
    fs.node ((name, node) :: place) = node := rfl

theorem names_drop_one (place : Place) : names (place.drop 1) = (names place).dropLast := by
  cases place with
  | nil => rfl
  | cons entry place => simp [names]

namespace IsReal

theorem drop_one {place : Place} (h : fs.IsReal place) : fs.IsReal (place.drop 1) := by
  cases h with
  | root => exact .root
  | entry hplace => exact hplace

theorem isNamedStep {place : Place} (h : fs.IsReal place) :
    ∀ name ∈ names place, IsNamedStep name := by
  induction h with
  | root => simp
  | entry _ hname _ _ _ ih =>
    intro n hn
    rw [names_cons, List.mem_append, List.mem_singleton] at hn
    rcases hn with hn | rfl
    · exact ih n hn
    · exact hname

/-- The names on the way to a real place descend to it. -/
theorem descend {place : Place} (h : fs.IsReal place) :
    fs.root.descend (names place) = some (fs.node place) := by
  induction h with
  | root => rfl
  | entry _ _ hdir hlookup _ ih =>
    rw [names_cons, Tree.descend_append_eq_some]
    exact ⟨_, ih, by simp [hdir, Tree.descend, hlookup]⟩

theorem node_eq {place : Place} (h : fs.IsReal place) {t : Tree}
    (ht : fs.root.descend (names place) = some t) : fs.node place = t := by
  rw [h.descend] at ht
  exact Option.some.inj ht

end IsReal

section Walk

variable {limit : Nat} {place : Place} {step : String} {rest : List String}
  {entries : List (String × Tree)}

theorem walk_nil (limit : Nat) (place : Place) : fs.walk limit place [] = .ok place := by
  cases limit <;> rfl

theorem walk_stay (hdir : fs.node place = .dir entries) (h : step = "" ∨ step = ".") :
    fs.walk limit place (step :: rest) = fs.walk limit place rest := by
  cases limit <;> simp [walk, walkWith, hdir, h]

theorem walk_up (hdir : fs.node place = .dir entries) :
    fs.walk limit place (".." :: rest) = fs.walk limit (place.drop 1) rest := by
  cases limit <;> simp [walk, walkWith, hdir]

theorem walk_enter {node : Tree} (hdir : fs.node place = .dir entries) (h : IsNamedStep step)
    (hlookup : entries.lookup step = some node) (hlink : ∀ target, node ≠ .link target) :
    fs.walk limit place (step :: rest) = fs.walk limit ((step, node) :: place) rest := by
  have hshort : ¬ nameLimit < byteLength step := by have := h.short; omega
  cases node with
  | link target => exact absurd rfl (hlink target)
  | _ =>
    cases limit <;>
      simp [walk, walkWith, hdir, h.ne_empty, h.ne_dot, h.ne_dots, hshort, hlookup]

theorem walk_missing (hdir : fs.node place = .dir entries) (h : IsNamedStep step)
    (hlookup : entries.lookup step = none) :
    fs.walk limit place (step :: rest) = .error .notFound := by
  have hshort : ¬ nameLimit < byteLength step := by have := h.short; omega
  cases limit <;> simp [walk, walkWith, hdir, h.ne_empty, h.ne_dot, h.ne_dots, hshort, hlookup]

theorem walk_follow {target : String} (hdir : fs.node place = .dir entries) (h : IsNamedStep step)
    (hlookup : entries.lookup step = some (.link target)) :
    fs.walk (limit + 1) place (step :: rest) =
      fs.walk limit (if isAbsolute target then [] else place) (steps target ++ rest) := by
  have hshort : ¬ nameLimit < byteLength step := by have := h.short; omega
  simp [walk, walkWith, hdir, h.ne_empty, h.ne_dot, h.ne_dots, hshort, hlookup]

/-- All that a first step can do when the walk goes on. -/
theorem walkWith_cons_cases {follow : Place → List String → Except PathFault Place} {p : Place}
    (h : fs.walkWith follow place (step :: rest) = .ok p) :
    ∃ entries, fs.node place = .dir entries ∧
      ((step = "" ∨ step = ".") ∧ fs.walkWith follow place rest = .ok p
      ∨ step = ".." ∧ fs.walkWith follow (place.drop 1) rest = .ok p
      ∨ IsNamedStep step ∧
        ((∃ node, entries.lookup step = some node ∧ (∀ target, node ≠ .link target)
          ∧ fs.walkWith follow ((step, node) :: place) rest = .ok p)
        ∨ ∃ target, entries.lookup step = some (.link target)
          ∧ follow (if isAbsolute target then [] else place) (steps target ++ rest) = .ok p)) := by
  rw [walkWith] at h
  split at h
  · rename_i entries hdir
    refine ⟨entries, hdir, ?_⟩
    split_ifs at h with hstay hup hlong
    · exact .inl ⟨hstay, h⟩
    · exact .inr (.inl ⟨hup, h⟩)
    · have hnamed : IsNamedStep step :=
        ⟨fun e => hstay (.inl e), fun e => hstay (.inr e), hup, by omega⟩
      refine .inr (.inr ⟨hnamed, ?_⟩)
      split at h
      · simp at h
      · rename_i target hlookup
        exact .inr ⟨target, hlookup, h⟩
      · rename_i node hlink hlookup
        exact .inl ⟨node, hlookup, fun target e => hlink target e, h⟩
  · simp at h

/-- What holds of the walks that `follow` takes over holds, with one link more, of the whole. -/
theorem leads_of_walkWith {follow : Place → List String → Except PathFault Place}
    (hfollow : ∀ {place steps p}, fs.IsReal place → follow place steps = .ok p →
      fs.IsReal p ∧ ∃ links < limit, fs.Leads (names place) steps links (names p)) :
    ∀ (steps : List String) {place p : Place}, fs.IsReal place →
      fs.walkWith follow place steps = .ok p →
      fs.IsReal p ∧ ∃ links ≤ limit, fs.Leads (names place) steps links (names p)
  | [], place, p, hplace, h => by
    simp only [walkWith, Except.ok.injEq] at h
    exact ⟨h ▸ hplace, 0, by omega, h ▸ .stop⟩
  | step :: rest, place, p, hplace, h => by
    obtain ⟨entries, hdir, hstep⟩ := walkWith_cons_cases h
    have hhere : fs.root.descend (names place) = some (.dir entries) := by
      rw [hplace.descend, hdir]
    rcases hstep with ⟨hstay, hrest⟩ | ⟨rfl, hrest⟩ |
      ⟨hnamed, ⟨node, hlookup, hlink, hrest⟩ | ⟨target, hlookup, hrest⟩⟩
    · obtain ⟨hp, links, hle, hleads⟩ := leads_of_walkWith hfollow rest hplace hrest
      exact ⟨hp, links, hle, .stay hstay hhere hleads⟩
    · obtain ⟨hp, links, hle, hleads⟩ := leads_of_walkWith hfollow rest hplace.drop_one hrest
      rw [names_drop_one] at hleads
      exact ⟨hp, links, hle, .up hhere hleads⟩
    · have hentry : fs.IsReal ((step, node) :: place) := .entry hplace hnamed hdir hlookup hlink
      obtain ⟨hp, links, hle, hleads⟩ := leads_of_walkWith hfollow rest hentry hrest
      rw [names_cons] at hleads
      exact ⟨hp, links, hle, .enter hnamed hhere hlookup hlink hleads⟩
    · have hfrom : fs.IsReal (if isAbsolute target then [] else place) := by
        split
        · exact .root
        · exact hplace
      obtain ⟨hp, links, hlt, hleads⟩ := hfollow hfrom hrest
      rw [apply_ite names, names_nil] at hleads
      exact ⟨hp, links + 1, hlt, .follow hnamed hhere hlookup hleads⟩

theorem leads_of_walk : ∀ (limit : Nat) {steps : List String} {place p : Place},
    fs.IsReal place → fs.walk limit place steps = .ok p →
    fs.IsReal p ∧ ∃ links ≤ limit, fs.Leads (names place) steps links (names p)
  | 0, steps, _, _, hplace, h => leads_of_walkWith (fun _ h => by simp at h) steps hplace h
  | limit + 1, steps, _, _, hplace, h =>
    leads_of_walkWith (fun hplace h => by
      obtain ⟨hp, links, hle, hleads⟩ := leads_of_walk limit hplace h
      exact ⟨hp, links, by omega, hleads⟩) steps hplace h

theorem walk_of_leads {here steps dest : List String} {links : Nat}
    (h : fs.Leads here steps links dest) : ∀ {limit : Nat} {place : Place}, links ≤ limit →
    fs.IsReal place → names place = here →
    ∃ p, fs.walk limit place steps = .ok p ∧ names p = dest := by
  induction h with
  | stop =>
    intro limit place _ _ hhere
    exact ⟨place, walk_nil limit place, hhere⟩
  | stay hstep hdir _ ih =>
    rintro limit place hle hplace rfl
    rw [walk_stay (hplace.node_eq hdir) hstep]
    exact ih hle hplace rfl
  | up hdir _ ih =>
    rintro limit place hle hplace rfl
    rw [walk_up (hplace.node_eq hdir)]
    exact ih hle hplace.drop_one (names_drop_one place)
  | enter hstep hdir hlookup hlink _ ih =>
    rintro limit place hle hplace rfl
    have hnode := hplace.node_eq hdir
    rw [walk_enter hnode hstep hlookup hlink]
    exact ih hle (.entry hplace hstep hnode hlookup hlink) (names_cons _ _ _)
  | @follow _ _ _ _ target _ _ hstep hdir hlookup _ ih =>
    rintro limit place hle hplace rfl
    obtain ⟨limit, rfl⟩ : ∃ n, limit = n + 1 := ⟨limit - 1, by omega⟩
    have hfrom : fs.IsReal (if isAbsolute target then [] else place) := by
      split
      · exact .root
      · exact hplace
    rw [walk_follow (hplace.node_eq hdir) hstep hlookup]
    exact ih (by omega) hfrom (by rw [apply_ite names, names_nil])

/-- The steps are taken to the end exactly when they lead there through few enough links. -/
theorem exists_walk_iff {steps dest : List String} (hplace : fs.IsReal place) :
    (∃ p, fs.walk limit place steps = .ok p ∧ names p = dest) ↔
      ∃ links ≤ limit, fs.Leads (names place) steps links dest := by
  constructor
  · rintro ⟨p, hp, rfl⟩
    exact (leads_of_walk limit hplace hp).2
  · rintro ⟨links, hle, h⟩
    exact walk_of_leads h hle hplace rfl

end Walk

/-- Names that descend to a node lead there, and through no link. -/
theorem leads_of_descend {t : Tree} (hlink : ∀ target, t ≠ .link target) :
    ∀ {names here : List String}, fs.root.descend (here ++ names) = some t →
      (∀ name ∈ names, IsNamedStep name) → fs.Leads here names 0 (here ++ names)
  | [], here, _, _ => by
    rw [List.append_nil]
    exact .stop
  | name :: names, here, h, hnamed => by
    obtain ⟨mid, hhere, hmid⟩ := Tree.descend_append_eq_some.1 h
    obtain ⟨entries, node, rfl, hlookup, hnode⟩ := Tree.descend_cons_eq_some.1 hmid
    have hnolink : ∀ target, node ≠ .link target := by
      rintro target rfl
      cases names with
      | nil => exact hlink target (by simpa using hnode.symm)
      | cons n ns => simp [Tree.descend] at hnode
    rw [List.append_cons] at h ⊢
    exact .enter (hnamed name List.mem_cons_self) hhere hlookup hnolink
      (leads_of_descend hlink h fun n hn => hnamed n (List.mem_cons_of_mem _ hn))

section Resolve

/-- A step to an entry can only be taken when the name is a proper one. -/
theorem Leads.isEntryName (wf : fs.root.WellFormed) {here steps dest : List String} {links : Nat}
    (h : fs.Leads here steps links dest) :
    ∀ step ∈ steps, IsNamedStep step → IsEntryName step := by
  have hproper {here : List String} {entries : List (String × Tree)} {step : String} {node : Tree}
      (hdir : fs.root.descend here = some (.dir entries)) (hlookup : entries.lookup step = some node) :
      IsEntryName step := by
    obtain ⟨hwf, -⟩ := wf.descend hdir
    cases hwf with
    | dir hnames => exact hnames _ (mem_of_lookup hlookup)
  induction h with
  | stop => simp
  | stay hstep _ _ ih =>
    rintro step (_ | ⟨_, hmem⟩) hnamed
    · rcases hstep with rfl | rfl
      · exact absurd rfl hnamed.ne_empty
      · exact absurd rfl hnamed.ne_dot
    · exact ih step hmem hnamed
  | up _ _ ih =>
    rintro step (_ | ⟨_, hmem⟩) hnamed
    · exact absurd rfl hnamed.ne_dots
    · exact ih step hmem hnamed
  | enter _ hdir hlookup _ _ ih =>
    rintro step (_ | ⟨_, hmem⟩) hnamed
    · exact hproper hdir hlookup
    · exact ih step hmem hnamed
  | follow _ hdir hlookup _ ih =>
    rintro step (_ | ⟨_, hmem⟩) hnamed
    · exact hproper hdir hlookup
    · exact ih step (List.mem_append_right _ hmem) hnamed

theorem resolve_absolute {names : List String} {entries : List (String × Tree)}
    (hroot : fs.root = .dir entries) (hslash : ∀ name ∈ names, '/' ∉ name.toList) :
    fs.resolve (absolute names) =
      if (absolute names).toList.contains '\x00' then .error .zeroCharacter
      else fs.walk linkLimit [] names := by
  have hdir : fs.node [] = .dir entries := hroot
  rw [resolve, absolute_ne_empty, rooted, isAbsolute_absolute, if_pos rfl, steps_absolute hslash,
    walk_stay hdir (.inl rfl)]
  simp only [Bool.false_eq_true, if_false]
  congr 1
  split
  · rename_i hnil
    rw [walk_stay hdir (.inl rfl), hnil]
  · rfl

theorem isReal_of_resolve {path : String} {place : Place} (h : fs.resolve path = .ok place) :
    fs.IsReal place := by
  rw [resolve] at h
  split_ifs at h
  exact (leads_of_walk linkLimit .root h).1

/-- The path of some names leads where the names do from the root, when all links are followed. -/
theorem exists_resolve_absolute_iff (wf : fs.root.WellFormed) {names dest : List String}
    {entries : List (String × Tree)} (hroot : fs.root = .dir entries)
    (hslash : ∀ name ∈ names, '/' ∉ name.toList) (hnamed : ∀ name ∈ names, IsNamedStep name) :
    (∃ place, fs.resolve (absolute names) = .ok place ∧ FileSystem.names place = dest) ↔
      ∃ links ≤ linkLimit, fs.Leads [] names links dest := by
  rw [← names_nil, ← exists_walk_iff .root, resolve_absolute hroot hslash]
  constructor
  · rintro ⟨place, h, rfl⟩
    split at h
    · simp at h
    · exact ⟨place, h, rfl⟩
  · rintro ⟨place, h, rfl⟩
    obtain ⟨-, links, -, hleads⟩ := leads_of_walk linkLimit .root h
    have hzero := no_zero_absolute fun name hname =>
      (hleads.isEntryName wf name hname (hnamed name hname)).no_zero
    rw [if_neg (by simp only [hzero, Bool.false_eq_true, not_false_eq_true])]
    exact ⟨place, h, rfl⟩

end Resolve

end FileSystem

end Triage
