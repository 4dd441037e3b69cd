import Triage.Error
import Triage.Proofs.Clauses
import Triage.Proofs.DocumentEquality
import Triage.Proofs.NumberText

/-!
# Selection by a dotted path

Segments without points that are written with points between them, and without blanks around the
whole, lead where they lead one by one (`select_eq_ok_iff`); otherwise the selection fails at the
first of them that leads nowhere (`select_eq_error`). So each node is selected by the names and
places on the way to it, nothing but nodes is selected, and a path can be followed in two parts
(`select_point`).
-/

namespace Triage.Json

/-- The value stands right below the other one: it is the member of that name, or the item that the
segment counts from zero. -/
inductive Child (segment : String) : Json → Json → Prop
  | member {members : Members} {value : Json} (mem : (segment, value) ∈ members) :
    Child segment (object members) value
  | item {items : List Json} {index : ℕ} {value : Json}
    (spells : Text.SpellsNatural segment.toList index) (item : items[index]? = some value) :
    Child segment (array items) value

/-- The segments lead from the one value down to the other. -/
inductive Reaches : List String → Json → Json → Prop
  | here (document : Json) : Reaches [] document document
  | down {segment : String} {segments : List String} {document next value : Json}
    (child : Child segment document next) (rest : Reaches segments next value) :
    Reaches (segment :: segments) document value

/-- The segments lead down to a value with nothing below it under this segment, which is the next. -/
def Breaks (segments : List String) (document : Json) (segment : String) : Prop :=
  ∃ before after middle, segments = before ++ segment :: after ∧ Reaches before document middle
    ∧ ∀ next, ¬ Child segment middle next

/-- The node of a document that the names of the members and the places of the items, as they are
counted from zero, lead to. -/
inductive NodeAt : List String → Json → Json → Prop
  | root (document : Json) : NodeAt [] document document
  | member {name : String} {names : List String} {members : Members} {next node : Json}
    (mem : (name, next) ∈ members) (rest : NodeAt names next node) :
    NodeAt (name :: names) (object members) node
  | item {index : ℕ} {names : List String} {items : List Json} {next node : Json}
    (item : items[index]? = some next) (rest : NodeAt names next node) :
    NodeAt (.ofList (natText index) :: names) (array items) node

/-- A path with something in it and without blanks around it. -/
structure IsPath (path : String) : Prop where
  ne_empty : path ≠ ""
  first : ∀ c ∈ path.toList.head?, Text.isBlank c = false
  last : ∀ c ∈ path.toList.getLast?, Text.isBlank c = false

/-- The path has these segments. -/
structure Writes (segments : List String) (path : String) : Prop where
  path_eq : path = ".".intercalate segments
  no_point : ∀ segment ∈ segments, '.' ∉ segment.toList
  isPath : IsPath path

variable {segment path : String} {segments : List String} {document next value node : Json}

section Follow

theorem IsDocument.child (h : IsDocument document) (hchild : Child segment document value) :
    IsDocument value := by
  cases hchild with
  | member mem =>
    cases h with
    | object _ documents => exact documents _ (List.mem_map_of_mem mem)
  | item _ item =>
    cases h with
    | array documents => exact documents _ (List.mem_of_getElem? item)

theorem child?_eq_some_iff (h : IsDocument document) :
    child? segment.toList document = some value ↔ Child segment document value := by
  constructor
  · intro hchild
    unfold child? at hchild
    split at hchild
    · rw [String.ofList_toList] at hchild
      exact .member (mem_of_lookup hchild)
    · obtain ⟨index, hindex, hitem⟩ := Option.bind_eq_some_iff.1 hchild
      exact .item (Text.unsigned?_eq_some_iff.1 hindex) hitem
    · cases hchild
  · rintro (mem | ⟨spells, item⟩)
    · cases h with
      | object nodup _ =>
        rw [child?, String.ofList_toList]
        exact lookup_of_mem nodup mem
    · exact Option.bind_eq_some_iff.2 ⟨_, Text.unsigned?_eq_some_iff.2 spells, item⟩

theorem child?_eq_none_iff (h : IsDocument document) :
    child? segment.toList document = none ↔ ∀ next, ¬ Child segment document next := by
  simp only [Option.eq_none_iff_forall_ne_some, Ne, child?_eq_some_iff h]

theorem follow_eq_ok_iff (h : IsDocument document) :
    follow (segments.map String.toList) document = .ok value ↔ Reaches segments document value := by
  induction segments generalizing document with
  | nil =>
    constructor
    · rintro ⟨⟩
      exact .here _
    · rintro ⟨⟩
      rfl
  | cons segment segments ih =>
    rw [List.map_cons, follow]
    split
    · rename_i next hnext
      have hchild := (child?_eq_some_iff h).1 hnext
      rw [ih (h.child hchild)]
      constructor
      · exact .down hchild
      · rintro (_ | ⟨hother, hrest⟩)
        have hsame := (child?_eq_some_iff h).2 hother
        rw [hnext] at hsame
        cases hsame
        exact hrest
    · rename_i hnone
      rw [child?_eq_none_iff h] at hnone
      refine iff_of_false (by simp) ?_
      rintro (_ | ⟨hother, -⟩)
      exact hnone _ hother

theorem Breaks.down (hchild : Child segment document next) {broken : String}
    (h : Breaks segments next broken) : Breaks (segment :: segments) document broken := by
  obtain ⟨before, after, middle, rfl, hreaches, hbroken⟩ := h
  exact ⟨segment :: before, after, middle, rfl, .down hchild hreaches, hbroken⟩

theorem breaks_of_follow (h : IsDocument document) {broken : List Char}
    (hfollow : follow (segments.map String.toList) document = .error broken) :
    Breaks segments document (.ofList broken) := by
  induction segments generalizing document with
  | nil => cases hfollow
  | cons segment segments ih =>
    rw [List.map_cons, follow] at hfollow
    split at hfollow
    · rename_i next hnext
      have hchild := (child?_eq_some_iff h).1 hnext
      exact (ih (h.child hchild) hfollow).down hchild
    · rename_i hnone
      cases hfollow
      rw [String.ofList_toList]
      exact ⟨[], segments, document, rfl, .here document, (child?_eq_none_iff h).1 hnone⟩

theorem follow_append (front back : List (List Char)) (document : Json) :
    follow (front ++ back) document = follow front document >>= follow back := by
  induction front generalizing document with
  | nil => rfl
  | cons segment front ih =>
    rw [List.cons_append, follow, follow]
    split
    · exact ih _
    · rfl

end Follow

section Nodes

theorem NodeAt.reaches (h : NodeAt segments document node) : Reaches segments document node := by
  induction h with
  | root document => exact .here document
  | member mem _ ih => exact .down (.member mem) ih
  | @item index _ _ _ _ item _ ih =>
    have hspells : Text.SpellsNatural (natText index) (Text.digitsValue (natText index)) :=
      .plain (natText_ne_nil index) (natText_isDigit index)
    rw [digitsValue_natText] at hspells
    exact .down (.item (by simpa using hspells) item) ih

theorem Reaches.exists_nodeAt (h : Reaches segments document value) :
    ∃ names, NodeAt names document value := by
  induction h with
  | here document => exact ⟨[], .root document⟩
  | down child _ ih =>
    obtain ⟨names, hnode⟩ := ih
    cases child with
    | member mem => exact ⟨_, .member mem hnode⟩
    | item _ item => exact ⟨_, .item item hnode⟩

end Nodes

section Select

theorem isPath_iff : IsPath path ↔ path ≠ "" ∧ trimmed path = path := by
  have htrimmed : trimmed path = path ↔ Text.trim path.toList = path.toList := by
    rw [trimmed, ← String.toList_inj, String.toList_ofList]
  rw [htrimmed, Text.trim_eq_self_iff]
  constructor
  · rintro ⟨hne, hfirst, hlast⟩
    exact ⟨hne, hfirst, hlast⟩
  · rintro ⟨hne, hfirst, hlast⟩
    exact ⟨hne, hfirst, hlast⟩

theorem IsPath.point {front back : String} (h : IsPath front) (h' : IsPath back) :
    IsPath (front ++ "." ++ back) := by
  have hfront : front.toList ≠ [] := by simpa using h.ne_empty
  have hback : back.toList ≠ [] := by simpa using h'.ne_empty
  obtain ⟨hne, hfirst, -⟩ := h
  obtain ⟨-, -, hlast⟩ := h'
  refine ⟨by simp [hne], ?_, ?_⟩
  · simpa [List.head?_append, List.head?_eq_some_head hfront] using hfirst
  · simpa [List.getLast?_append, List.getLast?_cons, List.getLast?_eq_some_getLast hback] using hlast

theorem select_of_isPath (h : IsPath path) (document : Json) : select path document =
    (follow (Text.splitAt '.' path.toList) document).mapError fun segment =>
      ⟨path, .ofList segment⟩ := by
  have htrim : Text.trim path.toList = path.toList := Text.trim_eq_self_iff.2 ⟨h.first, h.last⟩
  have hne : path.toList.isEmpty = false := by simpa using h.ne_empty
  simp only [select, htrim, hne, String.ofList_toList]
  rfl

theorem Writes.splitAt_eq (h : Writes segments path) :
    Text.splitAt '.' path.toList = segments.map String.toList := by
  have hne : segments ≠ [] := by
    rintro rfl
    exact h.isPath.ne_empty h.path_eq
  have hsplit := @splitString_intercalate '.' "." segments rfl hne h.no_point
  rw [← h.path_eq, splitString] at hsplit
  rw [← hsplit]
  simp [Function.comp_def]

theorem select_eq_ok_iff (h : IsDocument document) (hwrites : Writes segments path) :
    select path document = .ok value ↔ Reaches segments document value := by
  rw [select_of_isPath hwrites.isPath, hwrites.splitAt_eq, mapError_eq_ok, follow_eq_ok_iff h]

/-- What leads nowhere breaks off at a segment, and the error names it. -/
theorem select_eq_error (h : IsDocument document) (hwrites : Writes segments path)
    (hnowhere : ∀ value, ¬ Reaches segments document value) :
    ∃ segment, Breaks segments document segment
      ∧ select path document = .error ⟨path, segment⟩ := by
  rw [select_of_isPath hwrites.isPath, hwrites.splitAt_eq]
  cases hfollow : follow (segments.map String.toList) document with
  | ok value => exact absurd ((follow_eq_ok_iff h).1 hfollow) (hnowhere value)
  | error broken => exact ⟨_, breaks_of_follow h hfollow, rfl⟩

theorem toOption_select (h : IsPath path) (document : Json) :
    (select path document).toOption = (follow (Text.splitAt '.' path.toList) document).toOption := by
  rw [select_of_isPath h]
  cases follow (Text.splitAt '.' path.toList) document <;> rfl

theorem select_point {front back : String} (h : IsPath front) (h' : IsPath back)
    (document : Json) : (select (front ++ "." ++ back) document).toOption =
      (select front document).toOption.bind fun middle => (select back middle).toOption := by
  have hsplit : Text.splitAt '.' (front ++ "." ++ back).toList =
      Text.splitAt '.' front.toList ++ Text.splitAt '.' back.toList := by
    have hpoint : (front ++ "." ++ back).toList = front.toList ++ '.' :: back.toList := by simp
    simp only [Text.splitAt_eq_splitOn, hpoint, List.splitOn_append_cons_self]
  rw [toOption_select (h.point h'), toOption_select h, hsplit, follow_append]
  cases follow (Text.splitAt '.' front.toList) document with
  | ok middle => exact (toOption_select h' middle).symm
  | error broken => rfl

end Select

/-- A path selects the value that its segments lead to, and fails as an invalid analyzer does at the
first segment that leads nowhere. So it selects a node when it is the way to this node, it selects
nothing but nodes, and selecting by two paths one after the other is selecting by both with a point
between them. -/
theorem select_addresses_nodes {document : Json} (h : IsDocument document) :
    (∀ segments path, Writes segments path →
      (∀ value, select path document = .ok value ↔ Reaches segments document value)
      ∧ ((∀ value, ¬ Reaches segments document value) → ∃ segment, Breaks segments document segment
        ∧ ((select path document).mapError fun e => AnalysisError.invalid (.path e)) =
          .error (.invalid (.path ⟨path, segment⟩)))
      ∧ (∀ node, NodeAt segments document node → select path document = .ok node)
      ∧ ∀ value, select path document = .ok value → ∃ names, NodeAt names document value)
    ∧ ∀ front back, front ≠ "" → trimmed front = front → back ≠ "" → trimmed back = back →
      (select (front ++ "." ++ back) document).toOption =
        (select front document).toOption.bind fun middle => (select back middle).toOption := by
  refine ⟨fun segments path hwrites => ⟨fun value => select_eq_ok_iff h hwrites,
    fun hnowhere => ?_, fun node hnode => ?_, fun value hvalue => ?_⟩,
    fun front back hfront hfront' hback hback' => ?_⟩
  · obtain ⟨segment, hbreaks, hselect⟩ := select_eq_error h hwrites hnowhere
    exact ⟨segment, hbreaks, by rw [hselect]; rfl⟩
  · exact (select_eq_ok_iff h hwrites).2 hnode.reaches
  · exact ((select_eq_ok_iff h hwrites).1 hvalue).exists_nodeAt
  · exact select_point (isPath_iff.2 ⟨hfront, hfront'⟩) (isPath_iff.2 ⟨hback, hback'⟩) document

section Sample

/-- A digit is the name of a member in it, and counts items. -/
def numberedItems : Json :=
  object [("items", array [object [("0", bool false)], object [("0", string "first")]])]

/-- The second item and its member `0` are selected in one and in two steps, and there is no third
item. -/
theorem select_addresses_nodes_of_numberedItems :
    IsDocument numberedItems
    ∧ select "items.1.0" numberedItems = .ok (string "first")
    ∧ (∃ segment, Breaks ["items", "+2", "0"] numberedItems segment
      ∧ ((select "items.+2.0" numberedItems).mapError fun e => AnalysisError.invalid (.path e)) =
        .error (.invalid (.path ⟨"items.+2.0", segment⟩)))
    ∧ (select "items.1" numberedItems).toOption.bind (fun item => (select "0" item).toOption) =
      some (string "first") := by
  have hsingle {name : String} {value : Json} (h : IsDocument value) :
      IsDocument (object [(name, value)]) := .object (by simp) (by simpa using h)
  have hdocument : IsDocument numberedItems :=
    hsingle (.array (by simpa using ⟨hsingle (.bool false), hsingle (.string "first")⟩))
  have hwrites : Writes ["items", "1", "0"] "items.1.0" :=
    ⟨by decide +kernel, by decide +kernel, isPath_iff.2 (by decide +kernel)⟩
  have hbeyond : Writes ["items", "+2", "0"] "items.+2.0" :=
    ⟨by decide +kernel, by decide +kernel, isPath_iff.2 (by decide +kernel)⟩
  obtain ⟨hselect, hparts⟩ := select_addresses_nodes hdocument
  obtain ⟨-, -, hnodes, -⟩ := hselect _ _ hwrites
  obtain ⟨hreaches, hbreaks, -, -⟩ := hselect _ _ hbeyond
  have hnode : NodeAt ["items", "1", "0"] numberedItems (string "first") :=
    .member List.mem_cons_self (@NodeAt.item 1 _ _ _ _ rfl (.member List.mem_cons_self (.root _)))
  have hnowhere : ∀ value, ¬ Reaches ["items", "+2", "0"] numberedItems value := by
    intro value hvalue
    have hselected := (hreaches value).2 hvalue
    have hfails : (select "items.+2.0" numberedItems).isOk = false := by decide +kernel
    rw [hselected] at hfails
    cases hfails
  refine ⟨hdocument, hnodes _ hnode, hbreaks hnowhere, ?_⟩
  rw [← hparts "items.1" "0" (by decide) (by decide +kernel) (by decide) (by decide +kernel)]
  exact congrArg Except.toOption (hnodes _ hnode)

end Sample

end Triage.Json
