import Triage.Proofs.NamespaceScans
import Triage.Proofs.PodReports

/-!
# Files of cluster resources

The files of a kind of resource are named after namespaces. The glob for the kind accepts the paths
of these files (`accepts_clusterResourceGlob_iff`), unless the glob is refused for its size
(`exists_glob_iff_isAffordable`), and the path of a file gives its namespace back
(`namespaceOf_clusterResourcePath`). So paths and namespaces stand for each other
(`resource_paths_name_namespaces`), and a check of pods reads the files of the namespaces that it
mentions and no others (`mem_covered_iff`).
-/

namespace Triage

namespace Glob

variable {backwards : Bool}

/-- What the tokens add to a machine that has `start` octets before. -/
theorem foldl_octets : ∀ {tokens : List Token} {start : Nat},
    tokens.foldl (fun octets token => octets + token.octets backwards) start =
      start + (tokens.map (Token.octets backwards)).sum
  | [], start => rfl
  | token :: tokens, start => by
    rw [List.foldl_cons, foldl_octets, List.map_cons, List.sum_cons, Nat.add_assoc]

theorem sum_octets_literal : ∀ {literal : List Char},
    ((literal.map Token.literal).map (Token.octets backwards)).sum =
      32 * byteLength (.ofList literal)
  | [] => rfl
  | c :: literal => by
    have hlength : byteLength (.ofList (c :: literal)) =
        c.utf8Size + byteLength (.ofList literal) := by
      simp [byteLength, String.ofList_cons]
    rw [List.map_cons, List.map_cons, List.sum_cons, sum_octets_literal, hlength, Nat.mul_add]
    rfl

end Glob

namespace Layout

variable {kind nspace path : String}

/-- The path gives the namespace back, whatever it ends in. -/
theorem namespaceOf_clusterResourcePath (h : '/' ∉ nspace.toList) :
    namespaceOf (clusterResourcePath kind nspace) = nspace := by
  have hname : '/' ∉ nspace.toList ++ ".json".toList := by
    rw [List.mem_append, not_or]
    exact ⟨h, by decide⟩
  have hfile : Text.afterLast '/' (clusterResourcePath kind nspace).toList =
      nspace.toList ++ ".json".toList := by
    rw [← Text.afterLast_append ("cluster-resources" ++ "/" ++ kind).toList hname,
      clusterResourcePath_eq]
    simp
  have hdrop : Text.dropBack? ".json".toList (nspace.toList ++ ".json".toList) =
      some nspace.toList := List.isSuffixOf?_eq_some_iff_append_eq.2 rfl
  rw [namespaceOf, hfile]
  simp only [hdrop, Option.getD_some, String.ofList_toList]

/-- What a kind adds to the machine for its glob is thirty-two octets for each of its bytes. -/
theorem machineOctets_clusterResourceGlob (hkind : Glob.IsPlain kind) (backwards : Bool) :
    Glob.machineOctets backwards (Glob.tokens (clusterResourceGlob kind).toList) =
      (if backwards then 1936 else 1424) + 32 * byteLength kind := by
  have hlength : byteLength (.ofList ("cluster-resources" ++ "/" ++ kind ++ "/").toList) =
      19 + byteLength kind := by
    have hdir : byteLength "cluster-resources" = 17 ∧ byteLength "/" = 1 := by decide
    simp only [byteLength, String.ofList_toList, String.utf8ByteSize_append] at hdir ⊢
    omega
  have hstar : ((Glob.Token.name :: (".json".toList.map Glob.Token.literal ++ [])).map
      (Glob.Token.octets backwards)).sum = if backwards then 1200 else 624 := by
    cases backwards <;> decide
  rw [Glob.machineOctets, Glob.foldl_octets, tokens_clusterResourceGlob hkind, List.map_append,
    List.sum_append, Glob.sum_octets_literal, hlength, hstar]
  cases backwards <;> simp only [Bool.false_eq_true, if_false, if_true] <;> omega

theorem isAffordable_clusterResourceGlob_iff (hkind : Glob.IsPlain kind) :
    Glob.isAffordable (clusterResourceGlob kind) = true ↔ byteLength kind ≤ 327619 := by
  rw [Glob.isAffordable, Bool.and_eq_true, decide_eq_true_iff, decide_eq_true_iff,
    machineOctets_clusterResourceGlob hkind, machineOctets_clusterResourceGlob hkind,
    Glob.octetLimit]
  simp only [Bool.false_eq_true, if_false, if_true]
  omega

/-- The glob for a kind is refused only when it is too large. -/
theorem exists_glob_iff_isAffordable :
    (∃ glob, Glob.ofPattern (clusterResourceGlob kind) = .ok glob) ↔
      Glob.isAffordable (clusterResourceGlob kind) = true := by
  have hblank : isBlankText (clusterResourceGlob kind) = false := by
    have hdir : "cluster-resources".toList.all Text.isBlank = false := by decide
    simp only [isBlankText, clusterResourceGlob_eq, String.toList_append, List.all_append, hdir,
      Bool.false_and]
  rw [Glob.exists_ofPattern_iff]
  exact and_iff_right hblank

/-- The glob for a kind is there unless the kind is too long (how long is up to the engine, see
`Glob.machineOctets`), and accepts the paths of the files that are named after namespaces and no
others. Such a path belongs to one namespace only, which is read off it. -/
theorem resource_paths_name_namespaces (hkind : Glob.IsPlain kind) :
    ((∃ glob, Glob.ofPattern (clusterResourceGlob kind) = .ok glob) ↔ byteLength kind ≤ 327619)
    ∧ (∀ glob, Glob.ofPattern (clusterResourceGlob kind) = .ok glob → ∀ path,
      (glob.accepts path = true ↔
        ∃ nspace, '/' ∉ nspace.toList ∧ path = clusterResourcePath kind nspace))
    ∧ ∀ nspace path, '/' ∉ nspace.toList → path = clusterResourcePath kind nspace →
      (∀ other, path = clusterResourcePath kind other → other = nspace)
      ∧ namespaceOf path = nspace := by
  refine ⟨exists_glob_iff_isAffordable.trans (isAffordable_clusterResourceGlob_iff hkind),
    fun glob hglob path => ?_, ?_⟩
  · exact accepts_clusterResourceGlob_iff hkind (Glob.ofPattern_eq_ok_iff.1 hglob) path
  · rintro nspace path hnspace rfl
    exact ⟨fun other hother => (clusterResourcePath_injective kind hother).symm,
      namespaceOf_clusterResourcePath hnspace⟩

/-- The namespaces may be empty, or end like the files themselves. -/
theorem resource_paths_name_namespaces_of_pods :
    Glob.IsPlain "pods" ∧ (∃ glob, Glob.ofPattern "cluster-resources/pods/*.json" = .ok glob
      ∧ glob.accepts "cluster-resources/pods/.json" = true
      ∧ glob.accepts "cluster-resources/pods/a.json.json" = true)
    ∧ namespaceOf "cluster-resources/pods/.json" = ""
    ∧ namespaceOf "cluster-resources/pods/a.json.json" = "a.json" := by
  have hkind : Glob.IsPlain "pods" := by decide
  obtain ⟨hglob, haccepts, hname⟩ := resource_paths_name_namespaces hkind
  obtain ⟨glob, hpattern⟩ := hglob.2 (by decide)
  have hempty : "cluster-resources/pods/.json" = clusterResourcePath "pods" "" := by decide
  have hdotted : "cluster-resources/pods/a.json.json" = clusterResourcePath "pods" "a.json" := by
    decide
  exact ⟨hkind, ⟨glob, hpattern, (haccepts glob hpattern _).2 ⟨"", by decide, hempty⟩,
      (haccepts glob hpattern _).2 ⟨"a.json", by decide, hdotted⟩⟩,
    (hname "" _ (by decide) hempty).2, (hname "a.json" _ (by decide) hdotted).2⟩

end Layout

/-- A check of pods reads what a store holds at the paths of the namespaces that it mentions, or of
any when it mentions none. -/
theorem PodCheck.mem_covered_iff {check : PodCheck} {store : EvidenceStore}
    {held files : List FoundFile} (hserves : store.Serves held)
    (hfiles : store.find (Layout.clusterResourceGlob "pods") [] = .ok files) (file : FoundFile) :
    (file ∈ files.filter fun file => check.covers file.1) ↔ file ∈ held
      ∧ ∃ nspace, '/' ∉ nspace.toList ∧ file.1 = Layout.clusterResourcePath "pods" nspace
        ∧ (check.namespaces = [] ∨ nspace ∈ check.namespaces) := by
  obtain ⟨glob, hpattern, rfl⟩ := hserves.exists_glob hfiles
  rw [PodCheck.covers_eq, List.mem_filter, List.mem_filter, decide_eq_true_iff, and_assoc,
    Layout.accepts_clusterResourceGlob_iff (by decide) hpattern]
  refine and_congr_right fun _ => ⟨?_, ?_⟩
  · rintro ⟨⟨nspace, hnspace, hpath⟩, hcovered⟩
    rw [hpath, Layout.namespaceOf_clusterResourcePath hnspace] at hcovered
    exact ⟨nspace, hnspace, hpath, hcovered⟩
  · rintro ⟨nspace, hnspace, hpath, hcovered⟩
    refine ⟨⟨nspace, hnspace, hpath⟩, ?_⟩
    rwa [hpath, Layout.namespaceOf_clusterResourcePath hnspace]

end Triage
