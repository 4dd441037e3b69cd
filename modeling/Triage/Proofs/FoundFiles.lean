import Mathlib.Data.String.Basic
import Mathlib.Data.List.Perm.Basic
import Triage.Evidence.Store
import Triage.Proofs.Success

/-!
# Files in the order of their paths

Files are kept with ascending paths, so a list of them is known from its members
(`eq_of_mem_iff`), and the order in which files are put in does not matter
(`mem_ofList_iff`). The order of texts is the order of their bytes (`bytesOf_lt`).
-/

namespace Triage

section ByteOrder

/-- A smaller character has smaller bytes, whatever follows. -/
theorem Utf8.encodeChar_append_lt {c d : Char} (h : c < d) (xs ys : Bytes) :
    String.utf8EncodeChar c ++ xs < String.utf8EncodeChar d ++ ys := by
  have hlt : c.val.toNat < d.val.toNat := h
  have hle : d.val.toNat < 0x110000 := by
    have hvalid := d.valid
    simp only [UInt32.isValidChar, Nat.isValidChar] at hvalid
    omega
  -- in digits to the base 64 the parts of one character are tied to each other
  have htwo (n : Nat) : n / 4096 = n / 64 / 64 := by omega
  have hthree (n : Nat) : n / 262144 = n / 64 / 64 / 64 := by omega
  unfold String.utf8EncodeChar
  dsimp only
  split_ifs <;>
    simp only [List.cons_append, List.nil_append, List.cons_lt_cons_iff, UInt8.lt_iff_toNat_lt,
      ← UInt8.toNat_inj, UInt8.toNat_ofNat', htwo, hthree] <;> omega

theorem Utf8.encode_lt : ∀ {s t : List Char}, s < t → encode s < encode t
  | _, [], h => by simp at h
  | [], d :: t, _ => by
    obtain ⟨b, bs, hb⟩ := List.exists_cons_of_ne_nil (@String.utf8EncodeChar_ne_nil d)
    simp [encode, hb]
  | c :: s, d :: t, h => by
    simp only [encode, List.flatMap_cons]
    rcases List.cons_lt_cons_iff.1 h with hlt | ⟨rfl, hlt⟩
    · exact encodeChar_append_lt hlt _ _
    · exact List.append_left_lt (encode_lt hlt)

theorem bytesOf_lt {s t : String} (h : s < t) : bytesOf s < bytesOf t :=
  Utf8.encode_lt (String.lt_iff_toList_lt.1 h)

end ByteOrder

/-- The paths ascend, so each is there once. -/
def Ascending (files : List FoundFile) : Prop := files.Pairwise fun x y => x.1 < y.1

namespace Ascending

theorem nodup {files : List FoundFile} (h : Ascending files) : files.Nodup :=
  h.imp fun {x y} hlt => by
    rintro rfl
    exact lt_irrefl _ hlt

/-- Two lists in the order of their paths with the same members are the same. -/
theorem eq_of_mem_iff {xs ys : List FoundFile} (hx : Ascending xs) (hy : Ascending ys)
    (h : ∀ file, file ∈ xs ↔ file ∈ ys) : xs = ys := by
  have hperm : xs.Perm ys := (List.perm_ext_iff_of_nodup hx.nodup hy.nodup).2 h
  exact hperm.eq_of_pairwise (fun x y _ _ hxy hyx => absurd hyx (lt_asymm hxy)) hx hy

theorem bytes {files : List FoundFile} (h : Ascending files) :
    files.Pairwise fun x y => bytesOf x.1 < bytesOf y.1 :=
  h.imp bytesOf_lt

theorem filter {files : List FoundFile} (h : Ascending files) (p : FoundFile → Bool) :
    Ascending (files.filter p) :=
  List.Pairwise.filter p h

end Ascending

namespace MemoryStore

theorem mem_insertFile_self (path : String) (content : Bytes) :
    ∀ files : List FoundFile, (path, content) ∈ insertFile path content files
  | [] => by simp [insertFile]
  | (p, c) :: files => by
    rw [insertFile]
    split_ifs
    · simp
    · simp
    · exact List.mem_cons_of_mem _ (mem_insertFile_self path content files)

/-- A file of another path stays. -/
theorem mem_insertFile_of_ne {path : String} {content : Bytes} {file : FoundFile}
    (hne : file.1 ≠ path) :
    ∀ {files : List FoundFile}, file ∈ files → file ∈ insertFile path content files
  | (p, c) :: files, h => by
    rw [insertFile]
    split_ifs with heq hlt
    · rcases List.mem_cons.1 h with rfl | h
      · exact absurd heq hne
      · exact List.mem_cons_of_mem _ h
    · exact List.mem_cons_of_mem _ h
    · rcases List.mem_cons.1 h with rfl | h
      · exact List.mem_cons_self
      · exact List.mem_cons_of_mem _ (mem_insertFile_of_ne hne h)

theorem eq_or_mem_of_mem_insertFile {path : String} {content : Bytes} {file : FoundFile} :
    ∀ {files : List FoundFile}, file ∈ insertFile path content files →
      file = (path, content) ∨ file ∈ files
  | [], h => by simpa [insertFile] using h
  | (p, c) :: files, h => by
    rw [insertFile] at h
    split_ifs at h
    · exact (List.mem_cons.1 h).imp_right fun h => List.mem_cons_of_mem _ h
    · exact List.mem_cons.1 h
    · rcases List.mem_cons.1 h with h | h
      · exact .inr (h ▸ List.mem_cons_self)
      · exact (eq_or_mem_of_mem_insertFile h).imp_right fun h => List.mem_cons_of_mem _ h

theorem ascending_insertFile {path : String} {content : Bytes} :
    ∀ {files : List FoundFile}, Ascending files → Ascending (insertFile path content files)
  | [], _ => by simp [insertFile, Ascending]
  | (p, c) :: files, h => by
    obtain ⟨hfirst, hrest⟩ := List.pairwise_cons.1 h
    rw [insertFile]
    split_ifs with heq hlt
    · exact List.pairwise_cons.2 ⟨fun file hf => heq ▸ hfirst file hf, hrest⟩
    · refine List.pairwise_cons.2 ⟨fun file hf => ?_, h⟩
      rcases List.mem_cons.1 hf with rfl | hf
      · exact hlt
      · exact hlt.trans (hfirst file hf)
    · refine List.pairwise_cons.2 ⟨fun file hf => ?_, ascending_insertFile hrest⟩
      rcases eq_or_mem_of_mem_insertFile hf with rfl | hf
      · exact lt_of_le_of_ne (not_lt.1 hlt) heq
      · exact hfirst file hf

section OfList

/-- Files put into a store one after another. -/
theorem ascending_foldl_insert : ∀ {files : List FoundFile} {store : MemoryStore},
    Ascending store.files →
    Ascending (files.foldl (fun store (path, content) => store.insert path content) store).files
  | [], _, h => h
  | (path, content) :: files, store, h =>
    @ascending_foldl_insert files (store.insert path content) (ascending_insertFile h)

theorem ascending_ofList (files : List FoundFile) : Ascending (ofList files).files :=
  ascending_foldl_insert .nil

/-- One content for each path. -/
def Consistent (files : List FoundFile) : Prop :=
  ∀ path content other, (path, content) ∈ files → (path, other) ∈ files → content = other

theorem mem_foldl_insert {files : List FoundFile} : ∀ {store : MemoryStore},
    Consistent (store.files ++ files) → ∀ file,
    file ∈ (files.foldl (fun store (path, content) => store.insert path content) store).files ↔
      file ∈ store.files ∨ file ∈ files := by
  induction files with
  | nil => simp
  | cons first files ih =>
    obtain ⟨path, content⟩ := first
    intro store hone file
    have hmem : ∀ file, file ∈ insertFile path content store.files ↔
        file = (path, content) ∨ file ∈ store.files := by
      intro file
      refine ⟨eq_or_mem_of_mem_insertFile, ?_⟩
      rintro (rfl | h)
      · exact mem_insertFile_self path content store.files
      · by_cases hp : file.1 = path
        · obtain ⟨p, c⟩ := file
          obtain rfl : p = path := hp
          obtain rfl := hone p c content (by simp [h]) (by simp)
          exact mem_insertFile_self p c store.files
        · exact mem_insertFile_of_ne hp h
    have hiff := @ih (store.insert path content) fun p c other hc ho => hone p c other
      (by simpa [insert, hmem, or_assoc, or_left_comm] using hc)
      (by simpa [insert, hmem, or_assoc, or_left_comm] using ho)
    rw [List.foldl_cons, hiff file, insert, hmem, List.mem_cons]
    tauto

/-- A store made of files holds just these, in whatever order they are put in. -/
theorem mem_ofList_iff {files : List FoundFile} (h : Consistent files) (file : FoundFile) :
    file ∈ (ofList files).files ↔ file ∈ files := by
  have hiff := @mem_foldl_insert files {} (by simpa using h)
  rw [ofList, hiff]
  simp

end OfList

end MemoryStore

/-- Files are found as a map gives them: in the order of their paths, and each path once. -/
def EvidenceStore.Orderly (store : EvidenceStore) : Prop :=
  ∀ pattern exclude files, store.find pattern exclude = .ok files → Ascending files

theorem MemoryStore.orderly_ofList (files : List FoundFile) : (ofList files).toStore.Orderly := by
  intro pattern exclude found h
  obtain ⟨filter, -, h⟩ := bind_eq_ok.1 h
  obtain rfl := Except.ok.inj h
  exact (ascending_ofList files).filter _

end Triage
