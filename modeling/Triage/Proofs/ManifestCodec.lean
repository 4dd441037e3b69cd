import Triage.Analyzer.Basic
import Triage.Proofs.CompactText
import Triage.Proofs.RecordCodec
import Triage.Result

/-!
# Analyzers and outputs read back

What is written of an analyzer, with all that is left out because it is empty, reads back as the
analyzer, and the same holds of manifests and of outputs. So an analyzer is known from what is
written of it, and from its compact text (`decode_toJson_and_text_inj`).
-/

namespace Triage

open Json.Decode

namespace Flag

theorem readsBack : ReadsBack decode toJson
  | literal _ => rfl
  | text _ => rfl

end Flag

namespace Candidate

theorem readsBack : ReadsBack decode toJson := by
  intro c
  exact record_written
    (.cons (.member rfl (readsBack_text c.when) rfl)
      (.cons (.member rfl (readsBack_text c.message) rfl)
        (.member rfl (readsBack_text c.uri) rfl))) (by decide)

end Candidate

namespace Outcome

/-- The member of a place, if it is filled. -/
def placeMember (verdict : Verdict) (place : Option Candidate) : Json.Members :=
  (place.map fun candidate => (verdict.label, candidate.toJson)).toList

theorem toJson_eq (o : Outcome) : o.toJson = .object (placeMember .fatal o.fatal ++
    placeMember .fail o.fail ++ placeMember .warn o.warn ++ placeMember .pass o.pass) := by
  simp only [toJson, filled, placeMember, List.filterMap_eq_flatMap_toList, List.flatMap_cons,
    List.flatMap_nil, List.map_append, List.append_nil, List.append_assoc, Option.toList_map,
    List.map_map]
  rfl

theorem readsBack : ReadsBack decode toJson := by
  intro o
  rw [toJson_eq]
  exact record_written
    ((((Stores.optionalMember rfl Candidate.readsBack rfl rfl rfl).append
      (.optionalMember rfl Candidate.readsBack rfl rfl rfl)).append
      (.optionalMember rfl Candidate.readsBack rfl rfl rfl)).append
      (.optionalMember rfl Candidate.readsBack rfl rfl rfl)) (by decide)

end Outcome

namespace Meta

/-- What is shared turns a record that holds none of it into one that holds it. -/
theorem stores_members {α : Type} (modify : (Meta → Meta) → α → α)
    (hmodify : ∀ f g record, modify f (modify g record) = modify (f ∘ g) record)
    (rest : List (Json.Decode.Field α)) {start : α}
    (hstart : modify (fun _ => {}) start = start) (m : Meta) :
    Stores (fieldsIn modify ++ rest) ["checkName", "exclude", "strict"] m.members start
      (modify (fun _ => m) start) := by
  have hset (f : Meta → Meta) (m : Meta) :
      modify f (modify (fun _ => m) start) = modify (fun _ => f m) start :=
    hmodify f _ start
  have hname : Stores (fieldsIn modify ++ rest) ["checkName"]
      (Json.textMember "checkName" m.checkName) (modify (fun _ => {}) start)
      (modify (fun _ => { checkName := m.checkName }) start) :=
    .textMember rfl (hset _ _) (hset _ _)
  have hexclude : Stores (fieldsIn modify ++ rest) ["exclude"]
      (m.exclude.map fun flag => ("exclude", flag.toJson)).toList
      (modify (fun _ => { checkName := m.checkName }) start)
      (modify (fun _ => { checkName := m.checkName, exclude := m.exclude }) start) :=
    .optionalMember rfl Flag.readsBack rfl (hset _ _) (hset _ _)
  have hstrict : Stores (fieldsIn modify ++ rest) ["strict"]
      (m.strict.map fun flag => ("strict", flag.toJson)).toList
      (modify (fun _ => { checkName := m.checkName, exclude := m.exclude }) start)
      (modify (fun _ => m) start) :=
    .optionalMember rfl Flag.readsBack rfl (hset _ _) (hset _ _)
  rw [hstart] at hname
  exact (hname.append hexclude).append hstrict

end Meta

namespace HostCheck

theorem readsBack (limit : Nat) : ReadsBack (decode limit) toJson := by
  intro c
  have hshared : Stores fields ["checkName", "exclude", "strict"] c.shared.members {}
      { shared := c.shared } :=
    Meta.stores_members (fun change (c : HostCheck) => { c with shared := change c.shared })
      (fun _ _ _ => rfl) _ rfl c.shared
  exact shared_written limit
    ((hshared.append (.textMember rfl rfl rfl)).append
      (.member rfl (Outcome.readsBack.list c.outcomes) rfl)) (by decide)

end HostCheck

namespace PodCheck

theorem readsBack (limit : Nat) : ReadsBack (decode limit) toJson := by
  intro c
  have hshared : Stores fields ["checkName", "exclude", "strict"] c.shared.members {}
      { shared := c.shared } :=
    Meta.stores_members (fun change (c : PodCheck) => { c with shared := change c.shared })
      (fun _ _ _ => rfl) _ rfl c.shared
  exact shared_written limit
    ((hshared.append (.textsMember rfl rfl rfl)).append
      (.member rfl (Outcome.readsBack.list c.outcomes) rfl)) (by decide)

end PodCheck

namespace RuntimeCheck

theorem readsBack (limit : Nat) : ReadsBack (decode limit) toJson := by
  intro c
  have hshared : Stores fields ["checkName", "exclude", "strict"] c.shared.members {}
      { shared := c.shared } :=
    Meta.stores_members (fun change (c : RuntimeCheck) => { c with shared := change c.shared })
      (fun _ _ _ => rfl) _ rfl c.shared
  exact shared_written limit
    (hshared.append (.member rfl (Outcome.readsBack.list c.outcomes) rfl)) (by decide)

end RuntimeCheck

namespace WorkloadCheck

theorem readsBack (limit : Nat) : ReadsBack (decode limit) toJson := by
  intro c
  have hshared : Stores fields ["checkName", "exclude", "strict"] c.shared.members {}
      { shared := c.shared } :=
    Meta.stores_members (fun change (c : WorkloadCheck) => { c with shared := change c.shared })
      (fun _ _ _ => rfl) _ rfl c.shared
  exact shared_written limit
    ((((hshared.append (.textMember rfl rfl rfl)).append (.textMember rfl rfl rfl)).append
      (.textsMember rfl rfl rfl)).append
      (.member rfl (Outcome.readsBack.list c.outcomes) rfl)) (by decide)

end WorkloadCheck

namespace EventCheck

theorem readsBack (limit : Nat) : ReadsBack (decode limit) toJson := by
  intro c
  have hshared : Stores fields ["checkName", "exclude", "strict"] c.shared.members {}
      { shared := c.shared } :=
    Meta.stores_members (fun change (c : EventCheck) => { c with shared := change c.shared })
      (fun _ _ _ => rfl) _ rfl c.shared
  exact shared_written limit
    ((((((hshared.append (.textMember rfl rfl rfl)).append (.textMember rfl rfl rfl)).append
      (.textMember rfl rfl rfl)).append
      (.member rfl (readsBack_text c.reason) rfl)).append
      (.textMember rfl rfl rfl)).append
      (.member rfl (Outcome.readsBack.list c.outcomes) rfl)) (by decide)

end EventCheck

namespace DocumentCheck

theorem readsBack (limit : Nat) : ReadsBack (decode limit) toJson := by
  intro c
  have hshared : Stores (fieldsIn id) ["checkName", "exclude", "strict"] c.shared.members {}
      { shared := c.shared } :=
    Meta.stores_members (fun change (c : DocumentCheck) => { c with shared := change c.shared })
      (fun _ _ _ => rfl) _ rfl c.shared
  exact shared_written limit
    (((((hshared.append
      (.cons (.member rfl (readsBack_text c.collectorName) rfl)
        (.member rfl (readsBack_text c.fileName) rfl))).append
      (.textMember rfl rfl rfl)).append (.nil _)).append
      (.member rfl (readsBack_text c.value) rfl)).append
      (.member rfl (Outcome.readsBack.list c.outcomes) rfl)) (by decide)

end DocumentCheck

namespace JsonCheck

/-- The path within the document is written before the value, though its field is the last one. -/
theorem readsBack (limit : Nat) : ReadsBack (decode limit) toJson := by
  intro c
  have hshared : Stores fields ["checkName", "exclude", "strict"] c.document.shared.members {}
      { document := { shared := c.document.shared } } :=
    Meta.stores_members (fun change (c : JsonCheck) =>
      { c with document := { c.document with shared := change c.document.shared } })
      (fun _ _ _ => rfl) _ rfl c.document.shared
  exact shared_written limit
    (((((hshared.append
      (.cons (.member rfl (readsBack_text c.document.collectorName) rfl)
        (.member rfl (readsBack_text c.document.fileName) rfl))).append
      (.textMember rfl rfl rfl)).append (.textMember rfl rfl rfl)).append
      (.member rfl (readsBack_text c.document.value) rfl)).append
      (.member rfl (Outcome.readsBack.list c.document.outcomes) rfl)) (by decide)

end JsonCheck

namespace TextCheck

theorem readsBack (limit : Nat) : ReadsBack (decode limit) toJson := by
  intro c
  have hshared : Stores fields ["checkName", "exclude", "strict"] c.shared.members {}
      { shared := c.shared } :=
    Meta.stores_members (fun change (c : TextCheck) => { c with shared := change c.shared })
      (fun _ _ _ => rfl) _ rfl c.shared
  exact shared_written limit
    ((((((hshared.append
      (.cons (.member rfl (readsBack_text c.collectorName) rfl)
        (.member rfl (readsBack_text c.fileName) rfl))).append
      (.textsMember rfl rfl rfl)).append (.textMember rfl rfl rfl)).append
      (.textMember rfl rfl rfl)).append
      (.member rfl (readsBack_flag c.ignoreIfNoFiles) rfl)).append
      (.member rfl (Outcome.readsBack.list c.outcomes) rfl)) (by decide)

end TextCheck

namespace Analyzer

/-- The settings of an analyzer are read back under its tag. -/
theorem decodeCheck_checkJson (limit : Nat) (a : Analyzer) :
    decodeCheck limit a.tag a.checkJson.written = some a := by
  cases a with
  | host fact check =>
    have h := (HostCheck.readsBack limit).decode_written check
    cases fact <;> simp [tag, HostFact.tag, decodeCheck, checkJson, h]
  | pods check =>
    have h := (PodCheck.readsBack limit).decode_written check
    simp [tag, decodeCheck, checkJson, h]
  | runtime check =>
    have h := (RuntimeCheck.readsBack limit).decode_written check
    simp [tag, decodeCheck, checkJson, h]
  | workload kind check =>
    have h := (WorkloadCheck.readsBack limit).decode_written check
    cases kind <;> simp [tag, WorkloadKind.tag, decodeCheck, checkJson, h]
  | job check =>
    have h := (WorkloadCheck.readsBack limit).decode_written check
    simp [tag, decodeCheck, checkJson, h]
  | event check =>
    have h := (EventCheck.readsBack limit).decode_written check
    simp [tag, decodeCheck, checkJson, h]
  | yaml check =>
    have h := (DocumentCheck.readsBack limit).decode_written check
    simp [tag, decodeCheck, checkJson, h]
  | json check =>
    have h := (JsonCheck.readsBack limit).decode_written check
    simp [tag, decodeCheck, checkJson, h]
  | text check =>
    have h := (TextCheck.readsBack limit).decode_written check
    simp [tag, decodeCheck, checkJson, h]

/-- An analyzer is read back in whatever it stands. -/
theorem readsBack_within (enclosing : Nat) : ReadsBack (decodeWithin enclosing) toJson := by
  intro a
  rw [Json.decodeValue, toJson, Json.written, Json.writtenMembers, Json.writtenMembers,
    decodeWithin, decodeCheck_checkJson]

theorem readsBack_manifest :
    ReadsBack decodeManifest fun analyzers => .array (analyzers.map toJson) :=
  (readsBack_within 1).list

/-- An analyzer is known from the text of what is written of it. -/
theorem text_inj {a b : Analyzer} : a.toJson.compact = b.toJson.compact ↔ a = b :=
  ⟨fun h => (readsBack_within 0).injective (Json.compact_inj h), fun h => h ▸ rfl⟩

end Analyzer

namespace Verdict

theorem readsBack : ReadsBack decode toJson
  | pass | warn | fail | fatal => rfl

end Verdict

namespace ObjectReference

theorem readsBack : ReadsBack decode toJson := by
  intro o
  exact record_written
    (.cons (.member rfl (readsBack_text o.apiVersion) rfl)
      (.cons (.member rfl (readsBack_text o.kind) rfl)
        (.cons (.member rfl (readsBack_text o.nspace) rfl)
          (.member rfl (readsBack_text o.name) rfl)))) (by decide)

end ObjectReference

namespace Result

theorem readsBack : ReadsBack decode toJson := by
  intro r
  have hplain : Stores fields ["title", "message", "uri", "verdict", "strict"]
      [("title", .string r.title), ("message", .string r.message), ("uri", .string r.uri),
        ("verdict", (r.verdict.map Verdict.toJson).getD .null), ("strict", .bool r.strict)] {}
      { r with involvedObject := none } :=
    .cons (.member rfl (readsBack_text r.title) rfl)
      (.cons (.member rfl (readsBack_text r.message) rfl)
        (.cons (.member rfl (readsBack_text r.uri) rfl)
          (.cons (.nullableMember rfl Verdict.readsBack rfl rfl)
            (.member rfl (readsBack_flag r.strict) rfl))))
  refine complete_written
    (hplain.append (.optionalMember rfl ObjectReference.readsBack rfl rfl rfl)) (by decide) ?_
  simp [fields, field, optionalField]

end Result

namespace Warning

theorem readsBack : ReadsBack decode toJson := by
  intro w
  refine complete_written
    (.cons (.member rfl (readsBack_text w.subject) rfl)
      (.member rfl (readsBack_text w.message) rfl)) (by decide) ?_
  simp [fields, field]

end Warning

namespace Output

theorem readsBack : ReadsBack decode toJson := by
  intro o
  refine complete_written
    (.cons (.member rfl (Result.readsBack.list o.results) rfl)
      (.member rfl (Warning.readsBack.list o.warnings) rfl)) (by decide) ?_
  simp [fields, field]

end Output

namespace Analyzer

/-- Analyzers read back from what is written of them, alone and in a manifest, so they are the same
exactly when the same is written of them. Outputs read back too. -/
theorem decode_toJson_and_text_inj :
    (∀ a : Analyzer, Json.decodeValue decode a.toJson = some a)
    ∧ (∀ manifest : List Analyzer,
      Json.decodeValue decodeManifest (.array (manifest.map toJson)) = some manifest)
    ∧ (∀ a b : Analyzer, (a.toJson = b.toJson ↔ a = b)
      ∧ (a.toJson.compact = b.toJson.compact ↔ a = b))
    ∧ ∀ o : Output, Json.decodeValue Output.decode o.toJson = some o :=
  ⟨readsBack_within 0, readsBack_manifest,
    fun _ _ => ⟨(readsBack_within 0).injective.eq_iff, text_inj⟩, Output.readsBack⟩

end Analyzer

end Triage
