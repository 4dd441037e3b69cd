import Triage.Engine.Session
import Triage.Proofs.AppendedFiles
import Triage.Proofs.ReadBack
import Triage.Proofs.WholeNumbers

/-!
# A log file reads back

An entry is recorded as one line, from which it is read again (`ofLine?_payload`). Every recording
adds its lines at the end of the file (`Session.grown_recorded`), so after any number of them the
file holds what it held before and then one line for each entry, in order (`log_file_reads_back`).
-/

namespace Triage

/-- The event of a name. -/
def LogEvent.ofName? (name : String) : Option LogEvent :=
  [excluded, failed, noResults, warning].find? (·.name = name)

theorem LogEvent.ofName?_name (event : LogEvent) : ofName? event.name = some event := by
  cases event <;> rfl

/-- Lines, each ended by a line feed. -/
def terminated (lines : List Bytes) : Bytes := lines.flatMap (· ++ [10])

section Lines

variable {lines : List Bytes} {content : Bytes}

theorem terminated_append (lines more : List Bytes) :
    terminated (lines ++ more) = terminated lines ++ terminated more := List.flatMap_append

theorem splitOn_terminated (h : ∀ line ∈ lines, 10 ∉ line) :
    (terminated lines).splitOn 10 = lines ++ [[]] := by
  induction lines with
  | nil => rfl
  | cons line lines ih =>
    obtain ⟨hline, hlines⟩ := List.forall_mem_cons.1 h
    rw [terminated, List.flatMap_cons, ← terminated, List.append_assoc, List.singleton_append,
      List.splitOn_append_cons_self_of_not_mem hline, ih hlines]
    rfl

/-- Lines that are added where a line starts stay apart from what stood there before. -/
theorem splitOn_append_terminated (h : ∀ line ∈ lines, 10 ∉ line)
    (hcontent : content = [] ∨ content.getLast? = some 10) :
    (content ++ terminated lines).splitOn 10 = (content.splitOn 10).dropLast ++ lines ++ [[]] := by
  rcases hcontent with rfl | hlast
  · rw [List.nil_append, splitOn_terminated h]
    rfl
  · obtain ⟨start, rfl⟩ := List.getLast?_eq_some_iff.1 hlast
    have hstart : (start ++ [10]).splitOn 10 = start.splitOn 10 ++ [[]] :=
      List.splitOn_append_cons_self start []
    rw [List.append_assoc, List.singleton_append, List.splitOn_append_cons_self,
      splitOn_terminated h, hstart, List.dropLast_concat, List.append_assoc]

end Lines

namespace LogEntry

/-- The entry of a decoded line. -/
def ofJson? (document : Json) : Option LogEntry :=
  match document.member? "event", document.member? "analyzer", document.member? "message" with
  | some (.string event), some (.string analyzer), some (.string message) =>
    (LogEvent.ofName? event).map (⟨·, analyzer, message⟩)
  | _, _, _ => none

/-- The entry of a line. -/
def ofLine? (line : Bytes) : Option LogEntry := (Json.ofBytes? line).bind ofJson?

/-- The line of an entry without the line feed at its end. -/
def payload (time : Nat) (entry : LogEntry) : Bytes := Utf8.encode (entry.toJson time).text

theorem encode_eq_terminated (time : Nat) (log : List LogEntry) :
    encode time log = terminated (log.map (payload time)) := by
  have hline (entry : LogEntry) : Utf8.encode (line time entry) = payload time entry ++ [10] := by
    rw [line, Utf8.encode, List.flatMap_append]
    rfl
  rw [encode, Utf8.encode, List.flatMap_assoc, terminated, List.flatMap_map]
  exact List.flatMap_congr fun entry _ => hline entry

theorem lineFeed_not_mem_payload (time : Nat) (entry : LogEntry) : 10 ∉ payload time entry :=
  Utf8.lineFeed_not_mem_encode (Json.lineFeed_not_mem_text _)

/-- The members of an entry, with its time as it is written or as it is read. -/
def members (time : Json) (entry : LogEntry) : Json.Members :=
  [("event", .string entry.event.name), ("timestamp_ms", time),
    ("analyzer", .string entry.analyzer), ("message", .string entry.message)]

theorem ofJson?_members (time : Json) (entry : LogEntry) :
    ofJson? (.object (members time entry)) = some entry := by
  show (LogEvent.ofName? entry.event.name).map _ = _
  rw [LogEvent.ofName?_name]
  rfl

/-- The texts of an entry may hold anything; its time is a number of 128 bits. -/
theorem ofLine?_payload (time : BitVec 128) (entry : LogEntry) :
    ofLine? (payload time.toNat entry) = some entry := by
  have hlength : (Json.natText time.toNat).length ≤ 39 :=
    Nat.toDigits_length 10 _ 39 (by omega) (lt_trans time.isLt (by norm_num))
  obtain ⟨n, hn⟩ := Json.Number.exists_value? (hlength.trans (by omega))
  have hmembers : List.Forall₂ Json.ReadsMember (members (.ofNat time.toNat) entry)
      (members (.number n) entry) :=
    .cons ⟨rfl, .string _⟩ (.cons ⟨rfl, .natural hn⟩ (.cons ⟨rfl, .string _⟩
      (.cons ⟨rfl, .string _⟩ .nil)))
  have hkeys : ((members (.ofNat time.toNat) entry).map (·.1)).Nodup := by simp [members]
  have hread := Json.ofBytes?_encode_text (by simp [members]) hmembers hkeys
  rw [ofLine?, payload, show toJson time.toNat entry = .object (members _ entry) from rfl, hread,
    Option.bind_some, ofJson?_members]

end LogEntry

namespace Session

variable {fs : FileSystem} {path : String} {file : List String} {session : Session}
  {content : Bytes}

/-- The file system once logs have been recorded one after the other, each at its time. -/
def recordedAll (session : Session) : List (BitVec 128 × List LogEntry) → FileSystem
  | [] => session.fs
  | (time, log) :: recordings =>
    recordedAll { session with fs := session.recorded time.toNat log } recordings

/-- The lines of logs that were recorded one after the other. -/
def payloads (recordings : List (BitVec 128 × List LogEntry)) : List Bytes :=
  recordings.flatMap fun (time, log) => log.map (LogEntry.payload time.toNat)

/-- A recording adds its lines to the file, and nothing where it has none. -/
theorem grown_recorded (hsink : session.sink = .file file) (happends : fs.Appends path file)
    (h : fs.Grown session.fs file content) (time : Nat) (log : List LogEntry) :
    fs.Grown (session.recorded time log) file
      (content ++ terminated (log.map (LogEntry.payload time))) := by
  rw [recorded, hsink, ← LogEntry.encode_eq_terminated]
  dsimp only
  split_ifs with hempty
  · rw [List.isEmpty_iff.1 hempty, show LogEntry.encode time [] = [] from rfl, List.append_nil]
    exact h
  · exact h.append happends _

theorem grown_recordedAll (happends : fs.Appends path file) :
    ∀ (recordings : List (BitVec 128 × List LogEntry)) {session : Session} {content : Bytes},
      session.sink = .file file → fs.Grown session.fs file content →
      fs.Grown (session.recordedAll recordings) file (content ++ terminated (payloads recordings))
  | [], session, content, _, h => by
    rw [show terminated (payloads []) = [] from rfl, List.append_nil]
    exact h
  | (time, log) :: recordings, session, content, hsink, h => by
    have hstep := grown_recorded hsink happends h time.toNat log
    have hrest := @grown_recordedAll happends recordings
      { session with fs := session.recorded time.toNat log } _ hsink hstep
    rw [payloads, List.flatMap_cons, ← payloads, terminated_append, ← List.append_assoc]
    exact hrest

theorem lineFeed_not_mem_payloads (recordings : List (BitVec 128 × List LogEntry)) :
    ∀ line ∈ payloads recordings, 10 ∉ line := by
  intro line hline
  obtain ⟨⟨time, log⟩, -, hline⟩ := List.mem_flatMap.1 hline
  obtain ⟨entry, -, rfl⟩ := List.mem_map.1 hline
  exact LogEntry.lineFeed_not_mem_payload _ _

theorem map_ofLine?_payloads (recordings : List (BitVec 128 × List LogEntry)) :
    (payloads recordings).map LogEntry.ofLine? = (recordings.flatMap (·.2)).map some := by
  have hread (time : BitVec 128) :
      LogEntry.ofLine? ∘ LogEntry.payload time.toNat = some := by
    funext entry
    rw [Function.comp_apply, LogEntry.ofLine?_payload]
  simp only [payloads, List.map_flatMap, List.map_map, hread]

/-- Whatever is recorded in a file that was opened as a log, the file begins with what it held
before. Then there is one line for each entry, in order, from which the entry is read again. These
are lines of their own in a file that held nothing or whole lines. -/
theorem log_file_reads_back {opened : FileSystem} (bundle : Directory)
    (recordings : List (BitVec 128 × List LogEntry))
    (hopen : fs.openForAppend path = .ok (file, opened)) (wf : opened.root.WellFormed) :
    ∃ lines : List Bytes,
      (recordedAll ⟨bundle, .file file, opened⟩ recordings).read path =
        .ok (fs.contentAt path ++ terminated lines)
      ∧ (∀ line ∈ lines, 10 ∉ line)
      ∧ (terminated lines).splitOn 10 = lines ++ [[]]
      ∧ lines.map LogEntry.ofLine? = (recordings.flatMap (·.2)).map some
      ∧ (fs.contentAt path = [] ∨ (fs.contentAt path).getLast? = some 10 →
        (fs.contentAt path ++ terminated lines).splitOn 10 =
          ((fs.contentAt path).splitOn 10).dropLast ++ lines ++ [[]]) := by
  obtain ⟨happends, hgrown⟩ := FileSystem.grown_of_openForAppend hopen wf
  have hafter : fs.Grown (recordedAll ⟨bundle, .file file, opened⟩ recordings) file
      (fs.contentAt path ++ terminated (payloads recordings)) :=
    grown_recordedAll happends recordings rfl hgrown
  have hlines := lineFeed_not_mem_payloads recordings
  exact ⟨payloads recordings, hafter.read happends, hlines, splitOn_terminated hlines,
    map_ofLine?_payloads recordings, splitOn_append_terminated hlines⟩

/-- A log of an earlier run, in which one line stands. -/
def earlierLog : FileSystem where
  root := .dir [("var", .dir [("run.log", .file (Utf8.encode ['o', 'l', 'd', '\n']))])]

/-- Two entries of several lines, with quotes, a control character and letters of more bytes. -/
def unevenEntries : List LogEntry :=
  [⟨.failed, "Speicher\n\"größe\"", "first\nsecond\r\n"⟩, ⟨.warning, "\x00", "💾 \\n"⟩]

theorem log_file_reads_back_of_earlierLog :
    earlierLog.openForAppend "/var/run.log" = .ok (["var", "run.log"], earlierLog)
    ∧ earlierLog.root.WellFormed
    ∧ ∃ lines : List Bytes,
      (recordedAll ⟨⟨["var"], 64⟩, .file ["var", "run.log"], earlierLog⟩
        [(0, unevenEntries), (1, []), (BitVec.allOnes 128, unevenEntries)]).read "/var/run.log" =
          .ok ([111, 108, 100, 10] ++ terminated lines)
      ∧ lines.map LogEntry.ofLine? = (unevenEntries ++ unevenEntries).map some
      ∧ ([111, 108, 100, 10] ++ terminated lines).splitOn 10 =
        [111, 108, 100] :: lines ++ [[]] := by
  have hopen : earlierLog.openForAppend "/var/run.log" = .ok (["var", "run.log"], earlierLog) :=
    FileSystem.openForAppend_eq_ok.2 ⟨by decide, by decide, by decide +kernel,
      by rw [if_pos (by decide +kernel)]⟩
  have wf : earlierLog.root.WellFormed := by decide
  obtain ⟨lines, hread, -, -, hlines, hsplit⟩ := log_file_reads_back ⟨["var"], 64⟩
    [(0, unevenEntries), (1, []), (BitVec.allOnes 128, unevenEntries)] hopen wf
  have hcontent : earlierLog.contentAt "/var/run.log" = [111, 108, 100, 10] := by
    decide +kernel
  rw [hcontent] at hread hsplit
  exact ⟨hopen, wf, lines, hread, hlines, hsplit (.inr rfl)⟩

end Session

end Triage
