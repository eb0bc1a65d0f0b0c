import Outline.Proofs.CommandLine.Arguments
import Outline.Proofs.Report.Writing
import Outline.Service.Handler

set_option autoImplicit false

/-!
# The command and the service agree

The command and the service each build and write reports on their own, take the usual filter at
different places and tell failures in different ways. For the same wish they end with the same
files, and the exit code of the one corresponds to the response of the other.
-/
namespace Outline

variable {fs : FileSystem} {here token : String} {parse : Parser} {room : Option ℕ}

namespace CommandLine

/-- The exit code for what a run gave, or the crash. -/
def exitOf : Except Failure String → Except Crash Int
  | .ok _ => .ok 0
  | .error e =>
    match e.kind with
    | .configuration => .ok 0
    | .file => .ok 1
    | .other => .error (.failure e)

theorem finish_eq [CharacterNames] {r : Reading} {produced : FileSystem × Outcome String}
    (h : produce fs here token r.argument (r.values.lookup "--entities")
      (some ((r.values.lookup "--filter").getD Filter.defaultText)) parse room = produced)
    (threshold : ℕ) :
    (finish fs here token r threshold parse room).files = produced.1 ∧
      (finish fs here token r threshold parse room).exit = exitOf produced.2.result ∧
      (finish fs here token r threshold parse room).written = produced.2.result.toOption := by
  unfold finish exitOf
  rw [h]
  obtain ⟨after, notes, e | path⟩ := produced
  · simp only
    cases e.kind <;> exact ⟨rfl, rfl, rfl⟩
  · exact ⟨rfl, rfl, rfl⟩

end CommandLine

namespace Service

open CommandLine

variable {w : Wish} {e : Failure}

/-! ## Meeting a wish -/

theorem buildFor_eq_ok_iff [CharacterNames] {s : Settings} {report : Report} :
    (buildFor fs here w parse).result = .ok (s, report) ↔
      Settings.make fs here (some w.root) w.entities w.filter = .ok s ∧
        (Report.build fs here s parse).result = .ok report := by
  simp only [buildFor, Outcome.result_bind_eq_ok_iff, Outcome.result_ofResult, Outcome.result_pure]
  constructor
  · rintro ⟨_, hs, _, hreport, heq⟩
    cases heq
    exact ⟨hs, hreport⟩
  · rintro ⟨hs, hreport⟩
    exact ⟨s, hs, report, hreport, rfl⟩

theorem meet_eq_ok [CharacterNames] {report : Report} {path : Option String} (hw : w.write = true)
    (h : (meet fs here token w parse room).2.result = .ok (report, path)) :
    ∃ s, (buildFor fs here w parse).result = .ok (s, report) ∧ path = some s.outputPath ∧
      Report.write fs here token report s.outputPath room =
        ((meet fs here token w parse room).1, .ok ()) := by
  unfold meet at h ⊢
  simp only [hw, if_true] at h ⊢
  split at h
  · cases h
  · rename_i s built hbuilt
    split at h
    · cases h
    · rename_i hwrite
      cases h
      exact ⟨s, hbuilt, rfl, hwrite⟩

/-- The files that a wish must not find when it is met: nothing has the name of its temporary
file. -/
def IsFresh (fs : FileSystem) (here token : String) (w : Wish) : Prop :=
  ∀ s, Settings.make fs here (some w.root) w.entities w.filter = .ok s →
    Report.isUnused fs here (Report.temporaryPath here token s.outputPath)

theorem meet_eq_error [CharacterNames] (hfs : fs.isProper) (hhere : fs.IsWorkingFolder here)
    (hfresh : IsFresh fs here token w) (h : (meet fs here token w parse room).2.result = .error e) :
    (meet fs here token w parse room).1 = fs := by
  unfold meet at h ⊢
  simp only at h ⊢
  split at h
  · rfl
  · rename_i s report hbuilt
    have hunused := hfresh s (buildFor_eq_ok_iff.1 hbuilt).1
    split_ifs at h ⊢ with hw
    · split at h
      · rename_i hwrite
        exact Report.write_eq_error hfs hhere hunused hwrite
      · cases h

theorem meet_of_not_write [CharacterNames] (hw : w.write = false) :
    (meet fs here token w parse room).1 = fs ∧
      (meet fs here token w parse room).2.result =
        (buildFor fs here w parse).result.map fun b => (b.2, none) := by
  unfold meet
  simp only
  cases hbuilt : (buildFor fs here w parse).result with
  | error e => exact ⟨rfl, rfl⟩
  | ok built => simp [hw, Except.map]

/-! ## The command -/

/-- The command does what the service does when it is asked to write. -/
theorem produce_eq_meet [CharacterNames] (fs : FileSystem) (here token : String)
    (hw : w.write = true) :
    (produce fs here token (some w.root) w.entities
        (some (w.filter.getD Filter.defaultText)) parse room).1 =
      (meet fs here token w parse room).1 ∧
    (produce fs here token (some w.root) w.entities
        (some (w.filter.getD Filter.defaultText)) parse room).2.result =
      (meet fs here token w parse room).2.result.map fun done => done.2.getD "" := by
  have hmake : Settings.make fs here (some w.root) w.entities
      (some (w.filter.getD Filter.defaultText)) =
      Settings.make fs here (some w.root) w.entities w.filter := rfl
  have hbuilt : (buildFor fs here w parse).result =
      (Settings.make fs here (some w.root) w.entities w.filter).bind fun s =>
        (Report.build fs here s parse).result.bind fun report => .ok (s, report) := by
    simp [buildFor]
  unfold produce meet
  simp only [hmake, hbuilt, hw, if_true]
  cases Settings.make fs here (some w.root) w.entities w.filter with
  | error e => exact ⟨rfl, rfl⟩
  | ok s =>
    simp only [Except.bind, Report.generate]
    cases (Report.build fs here s parse).result with
    | error e => exact ⟨rfl, rfl⟩
    | ok report =>
      rcases hwrite : Report.write fs here token report s.outputPath room with ⟨after, e | done⟩
      · simp [hwrite, Except.map]
      · simp [hwrite, Except.map]

theorem run_eq_meet [CharacterNames] (fs : FileSystem) (here token : String) (hw : w.write = true)
    (htaken : ∀ text ∈ w.root :: (w.entities.toList ++ w.filter.toList), isTaken text) :
    (run fs here token (argumentsFor w.root w.entities w.filter) parse room).files =
      (meet fs here token w parse room).1 ∧
    (run fs here token (argumentsFor w.root w.entities w.filter) parse room).exit =
      exitOf ((meet fs here token w parse room).2.result.map fun done => done.2.getD "") ∧
    (run fs here token (argumentsFor w.root w.entities w.filter) parse room).written =
      ((meet fs here token w parse room).2.result.map fun done => done.2.getD "").toOption := by
  obtain ⟨hentities, hfilter, -⟩ := lookup_readingFor w.root w.entities w.filter
  have hfinish := @finish_eq fs here token parse room _
    (readingFor w.root w.entities w.filter) _ rfl
    defaultThreshold
  rw [← run_argumentsFor htaken, hentities, hfilter] at hfinish
  obtain ⟨hfiles, hresult⟩ := produce_eq_meet fs here token hw
  exact ⟨hfinish.1.trans hfiles, hresult ▸ hfinish.2⟩

/-- The arguments of a wish begin like no option. -/
def IsPlainWish (w : Wish) : Prop :=
  ∀ text ∈ w.root :: (w.entities.toList ++ w.filter.toList), isPlain text

/-! ## The response -/

theorem fulfil_response [CharacterNames] (fs : FileSystem) (here token : String) (w : Wish) :
    (fulfil fs here token w parse room).response =
      .ofResult (meet fs here token w parse room).2.result := rfl

theorem status_ofFailure (e : Failure) :
    (Response.ofFailure e).status = if e.kind = .configuration then 400 else 500 := by
  unfold Response.ofFailure
  cases e.kind <;> rfl

theorem exists_ok_of_status {result : Except Failure (Report × Option String)}
    (h : (Response.ofResult result).status = 200) : ∃ done, result = .ok done := by
  cases result with
  | error e =>
    rw [Response.ofResult, status_ofFailure] at h
    split_ifs at h <;> omega
  | ok done => exact ⟨done, rfl⟩

/-- How the end of the command corresponds to the answer of the service. -/
structure Agrees [CharacterNames] (fs : FileSystem) (here token : String) (w : Wish)
    (parse : Parser) (room : Option ℕ) (done : Finished) (answer : Handled) : Prop where
  files_eq : done.files = answer.files
  written_iff : done.exit = .ok 0 ∧ done.written.isSome ↔ answer.response.status = 200
  written : answer.response.status = 200 → ∃ report path, done.written = some path ∧
    answer.response = .ofReport report (some path) ∧
    Report.IsWritten fs here report path answer.files
  refused_iff : done.exit = .ok 0 ∧ done.written = none ↔ answer.response.status = 400
  unwritten : answer.response.status ≠ 200 → answer.files = fs
  failed_iff : done.exit = .ok 1 ↔
    ∃ e, (meet fs here token w parse room).2.result = .error e ∧ e.kind = .file
  crashed_iff : ∀ crash, done.exit = .error crash ↔
    ∃ e, crash = .failure e ∧ (meet fs here token w parse room).2.result = .error e ∧
      e.kind = .other

theorem agrees_of_error [CharacterNames] (hfs : fs.isProper) (hhere : fs.IsWorkingFolder here)
    (hfresh : IsFresh fs here token w) (hplain : IsPlainWish w) (hw : w.write = true)
    (hmeet : (meet fs here token w parse room).2.result = .error e) :
    Agrees fs here token w parse room
      (run fs here token (argumentsFor w.root w.entities w.filter) parse room)
      (fulfil fs here token w parse room) := by
  obtain ⟨hfiles, hexit, hwritten⟩ :=
    run_eq_meet fs here token hw fun text htext => isTaken_of_isPlain (hplain text htext)
  rw [hmeet] at hexit hwritten
  simp only [Except.map, exitOf, Except.toOption] at hexit hwritten
  have hstatus : (fulfil fs here token w parse room).response.status =
      if e.kind = .configuration then 400 else 500 := by
    rw [fulfil_response, hmeet, Response.ofResult, status_ofFailure]
  have hsame := meet_eq_error hfs hhere hfresh hmeet
  refine ⟨hfiles, ?_, ?_, ?_, fun _ => hsame, ?_, fun crash => ?_⟩
  · rw [hwritten, hstatus]
    split_ifs <;> simp
  · rw [hstatus]
    split_ifs <;> simp
  · rw [hexit, hwritten, hstatus]
    cases e.kind <;> simp
  · rw [hexit, hmeet]
    cases hkind : e.kind <;> simp [hkind]
  · rw [hexit, hmeet]
    cases hkind : e.kind <;> simp [hkind, eq_comm]

theorem agrees_of_ok [CharacterNames] {done : Report × Option String} (hfs : fs.isProper)
    (hhere : fs.IsWorkingFolder here) (hfresh : IsFresh fs here token w) (hplain : IsPlainWish w)
    (hw : w.write = true) (hmeet : (meet fs here token w parse room).2.result = .ok done) :
    Agrees fs here token w parse room
      (run fs here token (argumentsFor w.root w.entities w.filter) parse room)
      (fulfil fs here token w parse room) := by
  obtain ⟨report, path⟩ := done
  obtain ⟨hfiles, hexit, hwritten⟩ :=
    run_eq_meet fs here token hw fun text htext => isTaken_of_isPlain (hplain text htext)
  obtain ⟨s, hbuilt, rfl, hwrite⟩ := meet_eq_ok hw hmeet
  have hunused := hfresh s (buildFor_eq_ok_iff.1 hbuilt).1
  rw [hmeet] at hexit hwritten
  simp only [Except.map, exitOf, Except.toOption, Option.getD_some] at hexit hwritten
  have hanswer : (fulfil fs here token w parse room).response =
      .ofReport report (some s.outputPath) := by
    rw [fulfil_response, hmeet, Response.ofResult]
  have hstatus : (fulfil fs here token w parse room).response.status = 200 := by
    rw [hanswer]
    rfl
  refine ⟨hfiles, ?_, fun _ => ?_, ?_, fun h => absurd hstatus h, ?_, fun crash => ?_⟩
  · simp [hexit, hwritten, hstatus]
  · exact ⟨report, s.outputPath, hwritten, hanswer,
      Report.isWritten_of_write hfs hhere hunused hwrite⟩
  · simp [hwritten, hstatus]
  · simp [hexit, hmeet]
  · simp [hexit, hmeet]

/-- A request that states a wish. -/
def States (r : Request) (w : Wish) : Prop :=
  r.path = reportPath ∧ r.verb = "POST" ∧ Wish.read r.body = .ok w

theorem States.handle_eq [CharacterNames] {r : Request} (h : States r w) (fs : FileSystem)
    (here token : String) :
    handle fs here token r parse room = fulfil fs here token w parse room := by
  obtain ⟨hpath, hverb, hbody⟩ := h
  simp [handle, hpath, hverb, hbody]

/-- Without writing, a wish changes nothing, and it gives the report that is written otherwise. -/
theorem fulfil_unwritten [CharacterNames] (fs : FileSystem) (here token : String)
    (hw : w.write = true) :
    (fulfil fs here token { w with write := false } parse room).files = fs ∧
    ((fulfil fs here token { w with write := false } parse room).response.status = 200 →
      ∃ report, (fulfil fs here token { w with write := false } parse room).response =
        .ofReport report none) ∧
    ∀ report path, (meet fs here token w parse room).2.result = .ok (report, path) →
      (fulfil fs here token { w with write := false } parse room).response =
        .ofReport report none := by
  obtain ⟨hfiles, hresult⟩ :=
    @meet_of_not_write fs here token parse room { w with write := false } _ rfl
  rw [fulfil_response, hresult]
  refine ⟨hfiles, fun hstatus => ?_, fun report path hmeet => ?_⟩
  · obtain ⟨done, hdone⟩ := exists_ok_of_status hstatus
    cases hbuilt : (buildFor fs here { w with write := false } parse).result with
    | error e =>
      rw [hbuilt] at hdone
      cases hdone
    | ok built => exact ⟨built.2, rfl⟩
  · obtain ⟨s, hbuilt, -⟩ := meet_eq_ok hw hmeet
    -- whether to write is not looked at while the report is built
    have hsame : (buildFor fs here { w with write := false } parse).result = .ok (s, report) :=
      hbuilt
    rw [hsame]
    rfl

/-- The command and a request with the same values, which asks for writing, leave the same files and
end in corresponding ways. Without writing, the request changes nothing and gives the same
report. -/
theorem command_and_service_agree [CharacterNames] {r quiet : Request} (hfs : fs.isProper)
    (hhere : fs.IsWorkingFolder here) (hfresh : IsFresh fs here token w)
    (hplain : IsPlainWish w) (hw : w.write = true) (hr : States r w)
    (hquiet : States quiet { w with write := false }) :
    Agrees fs here token w parse room
      (run fs here token (argumentsFor w.root w.entities w.filter) parse room)
      (handle fs here token r parse room) ∧
    (handle fs here token quiet parse room).files = fs ∧
    ((handle fs here token quiet parse room).response.status = 200 →
      ∃ report, (handle fs here token quiet parse room).response = .ofReport report none) ∧
    ((handle fs here token r parse room).response.status = 200 →
      ∃ report path, (handle fs here token r parse room).response = .ofReport report (some path) ∧
        (handle fs here token quiet parse room).response = .ofReport report none) := by
  obtain ⟨hfiles, hnull, hsame⟩ := fulfil_unwritten fs here token hw
  rw [hr.handle_eq, hquiet.handle_eq]
  refine ⟨?_, hfiles, hnull, fun hstatus => ?_⟩
  · cases hmeet : (meet fs here token w parse room).2.result with
    | error e => exact agrees_of_error hfs hhere hfresh hplain hw hmeet
    | ok done => exact agrees_of_ok hfs hhere hfresh hplain hw hmeet
  · rw [fulfil_response] at hstatus
    obtain ⟨⟨report, path⟩, hmeet⟩ := exists_ok_of_status hstatus
    obtain ⟨s, -, rfl, -⟩ := meet_eq_ok hw hmeet
    refine ⟨report, s.outputPath, ?_, hsame report _ hmeet⟩
    rw [fulfil_response, hmeet, Response.ofResult]

/-- A root with one source, and a report from an earlier run. -/
def earlier : FileSystem :=
  ⟨[("r", .folder [("A.cs", .file "class A \x7b \x7d".toUTF8.toList 0o644),
    ("project_structure.md", .file [] 0o644)])]⟩

/-- A wish for the report on it. -/
def renewal : Wish := ⟨"r", some "r/none", some "bin|obj", true⟩

/-- The body that states it, with or without writing. -/
def renewalBody (write : String) : String :=
  "\x7b\"root_path\": \"r\", \"entities_path\": \"r/none\", \"filter_pattern\": \"bin|obj\", " ++
    "\"write\": " ++ write ++ "\x7d"

theorem command_and_service_agree_renewal :
    States ⟨"post", "/report", renewalBody "true"⟩ renewal ∧
    States ⟨"POST", "/report/", renewalBody "\"off\""⟩ { renewal with write := false } ∧
    Agrees earlier "/" "token" renewal csharp none
      (run earlier "/" "token" ["r", "--entities", "r/none", "--filter", "bin|obj"])
      (handle earlier "/" "token" ⟨"post", "/report", renewalBody "true"⟩) ∧
    (handle earlier "/" "token" ⟨"POST", "/report/", renewalBody "\"off\""⟩).files = earlier := by
  have hstates : States ⟨"post", "/report", renewalBody "true"⟩ renewal :=
    ⟨by decide +kernel, by decide +kernel, Except.eq_ok_of_toOption (by decide +kernel)⟩
  have hquiet :
      States ⟨"POST", "/report/", renewalBody "\"off\""⟩ { renewal with write := false } :=
    ⟨by decide +kernel, by decide +kernel, Except.eq_ok_of_toOption (by decide +kernel)⟩
  have hfresh : IsFresh earlier "/" "token" renewal := by
    intro s hs
    have hmake : Settings.make earlier "/" (some "r") (some "r/none") (some "bin|obj") =
        .ok ⟨"/r", some "/r/none", "bin|obj"⟩ := Except.eq_ok_of_toOption (by decide +kernel)
    cases hmake.symm.trans hs
    decide +kernel
  have hplain : IsPlainWish renewal := by
    unfold IsPlainWish
    decide +kernel
  have hagree := @command_and_service_agree earlier "/" "token" csharp none renewal _ _ _
    (by decide +kernel) ⟨by decide +kernel, by decide +kernel⟩ hfresh hplain rfl hstates hquiet
  exact ⟨hstates, hquiet, hagree.1, hagree.2.1⟩

end Service

end Outline
