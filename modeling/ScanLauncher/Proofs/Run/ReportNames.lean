import ScanLauncher.Proofs.Run.Framing
import ScanLauncher.Proofs.Run.Grammar
import ScanLauncher.Proofs.Text.Decoding

namespace ScanLauncher

/-- The report that is a file with the given bytes for its name, in a directory. -/
def ReportFile.ofName (directoryName : Text) (name : List UInt8) : ReportFile :=
  ⟨directoryName, .ofBytes name⟩

variable {directoryName : Text} {directory : List UInt8}

/-- The line of a report is made of the bytes of its name, if these are UTF-8. -/
theorem Body.reportLine?_ofName (hdirectory : directoryName.toUtf8? = some directory)
    (name : List UInt8) :
    reportLine? (.ofName directoryName name) =
      if Utf8.isValid name then some (Framing.line directory name) else none := by
  have hname : (ReportFile.ofName directoryName name).relativePath.toUtf8? =
      if Utf8.isValid name then some name else none := Text.toUtf8?_ofBytes name
  cases hvalid : Utf8.isValid name with
  | true =>
    rw [hvalid, if_pos rfl] at hname
    exact reportLine?_eq_some.mpr ⟨directory, name, hdirectory, hname, rfl⟩
  | false =>
    rw [hvalid] at hname
    cases hline : reportLine? (.ofName directoryName name) with
    | none => rfl
    | some bytes =>
      obtain ⟨_, name', _, hname', _⟩ := reportLine?_eq_some.mp hline
      rw [hname] at hname'
      cases hname'

namespace Transcript

private theorem lines_ofName (hdirectory : directoryName.toUtf8? = some directory)
    (names : List (List UInt8)) :
    lines (names.map (.ofName directoryName)) =
      (names.takeWhile Utf8.isValid).map (Framing.line directory) := by
  induction names with
  | nil => rfl
  | cons name rest ih =>
    rw [List.map_cons, lines, Body.reportLine?_ofName hdirectory, List.takeWhile_cons]
    cases hvalid : Utf8.isValid name <;> simp [ih]

private theorem areTexts_ofName (hdirectory : directoryName.toUtf8? = some directory)
    (names : List (List UInt8)) :
    areTexts (names.map (.ofName directoryName)) = names.all Utf8.isValid := by
  rw [areTexts, List.all_map]
  refine List.all_congr rfl fun name => ?_
  rw [Function.comp_apply, Body.reportLine?_ofName hdirectory]
  cases Utf8.isValid name <;> rfl

private theorem items_ofName {run : Run} {w : World} {t : Transcript run w}
    (hdirectory : run.config.reportDir.name.toUtf8? = some directory) {names : List (List UInt8)}
    (houtput : t.output = .ok ())
    (hlisting : t.listing = .ok (names.map (.ofName run.config.reportDir.name))) :
    t.items = Body.openMark :: (t.chunks ++ Utf8.encode t.statusText.toList :: Body.closeMark ::
        Body.sentinelMark :: (names.takeWhile Utf8.isValid).map (Framing.line directory)) ∧
      t.ending = if names.all Utf8.isValid then .ok () else .error .notEncodable := by
  constructor
  · rw [items_late houtput, reportItems, hlisting]
    simp only [lines_ofName hdirectory]
  · rw [ending_of_output houtput]
    simp [work, houtput, hlisting, bind, Except.bind, areTexts_ofName hdirectory]

end Transcript

/-- What was read of a body behind its first four items, how it ended and what became of its run. -/
def Body.Reading.summary (reading : Body.Reading) :
    List (List UInt8) × Option (Except Failure Unit) × RunState × Option Outcome :=
  (reading.items.drop 4, reading.ended, reading.body.run.state, reading.body.run.outcome)

namespace Run

variable {config : Config} {url revision subdir : Option Text} {w w' : World} {run : Run}

private theorem exists_agreeing (hstart : start url revision subdir { config } w = ((.ok (), run), w')) :
    run.config = config ∧ ∃ t : Transcript run w', ∀ n, t.Agrees n (Body.take n { run } w') := by
  obtain ⟨t, hconfig, _, _, hheld, haccounted⟩ := exists_transcript_of_start hstart
  exact ⟨hconfig, t, Transcript.agrees_take hheld haccounted⟩

/-- A run whose output has ended well and whose report directory could be looked into lists its
reports in order, one line each, up to the first whose name is not UTF-8. It is done if there is no
such report, and else it has failed: the name that a script gives to one of its files decides. -/
theorem report_list_until_undecodable
    (hstart : start url revision subdir { config } w = ((.ok (), run), w'))
    (hdirectory : config.reportDir.name.toUtf8? = some directory) :
    ∃ t : Transcript run w', (∀ n, t.Agrees n (Body.take n { run } w')) ∧
      ∀ names : List (List UInt8), t.output = .ok () →
        t.listing = .ok (names.map (.ofName config.reportDir.name)) →
        t.items = Body.openMark :: (t.chunks ++ Utf8.encode t.statusText.toList ::
          Body.closeMark :: Body.sentinelMark ::
            (names.takeWhile Utf8.isValid).map (Framing.line directory)) ∧
        ∀ n, t.items.length < n →
          let reading := Body.take n { run } w'
          reading.items = t.items ∧
            reading.ended = some (if names.all Utf8.isValid then .ok () else .error .notEncodable) ∧
            reading.body.run.state = if names.all Utf8.isValid then .done else .failed := by
  obtain ⟨rfl, t, hagrees⟩ := exists_agreeing hstart
  refine ⟨t, hagrees, fun names houtput hlisting => ?_⟩
  obtain ⟨hitems, hending⟩ := Transcript.items_ofName hdirectory houtput hlisting
  refine ⟨hitems, fun n hn => ?_⟩
  have hn' : ¬ n ≤ t.items.length := Nat.not_le_of_lt hn
  have hended : (Body.take n { run } w').ended = some t.ending := by
    rw [(hagrees n).ended, if_neg hn']
  refine ⟨?_, by rw [hended, hending], ?_⟩
  · rw [(hagrees n).items, List.take_of_length_le (Nat.le_of_lt hn)]
  · cases hvalid : names.all Utf8.isValid with
    | true =>
      refine (hagrees n).isDone.mpr ?_
      rw [hended, hending, hvalid]
      rfl
    | false =>
      refine (hagrees n).isFailed .notEncodable ?_
      rw [hended, hending, hvalid]
      rfl

/-- A script that leaves two reports, one with a name that is not UTF-8. -/
def strayScript : World where
  files := { tree := ⟨[(["o"], .directory)]⟩, cwd := [] }
  specs := [{
    output := [.change [.file "/o/r/a" [] false, .file ("/o/r/" ++ .ofBytes [0xFF]) [] false]] }]

/-- The run of `strayScript`. -/
def strayRun : (Except Failure Unit × Run) × World :=
  start none none none { config := plainConfig } strayScript

/-- What is read of the body of `strayRun` to its end. -/
def strayReading : Body.Reading := Body.take 7 { run := strayRun.1.2 } strayRun.2

/-- What the only session of `strayRun` says when it is read, what is listed then, and what is read of
the body. -/
theorem list_strayRun :
    (strayRun.1.2.sessions.map fun session =>
        let step := Session.next { session with reader := .fresh } strayRun.2
        (step.1.1, (Report.list strayRun.1.2.config.reportDir step.2).1),
      strayReading.summary) =
    ([(.ok none, .ok ([[0x61], [0xFF]].map (.ofName "r")))],
      [Framing.line [0x72] [0x61]], some (.error .notEncodable), .failed,
      some {
        request := .normalize none none none
        exitStatus := some 0
        reports := some ([[0x61], [0xFF]].map (.ofName "r")) }) := by
  cbv

/-- The line of the first report is the last item, and the run has failed. -/
theorem report_list_until_undecodable_strayRun :
    ∃ t : Transcript strayRun.1.2 strayRun.2,
      t.items.drop (t.chunks.length + 4) = [Framing.line [0x72] [0x61]] ∧
        ∀ n, t.items.length < n →
          (Body.take n { run := strayRun.1.2 } strayRun.2).body.run.state = .failed := by
  have hname : plainConfig.reportDir.name = "r" := by decide +kernel
  have hdirectory : plainConfig.reportDir.name.toUtf8? = some [0x72] := by
    rw [hname]
    decide +kernel
  obtain ⟨hstep, _⟩ := Prod.mk.inj list_strayRun
  obtain ⟨run, w', hstart, _⟩ := exists_start_plainConfig none none none (w := strayScript)
    rfl rfl rfl rfl rfl
  have hrun : strayRun = ((.ok (), run), w') := hstart
  rw [hrun] at hstep ⊢
  obtain ⟨t, _, hlists⟩ := report_list_until_undecodable hstart hdirectory
  rw [t.sessions_eq] at hstep
  obtain ⟨hnext, hlist⟩ := Prod.mk.inj (List.singleton_inj.mp hstep)
  obtain ⟨_, houtput, heq⟩ | ⟨failure, _, _, heq⟩ | ⟨chunk, _, _, _, _, heq, _⟩ :=
    t.produces.next_cases
  · rw [heq] at hlist
    obtain ⟨hitems, hend⟩ := hlists [[0x61], [0xFF]] houtput (by rw [hname]; exact hlist)
    have hvalid : [[0x61], [0xFF]].takeWhile Utf8.isValid = [[0x61]] := by decide +kernel
    have hinvalid : [[0x61], [0xFF]].all Utf8.isValid = false := by decide +kernel
    refine ⟨t, by simp [hitems, hvalid], fun n hn => ?_⟩
    have hstate := (hend n hn).2.2
    rwa [hinvalid] at hstate
  · rw [heq] at hnext
    cases hnext
  · rw [heq] at hnext
    cases hnext

/-- The script has ended well and both reports were found, but the body hands out the line of one of
them and then fails, and so does the run. -/
theorem report_list_incomplete :
    strayReading.summary =
      ([Framing.line [0x72] [0x61]], some (.error .notEncodable), .failed,
        some {
          request := .normalize none none none
          exitStatus := some 0
          reports := some ([[0x61], [0xFF]].map (.ofName "r")) }) :=
  (Prod.mk.inj list_strayRun).2

end Run

end ScanLauncher
