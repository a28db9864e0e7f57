import Mathlib.Data.List.Infix
import ScanLauncher.Proofs.Text.Bytes
import ScanLauncher.Run.Body

namespace ScanLauncher

namespace Framing

/-- The parts of some bytes before and behind the last place where a mark stands. -/
def cutLast? (mark : List UInt8) : List UInt8 → Option (List UInt8 × List UInt8)
  | [] => if mark = [] then some ([], []) else none
  | b :: rest =>
    match cutLast? mark rest with
    | some (front, behind) => some (b :: front, behind)
    | none => if mark.isPrefixOf (b :: rest) then some ([], (b :: rest).drop mark.length) else none

theorem cutLast?_eq_none {mark bytes : List UInt8} (hne : mark ≠ []) (h : ¬ mark <:+: bytes) :
    cutLast? mark bytes = none := by
  induction bytes with
  | nil => simp [cutLast?, hne]
  | cons b rest ih =>
    rw [List.infix_cons_iff, not_or] at h
    simp [cutLast?, ih h.2, h.1]

/-- The last place of a mark is where it stands, if it does not stand anywhere behind its first
byte. -/
theorem cutLast?_append {first : UInt8} {mark : List UInt8} (front behind : List UInt8)
    (h : ¬ first :: mark <:+: mark ++ behind) :
    cutLast? (first :: mark) (front ++ (first :: mark ++ behind)) = some (front, behind) := by
  induction front with
  | nil =>
    have hrest := cutLast?_eq_none (List.cons_ne_nil first mark) h
    simp [cutLast?, hrest]
  | cons b front ih => rw [List.cons_append, cutLast?, ih]

/-- What stands before the first of some separators is determined, and so is what stands behind. -/
theorem eq_of_append_cons {α : Type} {a : α} {xs ys xs' ys' : List α} (hxs : a ∉ xs) (hys : a ∉ ys)
    (h : xs ++ a :: xs' = ys ++ a :: ys') : xs = ys ∧ xs' = ys' := by
  induction xs generalizing ys with
  | nil =>
    cases ys with
    | nil => simpa using h
    | cons y ys =>
      obtain ⟨rfl, _⟩ := List.cons_eq_cons.mp h
      exact absurd (.head ys) hys
  | cons x xs ih =>
    cases ys with
    | nil =>
      obtain ⟨rfl, _⟩ := List.cons_eq_cons.mp h
      exact absurd (.head xs) hxs
    | cons y ys =>
      obtain ⟨rfl, hrest⟩ := List.cons_eq_cons.mp h
      obtain ⟨rfl, hbehind⟩ :=
        ih (fun hmem => hxs (.tail x hmem)) (fun hmem => hys (.tail x hmem)) hrest
      exact ⟨rfl, hbehind⟩

private theorem eq_of_append_cons_last {α : Type} {a : α} {xs ys xs' ys' : List α} (hxs : a ∉ xs')
    (hys : a ∉ ys') (h : xs ++ a :: xs' = ys ++ a :: ys') : xs = ys ∧ xs' = ys' := by
  have hreverse := congrArg List.reverse h
  simp only [List.reverse_append, List.reverse_cons, List.append_assoc, List.singleton_append] at hreverse
  obtain ⟨hbehind, hfront⟩ := eq_of_append_cons (by simpa using hxs) (by simpa using hys) hreverse
  exact ⟨List.reverse_inj.mp hfront, List.reverse_inj.mp hbehind⟩

/-- Two bytes stand together on one of the sides of a third one. -/
theorem pair_infix_append_cons {a b c : UInt8} (ha : a ≠ c) (hb : b ≠ c) {xs ys : List UInt8}
    (h : [a, b] <:+: xs ++ c :: ys) : [a, b] <:+: xs ∨ [a, b] <:+: ys := by
  rcases List.infix_append_iff.mp h with h | h | ⟨first, second, hpair, hfirst, hsecond⟩
  · exact .inl h
  · rcases List.infix_cons_iff.mp h with h | h
    · simp [ha] at h
    · exact .inr h
  · rcases second with _ | ⟨byte, second⟩
    · rw [List.append_nil] at hpair
      exact .inl (hpair ▸ hfirst.isInfix)
    · obtain ⟨rfl, _⟩ := List.cons_prefix_cons.mp hsecond
      have hmem : byte ∈ [a, b] := hpair ▸ by simp
      simp [ha.symm, hb.symm] at hmem

/-- The line of a file in a directory, both given in bytes. -/
def line (directory name : List UInt8) : List UInt8 := directory ++ 0x2F :: (name ++ [0x0A])

section Lines

variable {directory : List UInt8} (hdirectory : 0x2F ∉ directory)

include hdirectory

/-- No name is lost among the lines behind it: the next line starts at the last newline before the
first slash. -/
theorem names_of_append {names names' : List (List UInt8)} {name name' : List UInt8}
    (hname : 0x2F ∉ name) (hname' : 0x2F ∉ name') (hnames : ∀ other ∈ names, 0x2F ∉ other)
    (hnames' : ∀ other ∈ names', 0x2F ∉ other)
    (h : name ++ 0x0A :: names.flatMap (line directory) =
      name' ++ 0x0A :: names'.flatMap (line directory)) : name = name' ∧ names = names' := by
  have hsplit (name next : List UInt8) (rest : List (List UInt8)) :
      name ++ 0x0A :: (next :: rest).flatMap (line directory) =
        (name ++ 0x0A :: directory) ++ 0x2F :: (next ++ 0x0A :: rest.flatMap (line directory)) := by
    simp [line]
  have hfree (name : List UInt8) (hname : 0x2F ∉ name) : 0x2F ∉ name ++ 0x0A :: directory := by
    simp [hname, hdirectory]
  have hslash {name name' next : List UInt8} {rest : List (List UInt8)} (hname : 0x2F ∉ name) :
      name ++ 0x0A :: ([] : List (List UInt8)).flatMap (line directory) ≠
        name' ++ 0x0A :: (next :: rest).flatMap (line directory) := by
    intro hsame
    have hmem : (0x2F : UInt8) ∈ name' ++ 0x0A :: (next :: rest).flatMap (line directory) := by
      simp [line]
    rw [← hsame] at hmem
    simp [hname] at hmem
  induction names generalizing name name' names' with
  | nil =>
    cases names' with
    | nil => simpa using h
    | cons next' rest' => exact absurd h (hslash hname)
  | cons next rest ih =>
    cases names' with
    | nil => exact absurd h.symm (hslash hname')
    | cons next' rest' =>
      rw [hsplit, hsplit] at h
      obtain ⟨hfront, hbehind⟩ := eq_of_append_cons (hfree name hname) (hfree name' hname') h
      rw [List.append_cancel_right_eq] at hfront
      obtain ⟨rfl, rfl⟩ := ih (hnames next (.head rest)) (hnames' next' (.head rest'))
        (fun other hother => hnames other (.tail next hother))
        (fun other hother => hnames' other (.tail next' hother)) hbehind
      exact ⟨hfront, rfl⟩

private theorem names_of_lines {names names' : List (List UInt8)} (hnames : ∀ name ∈ names, 0x2F ∉ name)
    (hnames' : ∀ name ∈ names', 0x2F ∉ name)
    (h : names.flatMap (line directory) = names'.flatMap (line directory)) : names = names' := by
  cases names with
  | nil => cases names' <;> simp [line] at h ⊢
  | cons name rest =>
    cases names' with
    | nil => simp [line] at h
    | cons name' rest' =>
      simp only [List.flatMap_cons, line, List.append_assoc, List.cons_append,
        List.append_cancel_left_eq, List.cons.injEq, true_and, List.nil_append] at h
      obtain ⟨rfl, rfl⟩ := names_of_append hdirectory (hnames name (.head rest))
        (hnames' name' (.head rest')) (fun other hother => hnames other (.tail name hother))
        (fun other hother => hnames' other (.tail name' hother)) h
      rfl

variable (hlast : directory.getLast? ≠ some 0x3C)

include hlast

private theorem not_infix_lines {front : List UInt8} (hfront : ¬ [0x3C, 0x2F] <:+: front)
    {names : List (List UInt8)} (hnames : ∀ name ∈ names, 0x2F ∉ name) :
    ¬ [0x3C, 0x2F] <:+: front ++ 0x0A :: names.flatMap (line directory) := by
  have hline (name : List UInt8) (hname : 0x2F ∉ name) :
      ¬ [0x3C, 0x2F] <:+: directory ++ 0x2F :: name := by
    intro h
    rcases List.infix_append_iff.mp h with h | h | ⟨first, second, hpair, hfirst, hsecond⟩
    · exact hdirectory (h.subset (by simp))
    · rcases List.infix_cons_iff.mp h with h | h
      · simp at h
      · exact hname (h.subset (by simp))
    · have hfree : 0x2F ∉ first := fun hmem => hdirectory (hfirst.subset hmem)
      rcases second with _ | ⟨byte, second⟩
      · rw [List.append_nil] at hpair
        exact hfree (hpair ▸ by simp)
      · obtain ⟨rfl, _⟩ := List.cons_prefix_cons.mp hsecond
        have hpair : [0x3C] ++ 0x2F :: [] = first ++ 0x2F :: second := hpair
        obtain ⟨rfl, _⟩ := eq_of_append_cons (by decide) hfree hpair
        obtain ⟨start, rfl⟩ := hfirst
        simp at hlast
  induction names generalizing front with
  | nil =>
    intro h
    rcases pair_infix_append_cons (by decide) (by decide) h with h | h
    · exact hfront h
    · simp at h
  | cons name rest ih =>
    intro h
    rcases pair_infix_append_cons (by decide) (by decide) h with h | h
    · exact hfront h
    · refine ih (hline name (hnames name (.head rest)))
        (fun other hother => hnames other (.tail name hother)) ?_
      simpa [line] using h

end Lines

end Framing

namespace Text

theorem toList_decimalInt (n : Int) :
    (decimalInt n).toList = (if n < 0 then ['-'] else []) ++ Nat.toDigits 10 n.natAbs := by
  unfold decimalInt decimal
  split <;> simp

theorem isDigit_of_mem_decimalInt {n : Int} {c : Char} (hc : c ∈ (decimalInt n).toList) :
    c = '-' ∨ c.isDigit = true := by
  rw [toList_decimalInt, List.mem_append] at hc
  rcases hc with hc | hc
  · split at hc
    · exact .inl (List.mem_singleton.mp hc)
    · cases hc
  · exact .inr (Nat.isDigit_of_mem_toDigits (by decide) (by decide) hc)

private theorem decimalInt_injective {m n : Int} (h : decimalInt m = decimalInt n) : m = n := by
  have hchars : (if m < 0 then ['-'] else []) ++ Nat.toDigits 10 m.natAbs =
      (if n < 0 then ['-'] else []) ++ Nat.toDigits 10 n.natAbs := by
    rw [← toList_decimalInt, ← toList_decimalInt, h]
  have hsign {k l : Nat} : '-' :: Nat.toDigits 10 k ≠ Nat.toDigits 10 l := by
    intro hsame
    have hmem : '-' ∈ Nat.toDigits 10 l := hsame ▸ .head _
    have hdigit := Nat.isDigit_of_mem_toDigits (by decide) (by decide) hmem
    cases hdigit
  have hdigits {k l : Nat} (hsame : Nat.toDigits 10 k = Nat.toDigits 10 l) : k = l := by
    rw [← Nat.ofDigitChars_ten_toDigits (n := k), hsame, Nat.ofDigitChars_ten_toDigits]
  by_cases hm : m < 0
  · by_cases hn : n < 0
    · simp only [hm, hn, if_true, List.cons_append, List.nil_append, List.cons.injEq, true_and] at hchars
      have habs := hdigits hchars
      omega
    · simp only [hm, hn, if_true, if_false, List.cons_append, List.nil_append] at hchars
      exact absurd hchars hsign
  · by_cases hn : n < 0
    · simp only [hm, hn, if_true, if_false, List.cons_append, List.nil_append] at hchars
      exact absurd hchars.symm hsign
    · simp only [hm, hn, if_false, List.nil_append] at hchars
      have habs := hdigits hchars
      omega

end Text

namespace Outcome

/-- An exit status in words holds neither of the two characters by which a status line is told. -/
theorem not_mem_statusText (outcome : Outcome) :
    ' ' ∉ outcome.statusText.toList ∧ 's' ∉ outcome.statusText.toList := by
  unfold statusText
  cases outcome.exitStatus with
  | none => decide
  | some status =>
    refine ⟨fun hmem => ?_, fun hmem => ?_⟩
    all_goals
      rcases Text.isDigit_of_mem_decimalInt hmem with hsign | hdigit
      · cases hsign
      · cases hdigit

private theorem exitStatus_of_statusText {outcome outcome' : Outcome}
    (h : outcome.statusText = outcome'.statusText) : outcome.exitStatus = outcome'.exitStatus := by
  have hnone (status : Int) : Text.decimalInt status ≠ "None" := by
    intro hsame
    have hmem : 'N' ∈ (Text.decimalInt status).toList := by
      rw [hsame]
      decide
    rcases Text.isDigit_of_mem_decimalInt hmem with hsign | hdigit
    · cases hsign
    · cases hdigit
  unfold statusText at h
  cases hstatus : outcome.exitStatus with
  | none =>
    cases hstatus' : outcome'.exitStatus with
    | none => rfl
    | some status' => exact absurd (by simpa [hstatus, hstatus'] using h.symm) (hnone status')
  | some status =>
    cases hstatus' : outcome'.exitStatus with
    | none => exact absurd (by simpa [hstatus, hstatus'] using h) (hnone status)
    | some status' =>
      rw [hstatus, hstatus'] at h
      exact congrArg some (Text.decimalInt_injective h)

end Outcome

namespace Body

theorem append_statusLine_of_timedOut {config : Config} {outcome : Outcome}
    (h : outcome.timedOut = true) (output : List UInt8) :
    output ++ statusLine config outcome = output ++ Utf8.encode ("\n[timed out after ".toList ++
      config.tool.timeout.briefText.toList ++ " second".toList) ++ [0x73] ++ [0x5D, 0x0A] := by
  have hend : Utf8.encode " seconds]\n".toList =
      Utf8.encode " second".toList ++ [0x73] ++ [0x5D, 0x0A] := by decide
  simp only [statusLine, h, if_true, String.toList_append, Utf8.encode_append, hend,
    List.append_assoc]

theorem append_statusLine_of_exit (config : Config) {outcome : Outcome}
    (h : outcome.timedOut = false) (output : List UInt8) :
    output ++ statusLine config outcome = output ++ Utf8.encode "\n[exit status:".toList ++
      0x20 :: Utf8.encode outcome.statusText.toList ++ [0x5D, 0x0A] := by
  have hstart : Utf8.encode "\n[exit status: ".toList =
      Utf8.encode "\n[exit status:".toList ++ [0x20] := by decide
  have hend : Utf8.encode "]\n".toList = [0x5D, 0x0A] := by decide
  simp only [statusLine, h, Bool.false_eq_true, if_false, String.toList_append, Utf8.encode_append,
    hstart, hend, List.append_assoc, List.cons_append, List.nil_append]

/-- The last letter in the brackets: that of a timeout ends no exit status. -/
theorem append_statusLine_ne {config : Config} {outcome outcome' : Outcome}
    (h : outcome.timedOut = true) (h' : outcome'.timedOut = false) (output output' : List UInt8) :
    output ++ statusLine config outcome ≠ output' ++ statusLine config outcome' := by
  intro hsame
  rw [append_statusLine_of_timedOut h, append_statusLine_of_exit config h',
    List.append_cancel_right_eq] at hsame
  have hlast : (0x20 :: Utf8.encode outcome'.statusText.toList).getLast? = some 0x73 := by
    have hend := congrArg List.getLast? hsame
    rwa [List.getLast?_concat, List.getLast?_append_of_ne_nil _ (List.cons_ne_nil _ _), eq_comm] at hend
  rcases List.mem_cons.mp (List.mem_of_getLast? hlast) with hspace | hletter
  · cases hspace
  · exact outcome'.not_mem_statusText.2 (Utf8.mem_of_mem_encode hletter (by decide))

/-- The status line is told from the output before it, and says how the run ended. -/
theorem status_of_append {config : Config} {output output' : List UInt8} {outcome outcome' : Outcome}
    (h : output ++ statusLine config outcome = output' ++ statusLine config outcome') :
    output = output' ∧ outcome.timedOut = outcome'.timedOut ∧
      (outcome.timedOut = false → outcome.exitStatus = outcome'.exitStatus) := by
  cases hout : outcome.timedOut with
  | true =>
    cases hout' : outcome'.timedOut with
    | true =>
      rw [append_statusLine_of_timedOut hout, append_statusLine_of_timedOut hout'] at h
      simp only [List.append_cancel_right_eq] at h
      exact ⟨h, rfl, nofun⟩
    | false => exact absurd h (append_statusLine_ne hout hout' _ _)
  | false =>
    cases hout' : outcome'.timedOut with
    | true => exact absurd h.symm (append_statusLine_ne hout' hout _ _)
    | false =>
      have hspace (o : Outcome) : 0x20 ∉ Utf8.encode o.statusText.toList := fun hmem =>
        o.not_mem_statusText.1 (Utf8.mem_of_mem_encode hmem (by decide))
      rw [append_statusLine_of_exit config hout, append_statusLine_of_exit config hout',
        List.append_cancel_right_eq] at h
      obtain ⟨hfront, hstatus⟩ := Framing.eq_of_append_cons_last (hspace _) (hspace _) h
      have htext := String.toList_inj.mp (Utf8.encode_injective hstatus)
      exact ⟨List.append_cancel_right hfront, rfl, fun _ => Outcome.exitStatus_of_statusText htext⟩

theorem reportLine?_eq_some {report : ReportFile} {bytes : List UInt8} :
    reportLine? report = some bytes ↔ ∃ directory name, report.directoryName.toUtf8? = some directory ∧
      report.relativePath.toUtf8? = some name ∧ bytes = Framing.line directory name := by
  have hslash : (Text.ofString "/").toUtf8? = some [0x2F] := by decide
  simp only [reportLine?, ReportFile.displayPath, Option.map_eq_some_iff, Text.toUtf8?_append, hslash]
  constructor
  · rintro ⟨_, ⟨_, name, ⟨directory, _, hdirectory, ⟨⟩, rfl⟩, hname, rfl⟩, rfl⟩
    exact ⟨directory, name, hdirectory, hname, by simp [Framing.line]⟩
  · rintro ⟨directory, name, hdirectory, hname, rfl⟩
    exact ⟨_, ⟨_, name, ⟨directory, _, hdirectory, rfl, rfl⟩, hname, rfl⟩, by simp [Framing.line]⟩

/-- Reports that can be shown: files of one directory, by names without slashes that are text. -/
def AreShown (directory : Text) (reports : List ReportFile) : Prop :=
  ∀ report ∈ reports, report.directoryName = directory ∧
    Glyph.char '/' ∉ report.relativePath.glyphs ∧ (reportLine? report).isSome = true

/-- The lines of some reports. -/
def reportSection (reports : List ReportFile) : List UInt8 :=
  reports.flatMap fun report => (reportLine? report).getD []

/-- The bytes of a directory's name, and of a file's. -/
def nameBytes (name : Text) : List UInt8 := name.toUtf8?.getD []

theorem not_mem_nameBytes {name : Text} (hname : Glyph.char '/' ∉ name.glyphs) :
    0x2F ∉ nameBytes name := by
  intro hmem
  cases hbytes : name.toUtf8? with
  | none => simp [nameBytes, hbytes] at hmem
  | some bytes =>
    obtain ⟨cs, rfl, rfl⟩ := Text.exists_chars hbytes
    rw [nameBytes, hbytes] at hmem
    exact hname (List.mem_map_of_mem (Utf8.mem_of_mem_encode hmem (by decide)))

theorem getLast?_nameBytes {name : Text} (hname : name.glyphs.getLast? ≠ some (Glyph.char '<')) :
    (nameBytes name).getLast? ≠ some 0x3C := by
  intro hlast
  cases hbytes : name.toUtf8? with
  | none => simp [nameBytes, hbytes] at hlast
  | some bytes =>
    obtain ⟨cs, rfl, rfl⟩ := Text.exists_chars hbytes
    rw [nameBytes, hbytes] at hlast
    have hchar := Utf8.getLast?_of_encode hlast (by decide)
    refine hname ?_
    rw [Text.ofChars, List.getLast?_map, hchar]
    rfl

/-- The section of reports is made of one line for each name. -/
theorem reportSection_eq {directory : Text} {reports : List ReportFile}
    (h : AreShown directory reports) :
    reportSection reports = (reports.map fun report => nameBytes report.relativePath).flatMap
      (Framing.line (nameBytes directory)) := by
  rw [reportSection, List.flatMap_map]
  refine List.flatMap_congr fun report hreport => ?_
  obtain ⟨rfl, _, hline⟩ := h report hreport
  obtain ⟨bytes, hline⟩ := Option.isSome_iff_exists.mp hline
  obtain ⟨directory, name, hdirectory, hname, rfl⟩ := reportLine?_eq_some.mp hline
  simp [hline, nameBytes, hdirectory, hname]

theorem AreShown.names {directory : Text} {reports : List ReportFile} (h : AreShown directory reports) :
    ∀ name ∈ reports.map fun report => nameBytes report.relativePath, 0x2F ∉ name := by
  intro name hname
  obtain ⟨report, hreport, rfl⟩ := List.mem_map.mp hname
  exact not_mem_nameBytes (h report hreport).2.1

private theorem AreShown.eq_of_nameBytes {directory : Text} {reports reports' : List ReportFile}
    (h : AreShown directory reports) (h' : AreShown directory reports') {report report' : ReportFile}
    (hmem : report ∈ reports) (hmem' : report' ∈ reports')
    (hname : nameBytes report.relativePath = nameBytes report'.relativePath) : report = report' := by
  obtain ⟨hdirectory, _, hline⟩ := h report hmem
  obtain ⟨hdirectory', _, hline'⟩ := h' report' hmem'
  obtain ⟨bytes, hline⟩ := Option.isSome_iff_exists.mp hline
  obtain ⟨bytes', hline'⟩ := Option.isSome_iff_exists.mp hline'
  obtain ⟨_, name, _, htext, _⟩ := reportLine?_eq_some.mp hline
  obtain ⟨_, name', _, htext', _⟩ := reportLine?_eq_some.mp hline'
  obtain rfl : name = name' := by simpa [nameBytes, htext, htext'] using hname
  obtain ⟨_, relativePath⟩ := report
  obtain ⟨_, relativePath'⟩ := report'
  rw [ReportFile.mk.injEq]
  exact ⟨hdirectory.trans hdirectory'.symm, Text.eq_of_toUtf8? htext htext'⟩

private theorem reports_of_section {directory : Text} (hdirectory : Glyph.char '/' ∉ directory.glyphs)
    {reports reports' : List ReportFile} (h : AreShown directory reports)
    (h' : AreShown directory reports') (hsame : reportSection reports = reportSection reports') :
    reports = reports' := by
  rw [reportSection_eq h, reportSection_eq h'] at hsame
  have hnames := Framing.names_of_lines (not_mem_nameBytes hdirectory) h.names h'.names hsame
  clear hsame
  induction reports generalizing reports' with
  | nil => exact (List.map_eq_nil_iff.mp hnames.symm).symm
  | cons report rest ih =>
    cases reports' with
    | nil => cases hnames
    | cons report' rest' =>
      obtain ⟨hname, hrest⟩ := List.cons_eq_cons.mp hnames
      obtain rfl := ih (fun other hother => h other (.tail report hother))
        (fun other hother => h' other (.tail report' hother)) hrest
      rw [h.eq_of_nameBytes h' (.head rest) (.head rest) hname]

/-- The whole response of a run, from the output of its script and from its outcome. -/
def framed (config : Config) (output : List UInt8) (outcome : Outcome) : List UInt8 :=
  openMark ++ (output ++ statusLine config outcome) ++
    (closeMark ++ sentinelMark ++ reportSection (outcome.reports.getD []))

section Framed

variable {config : Config} (hdirectory : Glyph.char '/' ∉ config.reportDir.name.glyphs)
  (hlast : config.reportDir.name.glyphs.getLast? ≠ some (Glyph.char '<'))

include hdirectory hlast

/-- The last place of the two marks is where the section of reports starts. -/
theorem cutLast?_framed (output : List UInt8) {outcome : Outcome}
    (hshown : AreShown config.reportDir.name (outcome.reports.getD [])) :
    Framing.cutLast? (closeMark ++ sentinelMark) (framed config output outcome) =
      some (openMark ++ (output ++ statusLine config outcome),
        reportSection (outcome.reports.getD [])) := by
  have hmark : closeMark ++ sentinelMark =
      0x3C :: 0x2F :: (Utf8.encode "pre>\n__reports__".toList ++ [0x0A]) := by decide
  have hfront : ¬ [0x3C, 0x2F] <:+: 0x2F :: Utf8.encode "pre>\n__reports__".toList := by decide
  have hnone := Framing.not_infix_lines (not_mem_nameBytes hdirectory) (getLast?_nameBytes hlast)
    hfront hshown.names
  rw [framed, hmark]
  refine Framing.cutLast?_append _ _ fun hinfix => hnone ?_
  rw [← reportSection_eq hshown]
  have hpair : [0x3C, 0x2F] <:+: 0x3C :: 0x2F :: (Utf8.encode "pre>\n__reports__".toList ++ [0x0A]) :=
    (List.prefix_append [0x3C, 0x2F] _).isInfix
  simpa using hpair.trans hinfix

theorem framed_injective {output output' : List UInt8} {outcome outcome' : Outcome}
    (hshown : AreShown config.reportDir.name (outcome.reports.getD []))
    (hshown' : AreShown config.reportDir.name (outcome'.reports.getD []))
    (h : framed config output outcome = framed config output' outcome') :
    output = output' ∧ outcome.timedOut = outcome'.timedOut ∧
      (outcome.timedOut = false → outcome.exitStatus = outcome'.exitStatus) ∧
      outcome.reports.getD [] = outcome'.reports.getD [] := by
  have hcut := cutLast?_framed hdirectory hlast output hshown
  rw [h, cutLast?_framed hdirectory hlast output' hshown', Option.some.injEq, Prod.mk.injEq] at hcut
  obtain ⟨hfront, hsection⟩ := hcut
  obtain ⟨houtput, htime, hexit⟩ := status_of_append (List.append_cancel_left hfront)
  exact ⟨houtput.symm, htime.symm, fun hnot => (hexit (htime.trans hnot)).symm,
    (reports_of_section hdirectory hshown' hshown hsection).symm⟩

end Framed

end Body
end ScanLauncher
