import Mathlib.Data.List.Infix
import Mathlib.Data.List.Nodup
import HttpBench.Logging.Files

/-!
# What a clean-up removes

The name of a log file begins like that of the program and holds the mark of a log behind that, with anything between
the two and anything behind (`LogFiles.isLogName_iff`). All names that the program gives its own files are such names
(`LogFiles.Own.isLogName`), but not the other way round: what another program calls `latency_benchmark.log` is taken
for a log file too.

A clean-up removes the log files that are old enough, and leaves everything else where it is
(`LogFiles.cleanUp_exact`). To take the files out one after the other, each by its name, comes to the same
(`LogFiles.sweep_eq`).
-/

namespace HttpBench.LogFiles

/-! ## Names -/

/-- A text occurs in another one exactly if something may stand before it and behind it. -/
theorem occursIn_iff (pattern text : List Char) : occursIn pattern text = true ↔ pattern <:+: text := by
  induction text with
  | nil => rw [occursIn, List.isEmpty_iff, List.infix_nil]
  | cons c text ih => rw [occursIn, Bool.or_eq_true, List.isPrefixOf_iff_prefix, ih, List.infix_cons_iff]

/-- What begins with a character that is not in front occurs behind. -/
theorem infix_of_infix_append {c : Char} {pattern front text : List Char} (hc : c ∉ front)
    (h : c :: pattern <:+: front ++ text) : c :: pattern <:+: text := by
  induction front with
  | nil => exact h
  | cons a front ih =>
    rw [List.mem_cons, not_or] at hc
    rcases List.infix_cons_iff.mp h with hprefix | hinfix
    · exact absurd (List.cons_prefix_cons.mp hprefix).1 hc.1
    · exact ih hc.2 hinfix

/-- **The name of a log file** is that of the program, the mark of a log somewhere behind it, and anything else. -/
theorem isLogName_iff (name : String) :
    isLogName name = true ↔ ∃ middle rest, name = stem ++ middle ++ mark ++ rest := by
  rw [isLogName, Bool.and_eq_true, List.isPrefixOf_iff_prefix, occursIn_iff]
  constructor
  · rintro ⟨⟨tail, htail⟩, hmark⟩
    have hbehind : mark.toList <:+: tail := by
      rw [← htail] at hmark
      exact infix_of_infix_append (by decide +kernel) hmark
    obtain ⟨middle, rest, hrest⟩ := hbehind
    refine ⟨.ofList middle, .ofList rest, String.toList_inj.mp ?_⟩
    simp only [String.toList_append, String.toList_ofList, ← htail, ← hrest, List.append_assoc]
  · rintro ⟨middle, rest, rfl⟩
    simp only [String.toList_append]
    exact ⟨⟨middle.toList ++ (mark.toList ++ rest.toList), by simp only [List.append_assoc]⟩,
      ⟨stem.toList ++ middle.toList, rest.toList, rfl⟩⟩

/-- **A name that the program gives**: that of its log, with or without a suffix behind a point. -/
def Own (name : String) : Prop := name = stem ++ mark ∨ ∃ suffix, suffix ≠ "" ∧ name = stem ++ mark ++ "." ++ suffix

/-- The file that is written has such a name. -/
theorem own_fileName (rotation : Rotation) (now : Timestamp) : Own (fileName rotation now) := by
  cases rotation with
  | daily => exact .inr ⟨now.dateText, by simp [Timestamp.dateText], by simp [fileName, String.append_assoc]⟩
  | hourly =>
    exact .inr ⟨now.dateText ++ "-" ++ now.hourText, by simp, by simp [fileName, String.append_assoc]⟩
  | never => exact .inl (by simp [fileName])

theorem Own.isLogName {name : String} (h : Own name) : isLogName name = true := by
  rw [isLogName_iff]
  obtain rfl | ⟨suffix, _, rfl⟩ := h
  · exact ⟨"", "", by simp⟩
  · exact ⟨"", "." ++ suffix, by simp [String.append_assoc]⟩

/-! ## Files -/

variable {days : Nat} {entries : List DirectoryEntry} {e : DirectoryEntry}

theorem mem_removed : e ∈ (cleanUp days entries).removed ↔
    e ∈ entries ∧ isLogFile e = true ∧ isOutdated days e = true := by
  simp only [cleanUp, current, List.mem_filter, List.mem_mergeSort, and_assoc]

/-- What goes and what stays is all that was there. -/
theorem removed_append_left_perm (days : Nat) (entries : List DirectoryEntry) :
    ((cleanUp days entries).removed ++ (cleanUp days entries).left).Perm entries := by
  have hremoved : (cleanUp days entries).removed.Perm (entries.filter fun e => isLogFile e && isOutdated days e) := by
    refine ((List.mergeSort_perm _ _).filter _).trans (.of_eq ?_)
    simp only [List.filter_filter, Bool.and_comm]
  exact (hremoved.append_right _).trans (List.filter_append_perm _ entries)

/-- **A second clean-up finds nothing.** -/
theorem removed_left (days : Nat) (entries : List DirectoryEntry) :
    (cleanUp days (cleanUp days entries).left).removed = [] := by
  refine List.eq_nil_iff_forall_not_mem.mpr fun e he => ?_
  obtain ⟨hleft, hlog, hold⟩ := mem_removed.mp he
  simp [cleanUp, hlog, hold] at hleft

/-- A second clean-up leaves what the first one has left. -/
theorem left_left (days : Nat) (entries : List DirectoryEntry) :
    (cleanUp days (cleanUp days entries).left).left = (cleanUp days entries).left :=
  List.filter_eq_self.mpr fun _ he => (List.mem_filter.mp he).2

/-! ## One by one -/

/-- Take a file that is old enough out of a directory by its name, and count it. -/
def discard (days : Nat) (swept : List DirectoryEntry × Nat) (file : DirectoryEntry) : List DirectoryEntry × Nat :=
  if isOutdated days file then (swept.1.filter (·.name ≠ file.name), swept.2 + 1) else swept

/-- **Remove the log files one by one**: what is left of the directory, and how many were removed. -/
def sweep (days : Nat) (entries : List DirectoryEntry) : List DirectoryEntry × Nat :=
  (current entries).foldl (discard days) (entries, 0)

theorem foldl_discard (files : List DirectoryEntry) (swept : List DirectoryEntry × Nat) :
    files.foldl (discard days) swept =
      (swept.1.filter fun e => ∀ file ∈ files.filter (isOutdated days), e.name ≠ file.name,
        swept.2 + (files.filter (isOutdated days)).length) := by
  induction files generalizing swept with
  | nil => simp
  | cons file files ih =>
    rw [List.foldl_cons, ih, discard]
    split
    next hold =>
      rw [List.filter_cons_of_pos hold, List.length_cons, List.filter_filter]
      refine Prod.ext (List.filter_congr fun e _ => ?_) (Nat.add_right_comm ..)
      simp [Bool.and_comm]
    next hold => rw [List.filter_cons_of_neg hold]

/-- **In a directory, where no name is there twice**, it makes no difference that the files are removed by their
names. -/
theorem sweep_eq (hnames : (entries.map (·.name)).Nodup) :
    sweep days entries = ((cleanUp days entries).left, (cleanUp days entries).removed.length) := by
  have hremoved : (current entries).filter (isOutdated days) = (cleanUp days entries).removed := rfl
  rw [sweep, foldl_discard, hremoved, Nat.zero_add]
  refine Prod.ext (List.filter_congr fun e he => ?_) rfl
  have hsame : (∀ file ∈ (cleanUp days entries).removed, e.name ≠ file.name) ↔ e ∉ (cleanUp days entries).removed := by
    refine ⟨fun h hmem => h e hmem rfl, fun h file hfile hname => h ?_⟩
    rwa [List.inj_on_of_nodup_map hnames he (mem_removed.mp hfile).1 hname]
  rw [Bool.eq_iff_iff, decide_eq_true_iff, hsame, mem_removed, and_iff_right he]
  cases isLogFile e <;> simp

/-! ## What goes and what stays -/

theorem isOutdated_iff : isOutdated days e = true ↔ (Duration.seconds (days * 24 * 3600)).nanos < e.age.nanos := by
  rw [isOutdated, decide_eq_true_iff]
  change days * 86400000000000 < _ ↔ days * 24 * 3600 * 1000000000 < _
  rw [Nat.mul_assoc days, Nat.mul_assoc days]

/-- **A clean-up removes** the regular files that have not changed for more than so many days and whose name begins
like that of the program, with the mark of a log somewhere behind that; all old files that the program itself has
written are among them. It leaves everything else in place, so that nothing is lost or there twice. To remove the files
by their names leaves the same and counts as many. A second clean-up at once removes nothing. -/
theorem cleanUp_exact (days : Nat) (entries : List DirectoryEntry) :
    let done := cleanUp days entries
    (∀ e, e ∈ done.removed ↔ e ∈ entries ∧ e.isFile = true ∧
        (Duration.seconds (days * 24 * 3600)).nanos < e.age.nanos ∧
        ∃ middle rest, e.name = "latency_bench" ++ middle ++ ".log" ++ rest) ∧
      (∀ e ∈ entries, e.isFile = true → (Duration.seconds (days * 24 * 3600)).nanos < e.age.nanos → Own e.name →
        e ∈ done.removed) ∧
      (done.removed ++ done.left).Perm entries ∧ done.left.Sublist entries ∧
      ((entries.map (·.name)).Nodup → sweep days entries = (done.left, done.removed.length)) ∧
      (cleanUp days done.left).removed = [] ∧ (cleanUp days done.left).left = done.left := by
  intro done
  have hexact : ∀ e, e ∈ done.removed ↔ e ∈ entries ∧ e.isFile = true ∧
      (Duration.seconds (days * 24 * 3600)).nanos < e.age.nanos ∧ isLogName e.name = true := fun e => by
    rw [mem_removed, isLogFile, Bool.and_eq_true, isOutdated_iff, and_assoc, and_comm (a := isLogName e.name = true)]
  refine ⟨fun e => ?_, fun e he hfile hold hown => ?_, removed_append_left_perm days entries, List.filter_sublist,
    sweep_eq, removed_left days entries, left_left days entries⟩
  · rw [hexact, isLogName_iff]
    rfl
  · exact (hexact e).mpr ⟨he, hfile, hold, hown.isLogName⟩

/-- The program's old file goes. A recent one, and a directory of such a name, stay. -/
theorem cleanUp_exact_of_three :
    let old : DirectoryEntry := { name := "latency_bench.log.1", isFile := true, age := .seconds (48 * 3600) }
    let recent : DirectoryEntry := { name := "latency_bench.log.2", isFile := true, age := .seconds 3600 }
    let directory : DirectoryEntry := { name := "latency_bench.log", isFile := false, age := .seconds (48 * 3600) }
    let entries := [old, recent, directory]
    Own old.name ∧ old ∈ (cleanUp 1 entries).removed ∧ (entries.map (·.name)).Nodup ∧
      sweep 1 entries = ([recent, directory], 1) ∧ (cleanUp 1 [recent, directory]).removed = [] := by
  intro old recent directory entries
  obtain ⟨_, hown, hperm, _, hsweep, _, _⟩ := cleanUp_exact 1 entries
  have hname : Own old.name := .inr ⟨"1", by decide, rfl⟩
  have hnames : (entries.map (·.name)).Nodup := by decide
  have hleft : (cleanUp 1 entries).left = [recent, directory] := by decide +kernel
  have hcount : (cleanUp 1 entries).removed.length = 1 := by
    rw [hleft] at hperm
    exact Nat.add_right_cancel (List.length_append ▸ hperm.length_eq)
  refine ⟨hname, hown old (.head _) rfl (by decide) hname, hnames, ?_, by decide +kernel⟩
  rw [hsweep hnames, hleft, hcount]

/-- **What belongs to another program** goes too, if its name is alike. -/
theorem foreign_removed :
    let foreign : DirectoryEntry := { name := "latency_benchmark.log", isFile := true, age := .seconds (48 * 3600) }
    ¬Own foreign.name ∧ (cleanUp 1 [foreign]).removed = [foreign] ∧ (cleanUp 1 [foreign]).left = [] := by
  intro foreign
  refine ⟨?_, by decide +kernel, by decide +kernel⟩
  -- Behind the stem, the names that the program gives go on with the mark.
  have hbehind (name : String) (h : Own name) : name.toList[13]? = some '.' := by
    obtain rfl | ⟨suffix, _, rfl⟩ := h
    · decide +kernel
    · simp only [String.append_assoc, String.toList_append]
      rfl
  exact fun h => absurd (hbehind _ h) (by decide +kernel)

end HttpBench.LogFiles
