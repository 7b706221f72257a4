import Mathlib.Data.List.Basic
import TokenSeal.Command.Run
import TokenSeal.Log.Timestamp

/-!
# Lines that are written

What is written for an event is one line: its text holds no line end, and one follows it. For JSON
that is so by the escapes of strings (`Json.newline_notMem_text`), on the console it depends on the
parts of the line, one of which is the time (`Timestamp.newline_notMem_iso`). The line of a mismatch
is therefore counted as one, in both forms and at any time (`lineCount_written_mismatch`), if the
threshold lets a warning pass; the threshold of a level is that of its name (`ofValues_of_name`).
-/

namespace TokenSeal

/-! ### Texts without line ends -/

/-- What joined strings hold is held by one of them or by what joins them. -/
theorem mem_toList_intercalate {c : Char} {separator : String} {parts : List String}
    (h : c ∈ (separator.intercalate parts).toList) :
    c ∈ separator.toList ∨ ∃ part ∈ parts, c ∈ part.toList := by
  induction parts with
  | nil => simp at h
  | cons part parts ih =>
    cases parts with
    | nil => exact .inr ⟨part, List.mem_cons_self, by simpa using h⟩
    | cons next parts =>
      rw [String.intercalate_cons_cons, String.toList_append, String.toList_append,
        List.mem_append, List.mem_append] at h
      rcases h with (h | h) | h
      · exact .inr ⟨part, List.mem_cons_self, h⟩
      · exact .inl h
      · rcases ih h with h | ⟨other, hmem, h⟩
        · exact .inl h
        · exact .inr ⟨other, List.mem_cons_of_mem _ hmem, h⟩

theorem digitChar_ne_newline {n : Nat} (h : n < 16) : Nat.digitChar n ≠ '\n' := by
  revert h
  revert n
  decide

/-- No number has a line end among its digits. -/
theorem newline_notMem_toDigits {base : Nat} (h : 1 < base) (h' : base ≤ 16) (n : Nat) :
    '\n' ∉ Nat.toDigits base n := by
  induction n using Nat.strongRecOn with
  | ind n ih =>
    rw [Nat.toDigits_eq_if h]
    split_ifs with hn
    · rw [List.mem_singleton]
      exact (digitChar_ne_newline (Nat.lt_of_lt_of_le hn h')).symm
    · have hlast : n % base < base := Nat.mod_lt n (Nat.zero_lt_of_lt h)
      have hrest : n / base < n := Nat.div_lt_self (by omega) h
      rw [List.mem_append, List.mem_singleton, not_or]
      exact ⟨ih _ hrest, (digitChar_ne_newline (Nat.lt_of_lt_of_le hlast h')).symm⟩

namespace Log

theorem Timestamp.newline_notMem_digits (width n : Nat) :
    '\n' ∉ (Timestamp.digits width n).toList := by
  have hdigits : '\n' ∉ Nat.toDigits 10 n := newline_notMem_toDigits (by decide) (by decide) n
  simp [Timestamp.digits, hdigits]

/-- A time stamp stays on its line. -/
theorem Timestamp.newline_notMem_iso (t : Timestamp) : '\n' ∉ t.iso.toList := by
  have hfraction : '\n' ∉
      (if t.microseconds = 0 then "" else "." ++ digits 6 t.microseconds).toList := by
    split_ifs
    · decide
    · rw [String.toList_append, List.mem_append, not_or]
      exact ⟨by decide, newline_notMem_digits 6 t.microseconds⟩
  unfold Timestamp.iso
  simp only [String.toList_append, List.mem_append, not_or, newline_notMem_digits,
    not_false_eq_true, true_and, and_true, hfraction]
  decide

namespace Json

theorem newline_notMem_unit (n : Nat) : '\n' ∉ unit n := by
  have hdigits : '\n' ∉ Nat.toDigits 16 n := newline_notMem_toDigits (by decide) (by decide) n
  simp [unit, Quoted.hex, hdigits]

/-- No code point brings a line end into a JSON string. -/
theorem newline_notMem_point (c : CodePoint) : '\n' ∉ point c := by
  unfold point
  split_ifs with _ _ _ _ _ _ _ hascii
  iterate 7 decide
  · have hvisible : ∀ n < 0x7F, 0x20 ≤ n → '\n' ≠ Char.ofNat n := by decide
    rw [List.mem_singleton]
    exact hvisible c.val hascii.2 hascii.1
  · exact newline_notMem_unit _
  · rw [List.mem_append, not_or]
    exact ⟨newline_notMem_unit _, newline_notMem_unit _⟩

/-- A JSON string has no newline of its own. -/
theorem newline_notMem_text (t : Text) : '\n' ∉ (text t).toList := by
  simp [text, newline_notMem_point]

/-- An object whose members are texts is one line. -/
theorem newline_notMem_object {entries : List (Text × Value)}
    (h : ∀ e ∈ entries, ∃ t, e.2 = .text t) : '\n' ∉ (object (members entries)).toList := by
  have hmembers : ∀ m ∈ members entries, '\n' ∉ m.toList := by
    induction entries with
    | nil => simp [members]
    | cons e entries ih =>
      obtain ⟨t, ht⟩ := h e List.mem_cons_self
      obtain ⟨name, v⟩ := e
      obtain rfl : v = .text t := ht
      rw [members, List.forall_mem_cons]
      refine ⟨?_, ih fun e he => h e (List.mem_cons_of_mem _ he)⟩
      rw [value, String.toList_append, String.toList_append, List.mem_append, List.mem_append,
        not_or, not_or]
      exact ⟨⟨newline_notMem_text name, by decide⟩, newline_notMem_text t⟩
  unfold object
  rw [String.toList_append, String.toList_append, List.mem_append, List.mem_append, not_or, not_or]
  refine ⟨⟨by decide, fun hmem => ?_⟩, by decide⟩
  rcases mem_toList_intercalate hmem with hmem | ⟨m, hm, hmem⟩
  · revert hmem
    decide
  · exact hmembers m hm hmem

end Json

/-! ### The line of a mismatch -/

/-- None of a mismatch's fields is dropped. -/
theorem ownFields_mismatch (a : Algorithm) :
    (Key.mismatch a).ownFields =
      [(Text.ofString "algorithm", .text (Text.ofString a.name))] := by
  cases a <;> rfl

/-- What the console shows of a mismatch. -/
theorem console_mismatch (a : Algorithm) (time : String) :
    (Key.mismatch a).console time =
      " ".intercalate [time, "[warning  ]", "Signature verification failed ",
        "[tokensign.signing.hmac_key]", "algorithm=" ++ a.name] := by
  have hparts :
      ["[" ++ Event.padded 9 Severity.warning.name ++ "]",
        Quoted.visible (Text.ofString "Signature verification failed" ++ [CodePoint.ofChar ' ']),
        "[" ++ Quoted.visible Key.logger ++ "]",
        Quoted.visible (Text.ofString "algorithm") ++ "=" ++
          Event.consoleValue (.text (Text.ofString a.name))] =
      ["[warning  ]", "Signature verification failed ", "[tokensign.signing.hmac_key]",
        "algorithm=" ++ a.name] := by
    cases a <;> decide +kernel
  unfold Event.console
  rw [ownFields_mismatch, List.mergeSort_singleton]
  exact congrArg (fun parts => " ".intercalate (time :: parts)) hparts

/-- What the JSON of a mismatch has as members. -/
theorem json_mismatch (a : Algorithm) (time : String) :
    (Key.mismatch a).json time =
      Json.object (Json.members
        [(Text.ofString "algorithm", .text (Text.ofString a.name)),
          (Text.ofString "event", .text (Text.ofString "Signature verification failed")),
          (Text.ofString "logger", .text Key.logger),
          (Text.ofString "level", .text (Text.ofString "warning")),
          (Text.ofString "timestamp", .text (Text.ofString time))]) := by
  cases a <;> rfl

/-- A mismatch is one line in either form. -/
theorem newline_notMem_line (setup : Setup) {time : String} (htime : '\n' ∉ time.toList)
    (a : Algorithm) : '\n' ∉ (setup.line time (Key.mismatch a)).toList := by
  unfold Setup.line
  split_ifs
  · rw [json_mismatch]
    exact Json.newline_notMem_object (by simp)
  · rw [console_mismatch]
    have hshown : ∀ part ∈ ["[warning  ]", "Signature verification failed ",
        "[tokensign.signing.hmac_key]", "algorithm=" ++ a.name], '\n' ∉ part.toList := by
      cases a <;> decide +kernel
    intro hline
    rcases mem_toList_intercalate hline with hmem | ⟨part, hpart, hmem⟩
    · revert hmem
      decide
    · rcases List.mem_cons.1 hpart with rfl | hpart
      · exact htime hmem
      · exact hshown part hpart hmem

/-! ### Counting lines -/

/-- How many lines a text ends. -/
def lineCount (s : String) : Nat := s.toList.count '\n'

/-- Lines add up. -/
theorem lineCount_append (s t : String) : lineCount (s ++ t) = lineCount s + lineCount t := by
  rw [lineCount, String.toList_append, List.count_append]
  rfl

/-- What is written of a journal, event by event. -/
theorem toList_written (setup : Setup) (time : String) (journal : Journal) :
    (Command.Logging.written (some (setup, time)) journal).toList =
      journal.flatMap fun e =>
        if setup.threshold ≤ e.severity.rank then (setup.line time e).toList ++ ['\n'] else [] := by
  unfold Command.Logging.written Setup.lines
  dsimp only
  rw [String.toList_join]
  induction journal with
  | nil => rfl
  | cons e journal ih =>
    rw [List.flatMap_cons, ← ih]
    by_cases h : setup.threshold ≤ e.severity.rank <;> simp [h]

/-- What is written for a mismatch is one line, if the threshold lets it pass. -/
theorem lineCount_written_mismatch (setup : Setup) {time : String} (htime : '\n' ∉ time.toList)
    (a : Algorithm) :
    lineCount (Command.Logging.written (some (setup, time)) [Key.mismatch a]) =
      if setup.threshold ≤ Severity.warning.rank then 1 else 0 := by
  have hreaches : (Key.mismatch a).severity.rank = Severity.warning.rank := rfl
  rw [lineCount, toList_written, List.flatMap_singleton, hreaches]
  split_ifs
  · rw [List.count_append, List.count_eq_zero_of_not_mem (newline_notMem_line setup htime a)]
    rfl
  · rfl

/-- What is written for events that are logged at a time of their own each. -/
def writtenAt (setup : Setup) (stamped : List (Event × Timestamp)) : String :=
  String.join (stamped.map fun s => Command.Logging.written (some (setup, s.2.iso)) [s.1])

/-- Events of one time are written as a journal is. -/
theorem writtenAt_map (setup : Setup) (t : Timestamp) (journal : Journal) :
    writtenAt setup (journal.map fun e => (e, t)) =
      Command.Logging.written (some (setup, t.iso)) journal := by
  apply String.toList_inj.1
  rw [writtenAt, String.toList_join, List.map_map, List.flatMap_map, toList_written]
  refine List.flatMap_congr fun e _ => ?_
  rw [Function.comp_apply, toList_written, List.flatMap_singleton]

theorem writtenAt_cons (setup : Setup) (s : Event × Timestamp)
    (stamped : List (Event × Timestamp)) :
    writtenAt setup (s :: stamped) =
      Command.Logging.written (some (setup, s.2.iso)) [s.1] ++ writtenAt setup stamped := by
  apply String.toList_inj.1
  rw [writtenAt, String.toList_join, List.map_cons, List.flatMap_cons, String.toList_append,
    writtenAt, String.toList_join]

/-- Mismatches are written as one line each, whenever they are logged, or as none. -/
theorem lineCount_writtenAt (setup : Setup) {stamped : List (Event × Timestamp)}
    (h : ∀ s ∈ stamped, ∃ a, s.1 = Key.mismatch a) :
    lineCount (writtenAt setup stamped) =
      if setup.threshold ≤ Severity.warning.rank then stamped.length else 0 := by
  induction stamped with
  | nil => exact (ite_self 0).symm
  | cons s stamped ih =>
    obtain ⟨⟨a, ha⟩, hrest⟩ := List.forall_mem_cons.1 h
    rw [writtenAt_cons, lineCount_append, ih hrest, ha,
      lineCount_written_mismatch setup s.2.newline_notMem_iso a, List.length_cons]
    split_ifs
    · exact Nat.add_comm 1 _
    · rfl

/-! ### Levels -/

/-- The upper-case form of a level that is a known name gives the setup its threshold. -/
theorem ofValues_of_name {level json : Value} {name : Text} {l : String × Nat} (hl : l ∈ levels)
    (hlevel : level.asText? = some name) (hname : name.toUpper = Text.ofString l.1) :
    Setup.ofValues level json = .ok ⟨l.2, json.isTruthy⟩ := by
  have hfind : ∀ l ∈ levels,
      (levels.find? fun m => Text.ofString m.1 == Text.ofString l.1) = some l := by decide
  simp only [Setup.ofValues, thresholdOfValue, hlevel, threshold, hname, hfind l hl]
  rfl

end Log

end TokenSeal
