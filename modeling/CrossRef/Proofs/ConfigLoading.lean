import CrossRef.Proofs.Completions
import CrossRef.Proofs.Utf8Texts

/-! # Loading a configuration file

Whatever stands at a path, loading it should either give settings or be reported as a problem with
the configuration. Two causes are missed: a zero character in the path, and bytes that are no UTF-8.
Both are faults, and those who wait for problems, such as the completion of a word, let them through.

* `Textual`: neither of the two is the case.
* `loads`: all that loading a file can come to.
* `completions_of_load_error`: what the completion of a word makes of a file that cannot be loaded.
* `load_reports_iff_textual`: when loading a file is reported, and what a completion gives then. -/

namespace CrossRef

namespace Config

open String (utf8EncodeChar)

/-! ### How a file is loaded -/

/-- **The file can be taken for text:** there is no zero character in its path, and what is read
there, if anything is, is a text in UTF-8. -/
def Textual (w : World) (p : Path) : Prop :=
  p.hasNul = false ∧ ∀ bytes, w.read p = .ok bytes → Text.Utf8.IsUtf8 bytes

/-- **What loading a file can come to.** -/
inductive Loads (w : World) (p : Path) : Except Failure Table → Prop where
  | nul (hnul : p.hasNul = true) : Loads w p (.error (.fault .nulCharacter))
  | refused {e : OsError} (hnul : p.hasNul = false) (hread : w.read p = .error (.system e)) :
      Loads w p (.error (.problem (.unreadableConfig p.text e)))
  | undecodable {bytes : List UInt8} {f : Text.Utf8.Fault} (hread : w.read p = .ok bytes)
      (hbytes : ¬ Text.Utf8.IsUtf8 bytes) : Loads w p (.error (.fault (.undecodable f)))
  | invalid {cs : List Char} {line : Nat} (hread : w.read p = .ok (cs.flatMap utf8EncodeChar))
      (hparse : Toml.parse (String.ofList (Text.unixLines cs)) = .error line) :
      Loads w p (.error (.problem (.invalidConfig (some p.text) line)))
  | merged {cs : List Char} {user : Table} (hread : w.read p = .ok (cs.flatMap utf8EncodeChar))
      (hparse : Toml.parse (String.ofList (Text.unixLines cs)) = .ok user) :
      Loads w p (.ok (Table.merge defaults user))

theorem read_of_hasNul {w : World} {p : Path} (h : p.hasNul = true) :
    w.read p = .error .nulCharacter := by
  unfold World.read
  rw [if_pos h]

theorem exists_system_of_read {w : World} {p : Path} {f : Fault} (h : p.hasNul = false)
    (hread : w.read p = .error f) : ∃ e, f = .system e := by
  unfold World.read at hread
  rw [if_neg (by simp [h])] at hread
  split at hread <;> cases hread
  · exact ⟨_, rfl⟩
  · exact ⟨_, rfl⟩
  · exact ⟨_, rfl⟩

theorem loads (w : World) (p : Path) : Loads w p (load w p) := by
  rcases hread : w.read p with f | bytes
  · rcases hnul : p.hasNul with _ | _
    · obtain ⟨e, rfl⟩ := exists_system_of_read hnul hread
      have hfile : readFile w p = .error (.problem (.unreadableConfig p.text e)) := by
        simp only [readFile, hread]
      rw [load, hfile]
      exact .refused hnul hread
    · obtain rfl : f = .nulCharacter := Except.error.inj (hread.symm.trans (read_of_hasNul hnul))
      have hfile : readFile w p = .error (.fault .nulCharacter) := by simp only [readFile, hread]
      rw [load, hfile]
      exact .nul hnul
  · rcases hbytes : Text.Utf8.decode? bytes with f | cs
    · have hfile : readFile w p = .error (.fault (.undecodable f)) := by
        simp only [readFile, hread, hbytes]
      rw [load, hfile]
      refine .undecodable hread fun hutf8 => ?_
      obtain ⟨cs, hcs⟩ := Text.Utf8.exists_decode?_iff.mpr hutf8
      rw [hbytes] at hcs
      cases hcs
    · have hfile : readFile w p = .ok (String.ofList (Text.unixLines cs)) := by
        simp only [readFile, hread, hbytes]
      rw [Text.Utf8.decode?_eq_ok_iff.mp hbytes] at hread
      rcases hparse : Toml.parse (String.ofList (Text.unixLines cs)) with line | user
      · have hload : load w p = .error (.problem (.invalidConfig (some p.text) line)) := by
          simp only [load, hfile, Except.bind, parseFile, hparse, Except.map]
        rw [hload]
        exact .invalid hread hparse
      · have hload : load w p = .ok (Table.merge defaults user) := by
          simp only [load, hfile, Except.bind, parseFile, hparse, Except.map]
        rw [hload]
        exact .merged hread hparse

theorem textual_of_read {w : World} {p : Path} {cs : List Char}
    (hread : w.read p = .ok (cs.flatMap utf8EncodeChar)) : Textual w p := by
  refine ⟨Bool.eq_false_iff.mpr fun hnul => ?_, fun bytes hbytes => ⟨cs, ?_⟩⟩
  · rw [read_of_hasNul hnul] at hread
    cases hread
  · exact Except.ok.inj (hbytes.symm.trans hread)

/-- **How a file fails to load:** with a problem of the configuration if it can be taken for text,
and with a fault otherwise. -/
theorem load_error_cases {w : World} {p : Path} {e : Failure} (h : load w p = .error e) :
    (Textual w p ∧ ∃ q, e = .problem q ∧ q.kind = "ConfigError") ∨
      (¬ Textual w p ∧ ∃ f, e = .fault f) := by
  have hloads := loads w p
  rw [h] at hloads
  cases hloads with
  | nul hnul => exact Or.inr ⟨fun ht => Bool.noConfusion (hnul.symm.trans ht.1), _, rfl⟩
  | refused hnul hread =>
    refine Or.inl ⟨⟨hnul, fun bytes hbytes => ?_⟩, _, rfl, rfl⟩
    rw [hread] at hbytes
    cases hbytes
  | undecodable hread hbytes => exact Or.inr ⟨fun ht => hbytes (ht.2 _ hread), _, rfl⟩
  | invalid hread hparse => exact Or.inl ⟨textual_of_read hread, _, rfl, rfl⟩

/-- What a file that is loaded gives, and that it can be taken for text. -/
theorem load_eq_ok {w : World} {p : Path} {config : Table} (h : load w p = .ok config) :
    Textual w p ∧ ∃ cs user, w.read p = .ok (cs.flatMap utf8EncodeChar) ∧
      Toml.parse (String.ofList (Text.unixLines cs)) = .ok user ∧
      config = Table.merge defaults user := by
  have hloads := loads w p
  rw [h] at hloads
  cases hloads with
  | merged hread hparse => exact ⟨textual_of_read hread, _, _, hread, hparse, rfl⟩

end Config

namespace CommandLine

open Config
open String (utf8EncodeChar)

/-! ### Completing a word -/

/-- **A word is completed for a document whose settings stand in the file at `p`:** the command has
the document, it is there, and of all configuration files the one at `p` counts for it. -/
structure SetBy (w : World) (i : Invocation) (d : Document) (p : Path) : Prop where
  document : i.command.bind Command.document? = some d
  isFile : w.isFile d.file = .ok true
  counts : ∃ start, d.directory w = .ok start ∧ Counts w i.globals.config start (some p)

theorem openSession_of_load_error {w : World} {i : Invocation} {d : Document} {p : Path}
    {e : Failure} (h : SetBy w i d p) (he : load w p = .error e) :
    (openSession w i.globals d).outcome = .error e := by
  obtain ⟨start, hstart, hcounts⟩ := h.counts
  have hsettings (quiet : Bool) : (settingsFrom w i.globals start quiet).outcome = .error e := by
    simp only [settingsFrom, effective_outcome, chosenFile_eq_ok_iff.mpr hcounts, Except.mapError,
      Except.bind, loaded, he]
  simp only [openSession_outcome, hstart, Except.mapError, Except.bind, hsettings]

/-- **What a completion makes of a configuration file that cannot be loaded:** nothing is offered if
that is a problem, and anything else is let through. -/
theorem completions_of_load_error {w : World} {i : Invocation} {d : Document} {p : Path}
    {e : Failure} (h : SetBy w i d p) (he : load w p = .error e) (typed : String) :
    (∀ q, e = .problem q → completions w i typed = .ok []) ∧
      ∀ f, e = .fault f → completions w i typed = .error e := by
  have hopen := openSession_of_load_error h he
  unfold completions
  simp only [h.document, h.isFile, Traced.outcome_bind, hopen, Except.bind]
  constructor
  · rintro q rfl
    rfl
  · rintro f rfl
    rfl

/-- **When loading a configuration file gives settings or is reported,** and what a completion gives
for a file that cannot be loaded. What is loaded is what the text at the path says, laid over the
built-in settings. Loading ends in this way or with a problem of the configuration exactly if the
file can be taken for text, and with a fault otherwise; and if it cannot be loaded, a completion
offers nothing in the same case, and otherwise fails with the same fault. The parser of TOML is taken
to fail with an error of its own only, on texts however deep. -/
theorem load_reports_iff_textual (w : World) (p : Path) :
    (∀ config, load w p = .ok config → ∃ cs user, w.read p = .ok (cs.flatMap utf8EncodeChar) ∧
      Toml.parse (String.ofList (Text.unixLines cs)) = .ok user ∧
      config = Table.merge defaults user) ∧
    (((∃ config, load w p = .ok config) ∨
      ∃ q, load w p = .error (.problem q) ∧ q.kind = "ConfigError") ↔ Textual w p) ∧
    (¬ Textual w p → ∃ f, load w p = .error (.fault f)) ∧
    ∀ e, load w p = .error e → ∀ i d typed, SetBy w i d p →
      (Textual w p → completions w i typed = .ok []) ∧
      (¬ Textual w p → completions w i typed = .error e) := by
  refine ⟨fun config h => (load_eq_ok h).2, ⟨?_, fun ht => ?_⟩, fun ht => ?_,
    fun e he i d typed h => ?_⟩
  · rintro (⟨config, h⟩ | ⟨q, h, -⟩)
    · exact (load_eq_ok h).1
    · obtain ⟨ht, -⟩ | ⟨-, f, ⟨⟩⟩ := load_error_cases h
      exact ht
  · rcases h : load w p with e | config
    · obtain ⟨-, q, rfl, hq⟩ | ⟨hnot, -⟩ := load_error_cases h
      · exact Or.inr ⟨q, rfl, hq⟩
      · exact absurd ht hnot
    · exact Or.inl ⟨config, rfl⟩
  · rcases h : load w p with e | config
    · obtain ⟨hyes, -⟩ | ⟨-, f, rfl⟩ := load_error_cases h
      · exact absurd hyes ht
      · exact ⟨f, rfl⟩
    · exact absurd (load_eq_ok h).1 ht
  · obtain ⟨hproblem, hfault⟩ := completions_of_load_error h he typed
    obtain ⟨ht, q, rfl, -⟩ | ⟨ht, f, rfl⟩ := load_error_cases he
    · exact ⟨fun _ => hproblem q rfl, fun hnot => absurd ht hnot⟩
    · exact ⟨fun hyes => absurd hyes ht, fun _ => hfault f rfl⟩

/-- A world with the document `d` and a configuration file with the given bytes above it. -/
def configuring (bytes : List UInt8) : World :=
  Snapshot.toWorld { cwd := [], nodes := [(["d"], .file []), ([fileName], .file bytes)] }

theorem setBy_configuring_equals :
    SetBy (configuring [61]) sigmaInvocation sigmaDocument (.ofLocation [fileName]) where
  document := rfl
  isFile := rfl
  counts := ⟨_, rfl, chosenFile_eq_ok_iff.mp rfl⟩

/-- For a file with a lone equals sign in it, which is text but no TOML, nothing is offered. -/
theorem load_reports_equals :
    load (configuring [61]) (.ofLocation [fileName]) =
      .error (.problem (.invalidConfig (some "/.esisref.toml") 1)) ∧
      completions (configuring [61]) sigmaInvocation "" = .ok [] := by
  have hload : load (configuring [61]) (.ofLocation [fileName]) =
      .error (.problem (.invalidConfig (some "/.esisref.toml") 1)) := rfl
  obtain ⟨-, htextual, -, hcompletions⟩ :=
    load_reports_iff_textual (configuring [61]) (.ofLocation [fileName])
  have ht := htextual.mp (Or.inr ⟨_, hload, rfl⟩)
  exact ⟨hload, (hcompletions _ hload _ _ "" setBy_configuring_equals).1 ht⟩

/-- **A byte that is no UTF-8 escapes:** loading a file with it is not reported, and a completion
fails. -/
theorem stray_byte_escapes :
    load (configuring [0xFF]) (.ofLocation [fileName]) =
      .error (.fault (.undecodable ⟨.badStart, 0xFF, 0, 1⟩)) ∧
      completions (configuring [0xFF]) sigmaInvocation "" =
        .error (.fault (.undecodable ⟨.badStart, 0xFF, 0, 1⟩)) :=
  ⟨rfl, rfl⟩

end CommandLine

end CrossRef
