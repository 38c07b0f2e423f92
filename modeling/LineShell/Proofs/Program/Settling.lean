import LineShell.Program.Plan

/-!
# Settings that are right

The settings of a session are right if the settings file, where there is one,
can be read, is a document with a usable sigil, and the sigil that takes effect
is usable too.  An option can replace the sigil of a file, but it is no excuse
for an unusable one there.  `sessionSettings_eq_ok_iff` says that the program
arrives at settings in just these cases, and at which.
-/

namespace LineShell

namespace Settings

/-- A character that can start a command line. -/
structure Usable (sigil : Char) : Prop where
  notWhite : Text.isWhiteSpace sigil = false
  notQuote : sigil ≠ '"'
  notBackslash : sigil ≠ '\\'

/-- A settings file is a document, which describes a configuration. -/
inductive Decodes : SettingsFile → Configuration → Prop where
  | content {bytes : Text.Bytes} {text : String}
      {document : List (String × Toml.Value)} {configuration : Configuration} :
      Text.decode? bytes = some text →
      Toml.parse? text = some document →
      ofDocument? document = some configuration →
      Decodes (.content bytes) configuration

/-- A settings file gives the program a configuration; so does its absence. -/
inductive Configures : SettingsFile → Configuration → Prop where
  | absent : Configures .absent ⟨'!', false, ⟨true, true, true⟩⟩
  | decoded {file : SettingsFile} {configuration : Configuration} :
      Decodes file configuration →
      Usable configuration.sigil →
      Configures file configuration

theorem checkSigil_eq_ok_iff {sigil : Char} :
    checkSigil sigil = .ok () ↔ Usable sigil := by
  have usable : isSigil sigil = true ↔ Usable sigil := by
    unfold isSigil
    rw [Bool.not_eq_true', Bool.or_eq_false_iff, Bool.or_eq_false_iff,
      decide_eq_false_iff_not, decide_eq_false_iff_not]
    constructor
    · rintro ⟨⟨notWhite, notQuote⟩, notBackslash⟩
      exact ⟨notWhite, notQuote, notBackslash⟩
    · rintro ⟨notWhite, notQuote, notBackslash⟩
      exact ⟨⟨notWhite, notQuote⟩, notBackslash⟩
  rw [checkSigil, ← usable]
  cases isSigil sigil <;> simp

theorem Decodes.unique {file : SettingsFile}
    {configuration other : Configuration} (decodes : Decodes file configuration)
    (again : Decodes file other) : other = configuration := by
  cases decodes with
  | content decoded parsed described =>
      cases again with
      | content decodedToo parsedToo describedToo =>
          cases decoded.symm.trans decodedToo
          cases parsed.symm.trans parsedToo
          cases described.symm.trans describedToo
          rfl

theorem Configures.usable {file : SettingsFile}
    {configuration given : Configuration} (configures : Configures file given)
    (decodes : Decodes file configuration) : Usable configuration.sigil := by
  cases configures with
  | absent => cases decodes
  | decoded again usable =>
      rw [← decodes.unique again]
      exact usable

section Loading

variable {path : String} {file : SettingsFile} {configuration : Configuration}

theorem ofText_eq_ok_iff {text : String} :
    ofText path text = .ok configuration ↔
      (∃ document, Toml.parse? text = some document ∧
        ofDocument? document = some configuration) ∧
        Usable configuration.sigil := by
  rw [← checkSigil_eq_ok_iff, ← Option.bind_eq_some_iff]
  unfold ofText
  -- Loading binds the two steps of decoding in the other spelling.
  change _ ↔ Toml.parse? text >>= ofDocument? = _ ∧ _
  cases Toml.parse? text >>= ofDocument? with
  | none => simp
  | some found =>
      simp only [Option.some.injEq]
      constructor
      · intro loaded
        cases checked : checkSigil found.sigil with
        | error failure =>
            rw [checked] at loaded
            cases loaded
        | ok _ =>
            rw [checked] at loaded
            cases loaded
            exact ⟨rfl, checked⟩
      · rintro ⟨rfl, checked⟩
        rw [checked]
        rfl

/-- Loading succeeds exactly with what the file gives. -/
theorem load_eq_ok_iff :
    load path file = .ok configuration ↔ Configures file configuration := by
  constructor
  · intro loaded
    cases file with
    | absent =>
        cases loaded
        exact .absent
    | unreadable reason => cases loaded
    | content bytes =>
        cases decoded : Text.decode? bytes with
        | none => simp [load, decoded] at loaded
        | some text =>
            simp only [load, decoded] at loaded
            obtain ⟨⟨document, parsed, described⟩, usable⟩ :=
              ofText_eq_ok_iff.mp loaded
            exact .decoded (.content decoded parsed described) usable
  · intro configures
    cases configures with
    | absent => rfl
    | decoded decodes usable =>
        cases decodes with
        | content decoded parsed described =>
            simp only [load, decoded]
            exact ofText_eq_ok_iff.mpr ⟨⟨_, parsed, described⟩, usable⟩

end Loading

end Settings

namespace Program

open CommandLine (Options SessionSettings)
open Settings (Configuration Configures Decodes SettingsFile Usable)

/-- Options and a settings file make the settings of a session.  Each of the two
can ask to stop at failures, and neither can take that back. -/
structure Settles (options : Options) (file : SettingsFile)
    (settings : SessionSettings) : Prop where
  configured : Configures file settings.configuration
  effective :
    settings.sigil = options.sigil.getD settings.configuration.sigil
  usable : Usable settings.sigil
  policy : settings.policy = .abort ↔
    options.failFast = true ∨ settings.configuration.failFast = true

section Settling

variable {options : Options} {path : String} {file : SettingsFile}
  {settings : SessionSettings}

theorem policy_eq_iff {asked : Bool} {policy : FailurePolicy} :
    (if asked then .abort else .report) = policy ↔
      (policy = .abort ↔ asked = true) := by
  cases asked <;> cases policy <;> decide

theorem resolve_eq_ok_iff {configuration : Configuration} :
    options.resolve configuration = .ok settings ↔
      settings.configuration = configuration ∧
        settings.sigil = options.sigil.getD configuration.sigil ∧
          Usable settings.sigil ∧
            (settings.policy = .abort ↔
              options.failFast = true ∨ configuration.failFast = true) := by
  obtain ⟨sigil, policy, found⟩ := settings
  rw [← Settings.checkSigil_eq_ok_iff, ← Bool.or_eq_true, ← policy_eq_iff]
  simp only [Options.resolve]
  cases checked : Settings.checkSigil
      (options.sigil.getD configuration.sigil) with
  | error failure =>
      simp only [reduceCtorEq, false_iff]
      rintro ⟨-, rfl, usable, -⟩
      cases checked.symm.trans usable
  | ok _ =>
      constructor
      · intro resolved
        cases resolved
        exact ⟨rfl, rfl, checked, rfl⟩
      · rintro ⟨rfl, rfl, -, rfl⟩
        rfl

/-- The program arrives at settings exactly if the options and the file make
them. -/
theorem sessionSettings_eq_ok_iff :
    sessionSettings options path file = .ok settings ↔
      Settles options file settings := by
  constructor
  · intro settled
    unfold sessionSettings at settled
    cases loaded : Settings.load path file with
    | error failure => simp [loaded] at settled
    | ok configuration =>
        simp only [loaded] at settled
        obtain ⟨rfl, effective, usable, policy⟩ := resolve_eq_ok_iff.mp settled
        exact ⟨Settings.load_eq_ok_iff.mp loaded, effective, usable, policy⟩
  · rintro ⟨configured, effective, usable, policy⟩
    rw [sessionSettings, Settings.load_eq_ok_iff.mpr configured]
    exact resolve_eq_ok_iff.mpr ⟨rfl, effective, usable, policy⟩

theorem Settles.unique {other : SessionSettings}
    (settles : Settles options file settings)
    (again : Settles options file other) : other = settings := by
  rw [← @sessionSettings_eq_ok_iff options ""] at settles again
  cases settles.symm.trans again
  rfl

end Settling

end Program

end LineShell
