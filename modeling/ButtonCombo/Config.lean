import ButtonCombo.DebugMode
import ButtonCombo.Indicator
import ButtonCombo.Mask.Text
import ButtonCombo.NameMap
import ButtonCombo.Text.Position
import ButtonCombo.Toml.Document

/-!
# Configurations

A configuration holds the sequence to recognize, the length of a tick, whether a
completion chimes, when the indicator shows, and which keys press which buttons.  It is
read from a TOML document; what the document leaves out keeps its default.

The entries of a document are taken in their order, and the first one that does not fit
is reported.  Only then is the whole looked at: a sequence that could never be entered,
or a tick of no length, is refused.

The sequence may be replaced by one that is written on a single line, steps separated
by commas.  The new sequence takes effect once all its steps are read, even if the
configuration is then refused.

Main facts:

* `validate_noSequence`, `validate_emptyStep`, `validate_of_pressed`: the first flaw;
* `validate_eq_ok_iff`: what a valid configuration is;
* `override_badStep`: a step that cannot be read changes nothing.
-/

namespace ButtonCombo

/-- The settings of the program. -/
structure Config where
  sequence : List Mask := debugModeSequence
  tickMs : Nat := 16
  chime : Bool := true
  indicator : Indicator := .onUnlock
  keys : NameMap Mask := .empty

namespace Config

/-- Why the settings are refused. -/
inductive Flaw
  | noSequence
  | emptyStep
  | noTick
  deriving DecidableEq

/-- The refusal in words. -/
def Flaw.message : Flaw → String
  | noSequence => "sequence must contain at least one button"
  | emptyStep => "sequence steps must press at least one button"
  | noTick => "tick_ms must be greater than zero"

/-- Why an entry of a document does not fit: it has the wrong form, it has a name that
is not known, or it holds a text that is no mask. -/
inductive Misfit
  | form
  | unknownField (name : Datum.UnknownName)
  | unknownVariant (name : Datum.UnknownName)
  | unknownButton (unknown : UnknownButton)
  deriving DecidableEq

/-- The report about a misfit; there is none about a wrong form. -/
def Misfit.message? : Misfit → Option String
  | form => none
  | unknownField name => some (name.message "field")
  | unknownVariant name => some (name.message "variant")
  | unknownButton unknown => some unknown.message

/-- The report about a misfit in a JSON document.  Such a report may end with a position,
and whatever looks like one at its end is taken for one. -/
def Misfit.jsonMessage? (misfit : Misfit) : Option String :=
  misfit.message?.map fun message => String.ofList (Text.Position.settle message.toList)

/-- Why a text is no configuration. -/
inductive Error
  | malformed
  | misfit (misfit : Misfit)
  | invalid (flaw : Flaw)
  deriving DecidableEq

/-- The length of a tick: whole seconds, and the nanoseconds that are left. -/
def tick (config : Config) : Nat × Nat :=
  (config.tickMs / 1000, config.tickMs % 1000 * 1000000)

/-- The first flaw of the settings. -/
def validate (config : Config) : Except Flaw Unit :=
  if config.sequence.isEmpty then .error .noSequence
  else if config.sequence.any Mask.isEmpty then .error .emptyStep
  else if config.tickMs = 0 then .error .noTick
  else .ok ()

/-- The fields of a document. -/
def fieldNames : List String :=
  ["sequence", "tick_ms", "chime", "indicator", "keys"]

/-- A mask in a document is a text. -/
def mask? : Datum → Except Misfit Mask
  | .text text =>
      match Mask.parse text with
      | .ok mask => .ok mask
      | .error unknown => .error (.unknownButton unknown)
  | _ => .error .form

/-- The masks of a list. -/
def masks? : List Datum → Except Misfit (List Mask)
  | [] => .ok []
  | item :: rest =>
      match mask? item with
      | .error misfit => .error misfit
      | .ok mask => (masks? rest).map (mask :: ·)

/-- The bindings of a table, in the order of the document. -/
def bindings? : List (String × Datum) → Except Misfit (List (String × Mask))
  | [] => .ok []
  | (name, value) :: rest =>
      match mask? value with
      | .error misfit => .error misfit
      | .ok mask => (bindings? rest).map ((name, mask) :: ·)

/-- A mode of the indicator. -/
def indicator?
    (isNothing : Datum → Bool)
    (value : Datum) : Except Misfit Indicator :=
  match Datum.choice isNothing Indicator.names value with
  | .ok indicator => .ok indicator
  | .error .form => .error .form
  | .error (.unknown name) => .error (.unknownVariant name)

/-- The settings with one entry of a document taken up.  A date in place of the key
bindings counts as one binding, with the date's text for a mask. -/
def takeEntry
    (config : Config)
    (field : String)
    (value : Datum) : Except Misfit Config :=
  match field, value with
  | "sequence", .list items => (masks? items).map fun sequence => { config with sequence }
  | "tick_ms", .integer n =>
      if 0 ≤ n then .ok { config with tickMs := n.toNat } else .error .form
  | "chime", .boolean chime => .ok { config with chime }
  | "indicator", value =>
      (indicator? Datum.isVacant value).map fun indicator => { config with indicator }
  | "keys", .table entries =>
      (bindings? entries).map fun bindings => { config with keys := .ofList bindings }
  | "keys", .datetime text => (mask? (.text text)).map fun _ => config
  | _, _ =>
      if field ∈ fieldNames then .error .form
      else .error (.unknownField ⟨field, fieldNames⟩)

/-- The settings of a document. -/
def ofDocument (entries : List (String × Datum)) : Except Misfit Config :=
  entries.foldlM (fun config entry => config.takeEntry entry.1 entry.2) {}

/-- Read settings from a document that has been read already. -/
def ofEntries (entries : List (String × Datum)) : Except Error Config :=
  match ofDocument entries with
  | .error misfit => .error (.misfit misfit)
  | .ok config =>
      match config.validate with
      | .error flaw => .error (.invalid flaw)
      | .ok () => .ok config

/-- Read settings from the text of a document. -/
def parse (text : String) : Except Error Config :=
  match Toml.read? text with
  | none => .error .malformed
  | some entries => ofEntries entries

/-- Why a sequence written on one line is refused. -/
inductive OverrideError
  | badStep (step : String) (cause : UnknownButton)
  | invalid (flaw : Flaw)
  deriving DecidableEq

/-- The refusal in words, the general part first. -/
def OverrideError.chain : OverrideError → List String
  | badStep step cause => ["Invalid sequence step '" ++ step ++ "'", cause.message]
  | invalid flaw => [flaw.message]

/-- The steps of a sequence that is written on one line. -/
def readSteps : List (List Char) → Except OverrideError (List Mask)
  | [] => .ok []
  | step :: rest =>
      match Mask.ofChars step with
      | .error cause => .error (.badStep (String.ofList (Text.trim step)) cause)
      | .ok mask => (readSteps rest).map (mask :: ·)

/-- Replace the sequence: the settings afterwards, and whether they are accepted. -/
def override
    (config : Config)
    (list : String) : Config × Except OverrideError Unit :=
  match readSteps (list.toList.splitOn ',') with
  | .error error => (config, .error error)
  | .ok sequence =>
      let config := { config with sequence }
      match config.validate with
      | .error flaw => (config, .error (.invalid flaw))
      | .ok () => (config, .ok ())

theorem validate_noSequence
    {config : Config}
    (h : config.sequence = []) :
    config.validate = .error .noSequence := by
  simp [validate, h]

theorem validate_emptyStep
    {config : Config}
    (h : Mask.empty ∈ config.sequence) :
    config.validate = .error .emptyStep := by
  have hne : config.sequence ≠ [] := List.ne_nil_of_mem h
  have hany : config.sequence.any Mask.isEmpty = true :=
    List.any_eq_true.mpr ⟨.empty, h, rfl⟩
  simp [validate, hne, hany]

/-- A sequence in which every step presses a button leaves only the tick to be checked. -/
theorem validate_of_pressed
    {config : Config}
    (hne : config.sequence ≠ [])
    (hpressed : ∀ mask ∈ config.sequence, mask ≠ .empty) :
    config.validate = if config.tickMs = 0 then .error .noTick else .ok () := by
  have hany : config.sequence.any Mask.isEmpty = false := by
    rw [List.any_eq_false]
    intro mask hmask hempty
    exact hpressed mask hmask (Mask.isEmpty_iff.mp hempty)
  simp [validate, hne, hany]

/-- Settings are accepted exactly if there is a sequence, every step of it presses a
button, and a tick takes time. -/
theorem validate_eq_ok_iff
    {config : Config} :
    config.validate = .ok () ↔
      config.sequence ≠ [] ∧ (∀ mask ∈ config.sequence, mask ≠ .empty) ∧ config.tickMs ≠ 0 := by
  by_cases hseq : config.sequence = []
  · simp [validate_noSequence hseq, hseq]
  · by_cases hempty : Mask.empty ∈ config.sequence
    · rw [validate_emptyStep hempty]
      simp only [reduceCtorEq, false_iff]
      exact fun h => h.2.1 .empty hempty rfl
    · have hpressed : ∀ mask ∈ config.sequence, mask ≠ .empty := by
        rintro mask hmask rfl
        exact hempty hmask
      rw [validate_of_pressed hseq hpressed]
      by_cases htick : config.tickMs = 0
      · simp [htick]
      · simpa [hseq, htick] using hpressed

/-- A step that cannot be read changes nothing. -/
theorem override_badStep
    {config : Config}
    {list : String}
    {error : OverrideError}
    (h : readSteps (list.toList.splitOn ',') = .error error) :
    config.override list = (config, .error error) := by
  simp [override, h]

end Config
end ButtonCombo
