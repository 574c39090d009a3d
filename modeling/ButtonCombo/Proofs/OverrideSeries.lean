import ButtonCombo.Proofs.SequenceOverride

/-!
# Overrides that are refused

A line that is to replace the sequence is refused for one of two reasons.  If one of its
steps is no mask, the settings stay as they were.  If all its steps are masks, but one of
them presses no button, the settings are left with the new sequence and are not valid any
more.  This is the only way in which an override makes valid settings invalid, and they stay
so until the next line whose steps are all masks.

Main facts:

* `override_of_readAs`, `override_of_unread`: what becomes of a line;
* `overrideAll_eq`: the settings after a series of lines;
* `override_refused_keeps`: which refused lines keep the settings, and which series keep
  them valid;
* `override_emptyStep_changes`: a refused line that does not.
-/

namespace ButtonCombo
namespace Config

/-- Every step of the line is a mask, and these are the masks. -/
def ReadAs
    (list : String)
    (sequence : List Mask) : Prop :=
  List.Forall₂ Mask.Reads (list.toList.splitOn ',') sequence

/-- Every step of the line is a mask, and one of the masks presses no button. -/
def HasEmptyStep (list : String) : Prop :=
  ∃ sequence, ReadAs list sequence ∧ Mask.empty ∈ sequence

/-- The masks of a line, if all its steps are masks. -/
def lineMasks? (list : String) : Option (List Mask) :=
  (Mask.ofTexts (list.toList.splitOn ',')).toOption

/-- The masks of the last line of masks. -/
def lastMasks? (lists : List String) : Option (List Mask) :=
  lists.reverse.findSome? lineMasks?

section Lines

variable {config : Config} {list : String} {sequence : List Mask}

theorem lineMasks?_eq_some_iff :
    lineMasks? list = some sequence ↔ ReadAs list sequence := by
  rw [ReadAs, ← Mask.ofTexts_eq_ok_iff, lineMasks?]
  cases Mask.ofTexts (list.toList.splitOn ',') <;> simp [Except.toOption]

/-- A line has at least one step. -/
theorem ReadAs.ne_nil
    (h : ReadAs list sequence) :
    sequence ≠ [] := by
  rintro rfl
  exact List.splitOn_ne_nil ',' list.toList (List.forall₂_nil_right_iff.mp h)

theorem ReadAs.hasEmptyStep_iff
    (h : ReadAs list sequence) :
    HasEmptyStep list ↔ Mask.empty ∈ sequence := by
  constructor
  · rintro ⟨other, hother, hempty⟩
    rw [← lineMasks?_eq_some_iff] at h hother
    rw [h] at hother
    cases hother
    exact hempty
  · intro hempty
    exact ⟨sequence, h, hempty⟩

/-- Settings with the sequence of a line are valid if each of its steps presses a button
and a tick takes time. -/
theorem ReadAs.validate_eq
    (h : ReadAs list sequence)
    (htick : config.tickMs ≠ 0) :
    ({ config with sequence } : Config).validate =
      if Mask.empty ∈ sequence then .error .emptyStep else .ok () := by
  split
  · rename_i hempty
    exact validate_emptyStep hempty
  · rename_i hpressed
    refine validate_eq_ok_iff.mpr ⟨h.ne_nil, ?_, htick⟩
    rintro mask hmask rfl
    exact hpressed hmask

/-- A line of masks replaces the sequence, accepted or not. -/
theorem override_of_readAs
    (h : ReadAs list sequence)
    (htick : config.tickMs ≠ 0) :
    config.override list =
      ({ config with sequence },
        if Mask.empty ∈ sequence then .error (.invalid .emptyStep) else .ok ()) := by
  rw [override_of_read config (Mask.ofTexts_eq_ok_iff.mpr h), h.validate_eq htick]
  split <;> rfl

/-- A line with a step that is no mask is refused and changes nothing. -/
theorem override_of_unread
    (config : Config)
    (h : lineMasks? list = none) :
    ∃ error, config.override list = (config, .error error) := by
  cases hread : Mask.ofTexts (list.toList.splitOn ',') with
  | error bad => exact ⟨_, override_of_bad config hread⟩
  | ok sequence =>
      rw [lineMasks?, hread] at h
      cases h

/-- The settings after a line, whatever comes of it. -/
theorem override_fst
    (config : Config)
    (list : String) :
    (config.override list).1 =
      { config with sequence := (lineMasks? list).getD config.sequence } := by
  cases hread : lineMasks? list with
  | none =>
      obtain ⟨error, hrefused⟩ := config.override_of_unread hread
      rw [hrefused]
      rfl
  | some sequence =>
      rw [lineMasks?_eq_some_iff] at hread
      rw [override_of_read config (Mask.ofTexts_eq_ok_iff.mpr hread)]
      rfl

/-- A refused line keeps valid settings unless it has an empty step. -/
theorem override_fst_eq_self_iff
    (hvalid : config.validate = .ok ())
    {error : OverrideError}
    (hrefused : (config.override list).2 = .error error) :
    (config.override list).1 = config ↔ ¬ HasEmptyStep list := by
  obtain ⟨-, hpressed, htick⟩ := validate_eq_ok_iff.mp hvalid
  cases hread : lineMasks? list with
  | none =>
      obtain ⟨reported, hkept⟩ := config.override_of_unread hread
      rw [hkept]
      refine iff_of_true rfl ?_
      rintro ⟨sequence, hsequence, -⟩
      rw [lineMasks?_eq_some_iff.mpr hsequence] at hread
      cases hread
  | some sequence =>
      rw [lineMasks?_eq_some_iff] at hread
      have hempty : Mask.empty ∈ sequence := by
        by_contra hnone
        rw [override_of_readAs hread htick, if_neg hnone] at hrefused
        cases hrefused
      refine iff_of_false ?_ (not_not_intro (hread.hasEmptyStep_iff.mpr hempty))
      rw [override_of_readAs hread htick]
      intro hsame
      -- no step of settings that are valid is empty
      have hsequence : sequence = config.sequence := congrArg Config.sequence hsame
      exact hpressed .empty (hsequence ▸ hempty) rfl

end Lines

section Series

variable {config : Config} {lists : List String}

/-- The settings after a series of lines: the sequence is that of the last line of masks. -/
theorem overrideAll_eq
    (config : Config)
    (lists : List String) :
    config.overrideAll lists =
      { config with sequence := (lastMasks? lists).getD config.sequence } := by
  induction lists using List.reverseRecOn with
  | nil => rfl
  | append_singleton lists list ih =>
      have hlast : config.overrideAll (lists ++ [list]) =
          ((config.overrideAll lists).override list).1 := by
        rw [overrideAll, List.foldl_append]
        rfl
      rw [hlast, override_fst, ih, lastMasks?, lastMasks?, List.reverse_concat,
        List.findSome?_cons]
      cases lineMasks? list <;> rfl

/-- Valid settings are valid after a series of lines unless the last line of masks has an
empty step. -/
theorem validate_overrideAll_iff
    (hvalid : config.validate = .ok ()) :
    (config.overrideAll lists).validate = .ok () ↔
      ∀ sequence ∈ lastMasks? lists, Mask.empty ∉ sequence := by
  obtain ⟨hne, hpressed, htick⟩ := validate_eq_ok_iff.mp hvalid
  rw [overrideAll_eq]
  cases hlast : lastMasks? lists with
  | none => simpa using hvalid
  | some sequence =>
      obtain ⟨list, -, hread⟩ := List.exists_of_findSome?_eq_some hlast
      rw [lineMasks?_eq_some_iff] at hread
      rw [Option.getD_some, hread.validate_eq htick]
      simp

/-- A document is read as valid settings or not at all. -/
theorem validate_of_parse
    {text : String}
    (h : parse text = .ok config) :
    config.validate = .ok () := by
  cases hread : Toml.read? text with
  | none => simp [parse, hread] at h
  | some entries =>
      simp only [parse, hread] at h
      cases hdocument : ofDocument entries with
      | error misfit => simp [ofEntries_of_misfit hdocument] at h
      | ok read =>
          rw [ofEntries_of_document hdocument] at h
          cases hvalid : read.validate with
          | error flaw => simp [hvalid, Except.mapError, Except.map] at h
          | ok =>
              rw [hvalid] at h
              cases h
              exact hvalid

end Series

/-- **Refused overrides.**  A refused line leaves valid settings as they were, and valid,
exactly if it is not a line of masks with an empty step.  Such a line is refused for that
step, but its sequence stays in the settings.  From the defaults or from a document, a series
of lines changes the sequence to that of the last line of masks and nothing else; the
settings are valid after it unless that line has an empty step, and so they are if no line of
the series has one. -/
theorem override_refused_keeps
    (config : Config)
    (hvalid : config.validate = .ok ())
    (list : String) :
    (∀ error, (config.override list).2 = .error error →
      ((config.override list).1 = config ∧ (config.override list).1.validate = .ok () ↔
        ¬ HasEmptyStep list) ∧
      ∀ sequence, ReadAs list sequence →
        error = .invalid .emptyStep ∧ Mask.empty ∈ sequence ∧
        (config.override list).1 = { config with sequence }) ∧
    ∀ (start : Config) (lists : List String),
      (start = {} ∨ ∃ text, parse text = .ok start) →
        start.overrideAll lists =
          { start with sequence := (lastMasks? lists).getD start.sequence } ∧
        ((start.overrideAll lists).validate = .ok () ↔
          ∀ sequence ∈ lastMasks? lists, Mask.empty ∉ sequence) ∧
        ((∀ list ∈ lists, ¬ HasEmptyStep list) → (start.overrideAll lists).validate = .ok ()) := by
  constructor
  · intro error hrefused
    have hkept := override_fst_eq_self_iff hvalid hrefused
    constructor
    · rw [← hkept]
      exact ⟨And.left, fun hsame => ⟨hsame, by rw [hsame, hvalid]⟩⟩
    · intro sequence hread
      have hline := override_of_readAs hread (validate_eq_ok_iff.mp hvalid).2.2
      rw [hline] at hrefused ⊢
      split at hrefused
      · rename_i hempty
        cases hrefused
        exact ⟨rfl, hempty, rfl⟩
      · cases hrefused
  · intro start lists hstart
    have hvalid : start.validate = .ok () := by
      rcases hstart with rfl | ⟨text, htext⟩
      · rfl
      · exact validate_of_parse htext
    refine ⟨overrideAll_eq start lists, validate_overrideAll_iff hvalid, fun hpressed => ?_⟩
    rw [validate_overrideAll_iff hvalid]
    intro sequence hlast hempty
    obtain ⟨list, hlist, hread⟩ := List.exists_of_findSome?_eq_some hlast
    rw [lineMasks?_eq_some_iff] at hread
    exact hpressed list (List.mem_reverse.mp hlist) ⟨sequence, hread, hempty⟩

/-- A line that is refused for a missing step, and a series that recovers from an empty
one. -/
theorem override_refused_keeps_missing :
    ({} : Config).validate = .ok () ∧
    (override {} "UP,,A").2 = .error (.badStep "" ⟨""⟩) ∧
    ¬ HasEmptyStep "UP,,A" ∧
    (override {} "UP,,A").1.validate = .ok () ∧
    (overrideAll {} ["0x0", "UP, b+a", "?"]).validate = .ok () := by
  have hrefused : (override {} "UP,,A").2 = .error (.badStep "" ⟨""⟩) := by cbv
  have hunread : lineMasks? "UP,,A" = none := by cbv
  have hstep : ¬ HasEmptyStep "UP,,A" := by
    rintro ⟨sequence, hread, -⟩
    rw [lineMasks?_eq_some_iff.mpr hread] at hunread
    cases hunread
  have hlast : lastMasks? ["0x0", "UP, b+a", "?"] =
      some [.ofButton .dpadUp, .ofButton .b ||| .ofButton .a] := by cbv
  refine ⟨rfl, hrefused, hstep, ?_, ?_⟩
  · exact (((override_refused_keeps {} rfl _).1 _ hrefused).1.mpr hstep).2
  · refine ((override_refused_keeps {} rfl "UP,,A").2 {} _ (Or.inl rfl)).2.1.mpr ?_
    rw [hlast]
    rintro sequence ⟨⟩
    decide

/-- A line that is refused and changes the settings all the same: they lose their sequence
and are valid no more. -/
theorem override_emptyStep_changes :
    ({} : Config).validate = .ok () ∧
    override {} "0x0" = ({ sequence := [.empty] }, .error (.invalid .emptyStep)) ∧
    ({} : Config).sequence ≠ [.empty] ∧
    ({ sequence := [.empty] } : Config).validate = .error .emptyStep := by
  refine ⟨rfl, ?_, by decide, rfl⟩
  cbv

end Config
end ButtonCombo
