import ButtonCombo.Config
import ButtonCombo.Proofs.MaskParts
import Mathlib

/-!
# Setting the sequence

The sequence of the settings is set in two ways: as a list of texts in a document, and as
one line with commas between the steps.  Both read the same texts in the same order and
stop at the first one that is no mask; `Mask.ofTexts` is what they share, and each of them
only words the report differently.  What an override does to the settings depends on the
line alone, and it changes nothing besides the sequence.

Main facts:

* `readSteps_eq`, `masks?_eq`: the two readers are `Mask.ofTexts`;
* `override_eq_ok_iff`: when a line is accepted, and what comes of it;
* `overrideAll_keeps`: a run of overrides changes the sequence only;
* `parse_override_agree`: a document and a line with the same steps.
-/

namespace ButtonCombo

namespace Mask

/-- The text is read as the mask. -/
def Reads
    (text : List Char)
    (mask : Mask) : Prop :=
  ofChars text = .ok mask

/-- The masks of several texts, or the first text that is none, with its unknown part. -/
def ofTexts : List (List Char) → Except (List Char × UnknownButton) (List Mask)
  | [] => .ok []
  | text :: rest =>
      match ofChars text with
      | .error unknown => .error (text, unknown)
      | .ok mask => (ofTexts rest).map (mask :: ·)

section Texts

variable {texts before : List (List Char)} {bad : List Char}

theorem ofTexts_eq_ok_iff
    {masks : List Mask} :
    ofTexts texts = .ok masks ↔ List.Forall₂ Reads texts masks := by
  induction texts generalizing masks with
  | nil =>
      constructor
      · intro h
        cases h
        exact .nil
      · intro h
        cases h
        rfl
  | cons text texts ih =>
      cases htext : ofChars text with
      | error unknown =>
          constructor
          · intro h
            simp [ofTexts, htext] at h
          · intro h
            cases h with
            | cons hfirst _ =>
                rw [Reads, htext] at hfirst
                cases hfirst
      | ok mask =>
          constructor
          · intro h
            cases hrest : ofTexts texts with
            | error => simp [ofTexts, htext, hrest, Except.map] at h
            | ok rest =>
                simp only [ofTexts, htext, hrest, Except.map, Except.ok.injEq] at h
                subst h
                exact .cons htext (ih.mp hrest)
          · intro h
            cases h with
            | cons hfirst hrest =>
                rw [Reads, htext] at hfirst
                cases hfirst
                simp only [ofTexts, htext, ih.mpr hrest, Except.map]

/-- The first text that is not read is reported, whatever comes after it. -/
theorem ofTexts_bad
    {unknown : UnknownButton}
    (hbefore : ∀ text ∈ before, ∃ mask, Reads text mask)
    (hbad : ofChars bad = .error unknown)
    (after : List (List Char)) :
    ofTexts (before ++ bad :: after) = .error (bad, unknown) := by
  induction before with
  | nil => simp only [List.nil_append, ofTexts, hbad]
  | cons text before ih =>
      obtain ⟨⟨mask, hmask⟩, hrest⟩ := List.forall_mem_cons.mp hbefore
      rw [Reads] at hmask
      simp only [List.cons_append, ofTexts, hmask, ih hrest, Except.map]

/-- Either all texts are read, or one of them is the first that is not. -/
theorem reads_or_bad
    (texts : List (List Char)) :
    (∃ masks, List.Forall₂ Reads texts masks) ∨
      ∃ before bad after unknown,
        texts = before ++ bad :: after ∧
        (∀ text ∈ before, ∃ mask, Reads text mask) ∧
        ofChars bad = .error unknown := by
  rcases Text.forall₂_or_first Reads texts with
    hread | ⟨before, bad, after, htexts, hbefore, hbad⟩
  · exact Or.inl hread
  · cases hreport : ofChars bad with
    | error unknown => exact Or.inr ⟨before, bad, after, unknown, htexts, hbefore, hreport⟩
    | ok mask => exact absurd hreport (hbad mask)

end Texts
end Mask

namespace Config

section Readers

/-- A line is read step by step. -/
theorem readSteps_eq
    (steps : List (List Char)) :
    readSteps steps =
      (Mask.ofTexts steps).mapError fun bad =>
        .badStep (String.ofList (Text.trim bad.1)) bad.2 := by
  induction steps with
  | nil => rfl
  | cons step steps ih =>
      cases hstep : Mask.ofChars step with
      | error cause => simp only [readSteps, Mask.ofTexts, hstep, Except.mapError]
      | ok mask =>
          simp only [readSteps, Mask.ofTexts, hstep, ih]
          cases Mask.ofTexts steps <;> rfl

/-- The texts of a document are read item by item. -/
theorem masks?_eq
    (texts : List String) :
    masks? (texts.map .text) =
      (Mask.ofTexts (texts.map String.toList)).mapError fun bad => .unknownButton bad.2 := by
  induction texts with
  | nil => rfl
  | cons text texts ih =>
      cases htext : Mask.ofChars text.toList with
      | error unknown =>
          simp only [List.map_cons, masks?, mask?, Mask.parse, Mask.ofTexts, htext, Except.mapError]
      | ok mask =>
          simp only [List.map_cons, masks?, mask?, Mask.parse, Mask.ofTexts, htext, ih]
          cases Mask.ofTexts (texts.map String.toList) <;> rfl

/-- The steps of a line are the texts that were joined. -/
theorem splitOn_joined
    {texts : List String}
    (hne : texts ≠ [])
    (hcomma : ∀ text ∈ texts, ',' ∉ text.toList) :
    (",".intercalate texts).toList.splitOn ',' = texts.map String.toList := by
  rw [String.toList_intercalate]
  refine List.splitOn_intercalate ',' ?_ (by simpa using hne)
  intro chars hchars
  obtain ⟨text, htext, rfl⟩ := List.mem_map.mp hchars
  exact hcomma text htext

end Readers

section Documents

/-- A document is accepted if its entries fit and the settings have no flaw. -/
theorem ofEntries_of_document
    {entries : List (String × Datum)}
    {config : Config}
    (h : ofDocument entries = .ok config) :
    ofEntries entries = (config.validate.mapError Error.invalid).map fun _ => config := by
  simp only [ofEntries, h]
  cases config.validate <;> rfl

theorem ofEntries_of_misfit
    {entries : List (String × Datum)}
    {misfit : Misfit}
    (h : ofDocument entries = .error misfit) :
    ofEntries entries = .error (.misfit misfit) := by
  simp only [ofEntries, h]

theorem ofDocument_sequence
    (texts : List String) :
    ofDocument [("sequence", .list (texts.map .text))] =
      (masks? (texts.map .text)).map fun sequence => { sequence } := by
  simp only [ofDocument, List.foldlM_cons, List.foldlM_nil, takeEntry]
  cases masks? (texts.map .text) <;> rfl

/-- A document that sets the sequence alone keeps the other defaults. -/
theorem ofDocument_of_read
    {texts : List String}
    {sequence : List Mask}
    (h : Mask.ofTexts (texts.map String.toList) = .ok sequence) :
    ofDocument [("sequence", .list (texts.map .text))] = .ok { sequence } := by
  rw [ofDocument_sequence, masks?_eq, h]
  rfl

theorem ofDocument_of_bad
    {texts : List String}
    {bad : List Char × UnknownButton}
    (h : Mask.ofTexts (texts.map String.toList) = .error bad) :
    ofDocument [("sequence", .list (texts.map .text))] = .error (.unknownButton bad.2) := by
  rw [ofDocument_sequence, masks?_eq, h]
  rfl

end Documents

section Overrides

variable {config after : Config} {list : String} {sequence : List Mask}

/-- Once all steps are read, the sequence is replaced and the settings are checked. -/
theorem override_of_read
    (config : Config)
    (h : Mask.ofTexts (list.toList.splitOn ',') = .ok sequence) :
    config.override list =
      ({ config with sequence },
       ({ config with sequence } : Config).validate.mapError OverrideError.invalid) := by
  have hsteps : readSteps (list.toList.splitOn ',') = .ok sequence := by
    rw [readSteps_eq, h]
    rfl
  simp only [override, hsteps]
  cases ({ config with sequence } : Config).validate <;> rfl

/-- A line with a step that cannot be read changes nothing. -/
theorem override_of_bad
    (config : Config)
    {bad : List Char × UnknownButton}
    (h : Mask.ofTexts (list.toList.splitOn ',') = .error bad) :
    config.override list =
      (config, .error (.badStep (String.ofList (Text.trim bad.1)) bad.2)) := by
  refine override_badStep ?_
  rw [readSteps_eq, h]
  rfl

/-- A line is accepted if all its steps are read and the settings with the new sequence
have no flaw. -/
theorem override_eq_ok_iff :
    config.override list = (after, .ok ()) ↔
      ∃ sequence,
        Mask.ofTexts (list.toList.splitOn ',') = .ok sequence ∧
        after = { config with sequence } ∧ after.validate = .ok () := by
  cases hread : Mask.ofTexts (list.toList.splitOn ',') with
  | error bad => simp [override_of_bad config hread]
  | ok sequence =>
      rw [override_of_read config hread]
      constructor
      · intro h
        cases hvalid : ({ config with sequence } : Config).validate with
        | error flaw => simp [hvalid, Except.mapError] at h
        | ok =>
            rw [hvalid] at h
            cases h
            exact ⟨sequence, rfl, rfl, hvalid⟩
      · rintro ⟨other, hother, rfl, hvalid⟩
        cases hother
        rw [hvalid]
        rfl

/-- A line that is accepted is accepted wherever a tick takes time, and sets the same
sequence there. -/
theorem override_transfer
    (h : config.override list = (after, .ok ()))
    {other : Config}
    (htick : other.tickMs ≠ 0) :
    other.override list = ({ other with sequence := after.sequence }, .ok ()) := by
  obtain ⟨sequence, hread, rfl, hvalid⟩ := override_eq_ok_iff.mp h
  obtain ⟨hne, hpressed, -⟩ := validate_eq_ok_iff.mp hvalid
  refine override_eq_ok_iff.mpr ⟨sequence, hread, rfl, ?_⟩
  exact validate_eq_ok_iff.mpr ⟨hne, hpressed, htick⟩

/-- An override changes the sequence only, accepted or not. -/
theorem override_keeps
    (config : Config)
    (list : String) :
    ∃ sequence, (config.override list).1 = { config with sequence } := by
  cases hread : Mask.ofTexts (list.toList.splitOn ',') with
  | error bad => exact ⟨config.sequence, by rw [override_of_bad config hread]⟩
  | ok sequence => exact ⟨sequence, by rw [override_of_read config hread]⟩

/-- Several overrides, one after the other. -/
def overrideAll
    (config : Config)
    (lists : List String) : Config :=
  lists.foldl (fun config list => (config.override list).1) config

/-- Several overrides change the sequence only. -/
theorem overrideAll_keeps
    (config : Config)
    (lists : List String) :
    ∃ sequence, config.overrideAll lists = { config with sequence } := by
  induction lists generalizing config with
  | nil => exact ⟨config.sequence, rfl⟩
  | cons list lists ih =>
      obtain ⟨sequence, hfirst⟩ := config.override_keeps list
      obtain ⟨last, hrest⟩ := ih { config with sequence }
      refine ⟨last, ?_⟩
      rw [overrideAll, List.foldl_cons, hfirst]
      exact hrest

/-- Of several overrides of which the last one is accepted, the last one counts. -/
theorem overrideAll_concat
    {lists : List String}
    (h : ((config.overrideAll lists).override list).2 = .ok ()) :
    config.override list = (config.overrideAll (lists ++ [list]), .ok ()) := by
  obtain ⟨sequence, hwhole⟩ := config.overrideAll_keeps (lists ++ [list])
  have hlast : (config.overrideAll lists).override list =
      (config.overrideAll (lists ++ [list]), .ok ()) := by
    rw [← h, overrideAll, overrideAll, List.foldl_append]
    rfl
  have htick : config.tickMs ≠ 0 := by
    obtain ⟨-, -, -, hvalid⟩ := override_eq_ok_iff.mp hlast
    rw [hwhole] at hvalid
    exact (validate_eq_ok_iff.mp hvalid).2.2
  rw [hwhole] at hlast ⊢
  exact override_transfer hlast htick

end Overrides

section Agreement

variable {texts : List String}

/-- A document and a line of the same steps are accepted together, with the same result. -/
theorem ofEntries_eq_ok_iff_override
    (hne : texts ≠ [])
    (hcomma : ∀ text ∈ texts, ',' ∉ text.toList)
    {config : Config} :
    ofEntries [("sequence", .list (texts.map .text))] = .ok config ↔
      override {} (",".intercalate texts) = (config, .ok ()) := by
  rw [override_eq_ok_iff, splitOn_joined hne hcomma]
  cases htexts : Mask.ofTexts (texts.map String.toList) with
  | error bad => simp [ofEntries_of_misfit (ofDocument_of_bad htexts)]
  | ok sequence =>
      rw [ofEntries_of_document (ofDocument_of_read htexts)]
      constructor
      · intro h
        cases hvalid : ({ sequence } : Config).validate with
        | error flaw => simp [hvalid, Except.mapError, Except.map] at h
        | ok =>
            rw [hvalid] at h
            cases h
            exact ⟨sequence, rfl, rfl, hvalid⟩
      · rintro ⟨other, hother, rfl, hvalid⟩
        cases hother
        rw [hvalid]
        rfl

/-- A document and a line report the same unknown part of the first step that is no mask. -/
theorem reports_of_bad
    (hne : texts ≠ [])
    (hcomma : ∀ text ∈ texts, ',' ∉ text.toList)
    (hbad : ∃ text ∈ texts, ∀ mask, Mask.parse text ≠ .ok mask) :
    ∃ before bad after part,
      texts = before ++ bad :: after ∧
      (∀ text ∈ before, ∃ mask, Mask.parse text = .ok mask) ∧
      Mask.FirstUnknown bad.toList part ∧
      ofEntries [("sequence", .list (texts.map .text))] =
        .error (.misfit (.unknownButton ⟨String.ofList part⟩)) ∧
      override {} (",".intercalate texts) =
        ({}, .error (.badStep (String.ofList (Text.trim bad.toList)) ⟨String.ofList part⟩)) := by
  obtain ⟨text, htext, hnone⟩ := hbad
  rcases Mask.reads_or_bad (texts.map String.toList) with
    ⟨masks, hmasks⟩ | ⟨front, chars, back, unknown, hsplit, hfront, hchars⟩
  · obtain ⟨mask, -, hmask⟩ := Text.exists_mem_of_forall₂ hmasks (List.mem_map_of_mem htext)
    exact absurd hmask (hnone mask)
  · have hall : Mask.ofTexts (texts.map String.toList) = .error (chars, unknown) := by
      rw [hsplit]
      exact Mask.ofTexts_bad hfront hchars back
    obtain ⟨part, hfirst, rfl⟩ := Mask.ofChars_eq_error_iff.mp hchars
    have hdocument := ofEntries_of_misfit (ofDocument_of_bad hall)
    rw [← splitOn_joined hne hcomma] at hall
    have hline := override_of_bad {} hall
    obtain ⟨before, rest, rfl, rfl, hrest⟩ := List.map_eq_append_iff.mp hsplit
    obtain ⟨bad, after, rfl, rfl, rfl⟩ := List.map_eq_cons_iff.mp hrest
    refine ⟨before, bad, after, part, rfl, ?_, hfirst, hdocument, hline⟩
    intro known hknown
    exact hfront known.toList (List.mem_map_of_mem hknown)

/-- A document and a line report a step without a button in the same way. -/
theorem reports_of_empty
    (hne : texts ≠ [])
    (hcomma : ∀ text ∈ texts, ',' ∉ text.toList)
    (hall : ∀ text ∈ texts, ∃ mask, Mask.parse text = .ok mask)
    (hempty : ∃ text ∈ texts, Mask.parse text = .ok .empty) :
    ofEntries [("sequence", .list (texts.map .text))] = .error (.invalid .emptyStep) ∧
      (override {} (",".intercalate texts)).2 = .error (.invalid .emptyStep) := by
  obtain ⟨text, htext, hreads⟩ := hempty
  rcases Mask.reads_or_bad (texts.map String.toList) with
    ⟨masks, hmasks⟩ | ⟨front, chars, back, unknown, hsplit, -, hbad⟩
  · obtain ⟨mask, hmem, hmask⟩ := Text.exists_mem_of_forall₂ hmasks (List.mem_map_of_mem htext)
    rw [Mask.Reads, ← Mask.parse, hreads] at hmask
    cases hmask
    have hflaw : ({ sequence := masks } : Config).validate = .error .emptyStep :=
      validate_emptyStep hmem
    have hread := Mask.ofTexts_eq_ok_iff.mpr hmasks
    constructor
    · rw [ofEntries_of_document (ofDocument_of_read hread), hflaw]
      rfl
    · rw [← splitOn_joined hne hcomma] at hread
      rw [override_of_read {} hread, hflaw]
      rfl
  · exfalso
    have hchars : chars ∈ texts.map String.toList := by
      rw [hsplit]
      simp
    obtain ⟨known, hknown, rfl⟩ := List.mem_map.mp hchars
    obtain ⟨mask, hmask⟩ := hall known hknown
    rw [Mask.parse, hbad] at hmask
    cases hmask

end Agreement

/-- **A document and a line set the same sequence.**  A document that holds nothing but a
sequence is accepted exactly if the line of the same steps is, and both give the same
settings.  The first step that is no mask is reported by both with the same unknown part,
and so is a step without a button.  What an accepted line does depends on the line alone:
it sets the same sequence in all settings in which a tick takes time, it changes nothing
else, and of several lines the last accepted one counts. -/
theorem parse_override_agree
    {document : String}
    {texts : List String}
    (hne : texts ≠ [])
    (hcomma : ∀ text ∈ texts, ',' ∉ text.toList)
    (hread : Toml.read? document = some [("sequence", .list (texts.map .text))]) :
    (∀ config, parse document = .ok config ↔
      override {} (",".intercalate texts) = (config, .ok ())) ∧
    ((∃ text ∈ texts, ∀ mask, Mask.parse text ≠ .ok mask) →
      ∃ before bad after part misfit error,
        texts = before ++ bad :: after ∧
        (∀ text ∈ before, ∃ mask, Mask.parse text = .ok mask) ∧
        Mask.FirstUnknown bad.toList part ∧
        parse document = .error (.misfit misfit) ∧
        misfit.message? = some ("Unknown button: " ++ String.ofList part) ∧
        override {} (",".intercalate texts) = ({}, .error error) ∧
        error.chain =
          ["Invalid sequence step '" ++ String.ofList (Text.trim bad.toList) ++ "'",
           "Unknown button: " ++ String.ofList part]) ∧
    ((∀ text ∈ texts, ∃ mask, Mask.parse text = .ok mask) →
      (∃ text ∈ texts, Mask.parse text = .ok .empty) →
      ∃ flaw,
        parse document = .error (.invalid flaw) ∧
        (override {} (",".intercalate texts)).2 = .error (.invalid flaw) ∧
        flaw.message = "sequence steps must press at least one button") ∧
    ∀ config : Config, config.tickMs ≠ 0 →
      (∀ list, (config.override list).2 = .ok () →
        override {} list =
            ({ sequence := (config.override list).1.sequence }, .ok ()) ∧
          config.override list =
            ({ config with sequence := (config.override list).1.sequence }, .ok ())) ∧
      ∀ lists list, ((config.overrideAll lists).override list).2 = .ok () →
        config.override list = (config.overrideAll (lists ++ [list]), .ok ()) := by
  have hparse : parse document = ofEntries [("sequence", .list (texts.map .text))] := by
    simp only [parse, hread]
  rw [hparse]
  refine ⟨fun config => ofEntries_eq_ok_iff_override hne hcomma, ?_, ?_, ?_⟩
  · intro hbad
    obtain ⟨before, bad, after, part, hsplit, hbefore, hfirst, hdocument, hline⟩ :=
      reports_of_bad hne hcomma hbad
    exact ⟨before, bad, after, part, _, _, hsplit, hbefore, hfirst, hdocument, rfl, hline, rfl⟩
  · intro hall hempty
    obtain ⟨hdocument, hline⟩ := reports_of_empty hne hcomma hall hempty
    exact ⟨_, hdocument, hline, rfl⟩
  · intro config htick
    constructor
    · intro list hlist
      have haccepted : config.override list = ((config.override list).1, .ok ()) := by
        rw [← hlist]
      exact ⟨override_transfer haccepted (by decide), override_transfer haccepted htick⟩
    · intro lists list hlist
      exact overrideAll_concat hlist

/-- A short name, a padded chord and a bit without a button: the document is read by
TOML's rules, and is accepted because the line is. -/
theorem parse_override_agree_chord :
    (["up", " b + A ", "0x8000"] : List String) ≠ [] ∧
    (∀ text ∈ ["up", " b + A ", "0x8000"], ',' ∉ text.toList) ∧
    Toml.read? "sequence = [\"up\", \" b + A \", \"0x8000\"] # three steps" =
      some [("sequence", .list (["up", " b + A ", "0x8000"].map .text))] ∧
    parse "sequence = [\"up\", \" b + A \", \"0x8000\"] # three steps" =
      .ok { sequence := [.ofButton .dpadUp, .ofButton .a ||| .ofButton .b, ⟨0x8000⟩] } := by
  have hne : (["up", " b + A ", "0x8000"] : List String) ≠ [] := by simp
  have hcomma : ∀ text ∈ ["up", " b + A ", "0x8000"], ',' ∉ text.toList := by decide
  have hread : Toml.read? "sequence = [\"up\", \" b + A \", \"0x8000\"] # three steps" =
      some [("sequence", .list (["up", " b + A ", "0x8000"].map .text))] := by cbv
  have hline : override {} (",".intercalate ["up", " b + A ", "0x8000"]) =
      ({ sequence := [.ofButton .dpadUp, .ofButton .a ||| .ofButton .b, ⟨0x8000⟩] }, .ok ()) := by
    cbv
  exact ⟨hne, hcomma, hread, ((parse_override_agree hne hcomma hread).1 _).mpr hline⟩

end Config
end ButtonCombo
