import ButtonCombo.Proofs.MaskPrint
import ButtonCombo.Proofs.SequenceOverride
import ButtonCombo.Watch.Print

/-!
# Printed sequences are read back

A sequence is printed as its masks with commas between them, and perhaps blanks behind the
commas.  No mask is printed with a comma, so the line is cut where it was joined; each step
is then read as its mask.  Only the empty mask has a print that is no mask text: a line with
it is refused for the dash.

Main facts:

* `splitOn_printed`: the steps of a printed sequence;
* `ofTexts_printed`, `ofTexts_printed_empty`: how its steps are read;
* `override_printed`: a printed sequence on the command line.
-/

namespace ButtonCombo

namespace Mask

/-- The line of a printed sequence, with some padding behind each comma. -/
def printed
    (pad : List Char)
    (masks : List Mask) : List Char :=
  (',' :: pad).intercalate (masks.map fun mask => mask.text.toList)

/-- The steps of a printed sequence: all but the first are padded. -/
def printedSteps
    (pad : List Char) : List Mask → List (List Char)
  | [] => []
  | mask :: masks => mask.text.toList :: masks.map fun later => pad ++ later.text.toList

/-- The step stands for the mask as its print does, padded or not. -/
def PrintOf
    (step : List Char)
    (mask : Mask) : Prop :=
  ofChars step = ofChars mask.text.toList ∧ Text.trim step = Text.trim mask.text.toList

variable {pad : List Char} {masks : List Mask}

/-- The padding behind the commas may be taken for the beginnings of the steps. -/
theorem printed_eq
    (pad : List Char)
    (masks : List Mask) :
    printed pad masks = [','].intercalate (printedSteps pad masks) := by
  induction masks with
  | nil => rfl
  | cons mask masks ih =>
      cases masks with
      | nil => rfl
      | cons next rest =>
          have hrest : [','].intercalate (printedSteps pad (mask :: next :: rest)) =
              mask.text.toList ++ ',' :: pad ++
                [','].intercalate (printedSteps pad (next :: rest)) := by
            cases rest <;> simp [printedSteps, List.intercalate_cons_cons]
          rw [hrest, ← ih]
          simp [printed, List.intercalate_cons_cons]

/-- The steps of a printed sequence. -/
theorem splitOn_printed
    (hpad : ',' ∉ pad)
    (hne : masks ≠ []) :
    (printed pad masks).splitOn ',' = printedSteps pad masks := by
  have hcomma : ∀ mask : Mask, ',' ∉ mask.text.toList := by
    intro mask hmem
    rcases mem_text hmem with hpart | hplus | hdash
    · exact absurd hpart (by decide)
    · exact absurd hplus (by decide)
    · exact absurd hdash (by decide)
  rw [printed_eq]
  refine List.splitOn_intercalate ',' ?_ ?_
  · intro step hstep
    cases masks with
    | nil => cases hstep
    | cons mask masks =>
        rcases List.mem_cons.mp hstep with rfl | hlater
        · exact hcomma mask
        · obtain ⟨later, -, rfl⟩ := List.mem_map.mp hlater
          simp [hpad, hcomma later]
  · cases masks with
    | nil => exact absurd rfl hne
    | cons => simp [printedSteps]

/-- Padding changes neither what a step stands for nor what is reported about it. -/
theorem printOf_printedSteps
    (hpad : ∀ c ∈ pad, Text.isBlank c = true)
    (masks : List Mask) :
    List.Forall₂ PrintOf (printedSteps pad masks) masks := by
  have hpadded : ∀ mask : Mask, PrintOf (pad ++ mask.text.toList) mask := by
    intro mask
    have htrim := Text.trim_blank_append hpad mask.text.toList
    refine ⟨?_, htrim⟩
    rw [ofChars, ofChars, partsOf, partsOf, htrim]
  cases masks with
  | nil => exact .nil
  | cons mask masks =>
      refine .cons ⟨rfl, rfl⟩ ?_
      rw [List.forall₂_map_left_iff, List.forall₂_same]
      exact fun later _ => hpadded later

/-- The steps of a printed sequence without an empty mask are read as its masks. -/
theorem ofTexts_printed
    {steps : List (List Char)}
    (h : List.Forall₂ PrintOf steps masks)
    (hpressed : ∀ mask ∈ masks, mask ≠ empty) :
    ofTexts steps = .ok masks := by
  rw [ofTexts_eq_ok_iff]
  induction h with
  | nil => exact .nil
  | cons hstep hsteps ih =>
      obtain ⟨hmask, hrest⟩ := List.forall_mem_cons.mp hpressed
      exact .cons (hstep.1.trans (ofChars_text hmask)) (ih hrest)

/-- The first empty mask of a printed sequence is reported as the dash. -/
theorem ofTexts_printed_empty
    {steps : List (List Char)}
    (h : List.Forall₂ PrintOf steps masks)
    (hempty : empty ∈ masks) :
    ∃ step, ofTexts steps = .error (step, ⟨"-"⟩) ∧ Text.trim step = ['-'] := by
  induction h with
  | nil => cases hempty
  | @cons step mask steps masks hstep hsteps ih =>
      by_cases hmask : mask = empty
      · subst hmask
        have hread : ofChars step = .error ⟨"-"⟩ := hstep.1.trans ofChars_text_empty
        refine ⟨step, ?_, hstep.2⟩
        simp only [ofTexts, hread]
      · have hread : ofChars step = .ok mask := hstep.1.trans (ofChars_text hmask)
        rcases List.mem_cons.mp hempty with heq | hlater
        · exact absurd heq.symm hmask
        · obtain ⟨bad, hbad, htrim⟩ := ih hlater
          refine ⟨bad, ?_, htrim⟩
          simp only [ofTexts, hread, hbad, Except.map]

end Mask

namespace Config

/-- The two ways to join printed masks differ in the padding behind the comma. -/
theorem toList_joined
    {separator : String}
    (hseparator : separator = "," ∨ separator = ", ") :
    ∃ pad, (∀ c ∈ pad, Text.isBlank c = true) ∧ ',' ∉ pad ∧
      ∀ masks : List Mask,
        (separator.intercalate (masks.map Mask.text)).toList = Mask.printed pad masks := by
  rcases hseparator with rfl | rfl
  · refine ⟨[], by simp, by simp, fun masks => ?_⟩
    rw [String.toList_intercalate, List.map_map]
    rfl
  · refine ⟨[' '], List.forall_mem_singleton.mpr (by decide), by decide, fun masks => ?_⟩
    rw [String.toList_intercalate, List.map_map]
    rfl

/-- **A printed sequence is read back.**  A line of printed masks, none of them empty, sets
exactly these masks; the line that a watch shows is one.  With an empty mask anywhere the
line is refused for the dash and changes nothing.  Hence different sequences are printed
differently. -/
theorem override_printed
    {separator : String}
    (hseparator : separator = "," ∨ separator = ", ")
    (config : Config)
    (masks : List Mask) :
    (config.tickMs ≠ 0 → masks ≠ [] → (∀ mask ∈ masks, mask ≠ .empty) →
      config.override (separator.intercalate (masks.map Mask.text)) =
        ({ config with sequence := masks }, .ok ())) ∧
    (.empty ∈ masks →
      ∃ error,
        config.override (separator.intercalate (masks.map Mask.text)) = (config, .error error) ∧
        error.chain = ["Invalid sequence step '-'", "Unknown button: -"]) ∧
    (∀ others : List Mask,
      masks ≠ [] → (∀ mask ∈ masks, mask ≠ .empty) →
      others ≠ [] → (∀ mask ∈ others, mask ≠ .empty) →
      separator.intercalate (masks.map Mask.text) = separator.intercalate (others.map Mask.text) →
      masks = others) ∧
    Watch.heading { config with sequence := masks } =
      "Enter the sequence: " ++ ", ".intercalate (masks.map Mask.text) ++
        "\n(Press Esc or q to quit)\n" := by
  obtain ⟨pad, hblank, hpad, hjoined⟩ := toList_joined hseparator
  have hread : ∀ {sequence : List Mask}, sequence ≠ [] → (∀ mask ∈ sequence, mask ≠ .empty) →
      Mask.ofTexts ((separator.intercalate (sequence.map Mask.text)).toList.splitOn ',') =
        .ok sequence := by
    intro sequence hne hpressed
    rw [hjoined, Mask.splitOn_printed hpad hne]
    exact Mask.ofTexts_printed (Mask.printOf_printedSteps hblank sequence) hpressed
  refine ⟨?_, ?_, ?_, rfl⟩
  · intro htick hne hpressed
    refine override_eq_ok_iff.mpr ⟨masks, hread hne hpressed, rfl, ?_⟩
    exact validate_eq_ok_iff.mpr ⟨hne, hpressed, htick⟩
  · intro hempty
    obtain ⟨step, hbad, htrim⟩ :=
      Mask.ofTexts_printed_empty (Mask.printOf_printedSteps hblank masks) hempty
    rw [← Mask.splitOn_printed hpad (List.ne_nil_of_mem hempty), ← hjoined] at hbad
    refine ⟨_, override_of_bad config hbad, ?_⟩
    rw [htrim]
    rfl
  · intro others hne hpressed hothers hothersPressed hprint
    have hmasks := hread hne hpressed
    rw [hprint, hread hothers hothersPressed] at hmasks
    cases hmasks
    rfl

/-- A chord, a bit without a button, and both together. -/
theorem override_printed_unnamed :
    (", " = "," ∨ ", " = ", ") ∧
    override { tickMs := 7 } "A+B, 0x0080, DPAD_UP+0xe000" =
      ({ tickMs := 7, sequence := [.ofButton .b ||| .ofButton .a, ⟨0x0080⟩, ⟨0xe008⟩] },
       .ok ()) := by
  have hseparator : ", " = "," ∨ ", " = ", " := Or.inr rfl
  refine ⟨hseparator, ?_⟩
  have hprint : ", ".intercalate
      ([.ofButton .b ||| .ofButton .a, ⟨0x0080⟩, ⟨0xe008⟩].map Mask.text) =
        "A+B, 0x0080, DPAD_UP+0xe000" := by
    rfl
  rw [← hprint]
  exact (override_printed hseparator { tickMs := 7 } _).1 (by decide) (by decide) (by decide)

end Config
end ButtonCombo
