import ButtonCombo.Recognizer
import Mathlib.Data.List.Forall2
import Mathlib.Data.List.Induction

/-!
# The blocks of a stream

A stream of codes falls into blocks, each of them one attempt to enter the sequence.  A
full block is the whole sequence; a broken block is a beginning of the sequence and one
code that is wrong after it.  What is left behind the last block is a beginning of the
sequence.  Codes are compared by the equality of their type, whatever it is.

Every stream is factored in exactly one way.  This rests on `Factorization.push`, which
adds one code to a factored stream: adding the codes of a factorization one by one to
nothing builds that factorization, so there is only one.

Main facts:

* `codes_push`, `steps_push`: one more code stands behind all others and adds one step;
* `foldl_push_codes`: adding the codes of a factorization builds it;
* `existsUnique_factorization`: a stream has exactly one factorization.
-/

namespace ButtonCombo

variable {C : Type} [BEq C]

/-- The codes equal the expected ones, position by position. -/
def Agree (codes expected : List C) : Prop :=
  List.Forall₂ (fun code e => (code == e) = true) codes expected

theorem agree_concat_iff
    {codes expected : List C}
    {code e : C} :
    Agree (codes ++ [code]) (expected ++ [e]) ↔ Agree codes expected ∧ (code == e) = true := by
  unfold Agree
  rw [← List.forall₂_reverse_iff]
  simp [and_comm]

/-- A beginning of the sequence grows by the code that is expected next. -/
theorem agree_take_succ_iff
    {sequence front : List C}
    {code : C}
    (hlt : front.length < sequence.length) :
    Agree (front ++ [code]) (sequence.take (front.length + 1)) ↔
      Agree front (sequence.take front.length) ∧ (code == sequence[front.length]) = true := by
  rw [List.take_succ_eq_append_getElem hlt]
  exact agree_concat_iff

/-- One attempt to enter the sequence, finished either way. -/
inductive Block (sequence : List C)
  | full (codes : List C) (agrees : Agree codes sequence)
  | broken (front : List C) (wrong : C)
      (short : front.length < sequence.length)
      (agrees : Agree front (sequence.take front.length))
      (differs : (wrong == sequence[front.length]) = false)

namespace Block

variable {sequence : List C}

/-- The codes of a block. -/
def codes : Block sequence → List C
  | full codes _ => codes
  | broken front wrong .. => front ++ [wrong]

/-- The block enters the whole sequence. -/
def isFull : Block sequence → Bool
  | full .. => true
  | broken .. => false

end Block

/-- The steps of the first codes of an attempt, none of them the last code. -/
def matchedSteps (count : Nat) : List Recognizer.Step :=
  (List.range count).map fun k => .matched (k + 1)

/-- The steps of the codes of a block. -/
def Block.steps {sequence : List C} : Block sequence → List Recognizer.Step
  | full .. => matchedSteps (sequence.length - 1) ++ [.completed]
  | broken front .. => matchedSteps front.length ++ [.reset front.length]

/-- A stream of codes cut into blocks, with a beginning of the sequence left behind
them. -/
@[ext] structure Factorization (sequence : List C) where
  blocks : List (Block sequence)
  remainder : List C
  short : remainder.length < sequence.length
  agrees : Agree remainder (sequence.take remainder.length)

/-- The steps of a list of samples: those of its codes, with an idle one for every
sample without a code. -/
def withIdle {α : Type} : List (Option α) → List Recognizer.Step → List Recognizer.Step
  | none :: samples, steps => .idle :: withIdle samples steps
  | some _ :: samples, step :: steps => step :: withIdle samples steps
  | _, _ => []

namespace Factorization

variable {sequence : List C}

/-- The stream that is factored. -/
def codes (f : Factorization sequence) : List C :=
  f.blocks.flatMap Block.codes ++ f.remainder

/-- The steps that the codes of the stream are answered with. -/
def steps (f : Factorization sequence) : List Recognizer.Step :=
  f.blocks.flatMap Block.steps ++ matchedSteps f.remainder.length

/-- How often the stream enters the whole sequence. -/
def completions (f : Factorization sequence) : Nat :=
  f.blocks.countP Block.isFull

/-- The factorization of the stream without codes. -/
def empty (h : sequence ≠ []) : Factorization sequence where
  blocks := []
  remainder := []
  short := List.length_pos_iff.mpr h
  agrees := List.Forall₂.nil

/-- The factorization with nothing left behind its blocks and one more block. -/
def close
    (f : Factorization sequence)
    (block : Block sequence) : Factorization sequence where
  blocks := f.blocks ++ [block]
  remainder := []
  short := Nat.lt_of_le_of_lt (Nat.zero_le _) f.short
  agrees := List.Forall₂.nil

/-- The code that continues the remainder. -/
def expected (f : Factorization sequence) : C :=
  sequence.get ⟨f.remainder.length, f.short⟩

theorem agree_remainder_concat
    (f : Factorization sequence)
    {code : C}
    (h : (code == f.expected) = true) :
    Agree (f.remainder ++ [code]) (sequence.take (f.remainder.length + 1)) :=
  (agree_take_succ_iff f.short).mpr ⟨f.agrees, h⟩

/-- The remainder with one more code, while that does not make it the whole sequence. -/
def extend
    (f : Factorization sequence)
    (code : C)
    (h : (code == f.expected) = true)
    (hlt : f.remainder.length + 1 < sequence.length) : Factorization sequence where
  blocks := f.blocks
  remainder := f.remainder ++ [code]
  short := by simpa using hlt
  agrees := by simpa using f.agree_remainder_concat h

/-- The block that the last code makes of the remainder. -/
def fullBlock
    (f : Factorization sequence)
    (code : C)
    (h : (code == f.expected) = true)
    (hlast : ¬ f.remainder.length + 1 < sequence.length) : Block sequence :=
  .full (f.remainder ++ [code]) (by
    have hlength : f.remainder.length + 1 = sequence.length := by
      have := f.short
      omega
    have hagree := f.agree_remainder_concat h
    rwa [hlength, List.take_length] at hagree)

/-- The factored stream with one more code behind it. -/
def push
    (f : Factorization sequence)
    (code : C) : Factorization sequence :=
  if h : (code == f.expected) = true then
    if hlt : f.remainder.length + 1 < sequence.length then f.extend code h hlt
    else f.close (f.fullBlock code h hlt)
  else f.close (.broken f.remainder code f.short f.agrees (Bool.eq_false_iff.mpr h))

/-- The step that one more code is answered with. -/
def next
    (f : Factorization sequence)
    (code : C) : Recognizer.Step :=
  if (code == f.expected) = true then
    if f.remainder.length + 1 < sequence.length then .matched (f.remainder.length + 1)
    else .completed
  else .reset f.remainder.length

/-- The steps that further codes are answered with. -/
def nexts : Factorization sequence → List C → List Recognizer.Step
  | _, [] => []
  | f, code :: codes => f.next code :: nexts (f.push code) codes

section Pushing

theorem push_expected
    {f : Factorization sequence}
    {code : C}
    (h : (code == f.expected) = true)
    (hlt : f.remainder.length + 1 < sequence.length) :
    f.push code = f.extend code h hlt := by
  rw [push, dif_pos h, dif_pos hlt]

theorem push_last
    {f : Factorization sequence}
    {code : C}
    (h : (code == f.expected) = true)
    (hlast : ¬ f.remainder.length + 1 < sequence.length) :
    f.push code = f.close (f.fullBlock code h hlast) := by
  rw [push, dif_pos h, dif_neg hlast]

theorem push_wrong
    {f : Factorization sequence}
    {code : C}
    (h : (code == f.expected) = false) :
    f.push code = f.close (.broken f.remainder code f.short f.agrees h) := by
  rw [push, dif_neg (by simp [h])]

/-- One more code stands behind all others. -/
theorem codes_push
    (f : Factorization sequence)
    (code : C) :
    (f.push code).codes = f.codes ++ [code] := by
  cases h : (code == f.expected) with
  | false =>
      rw [push_wrong h]
      simp [codes, close, Block.codes]
  | true =>
      by_cases hlt : f.remainder.length + 1 < sequence.length
      · rw [push_expected h hlt]
        simp [codes, extend]
      · rw [push_last h hlt]
        simp [codes, close, fullBlock, Block.codes]

theorem matchedSteps_succ
    (count : Nat) :
    matchedSteps (count + 1) = matchedSteps count ++ [.matched (count + 1)] := by
  simp [matchedSteps, List.range_succ]

/-- One more code adds one step. -/
theorem steps_push
    (f : Factorization sequence)
    (code : C) :
    (f.push code).steps = f.steps ++ [f.next code] := by
  have hshort := f.short
  cases h : (code == f.expected) with
  | false =>
      rw [push_wrong h]
      simp [steps, close, Block.steps, next, h, matchedSteps]
  | true =>
      by_cases hlt : f.remainder.length + 1 < sequence.length
      · rw [push_expected h hlt]
        simp [steps, extend, next, h, hlt, matchedSteps_succ]
      · have hlength : sequence.length - 1 = f.remainder.length := by omega
        rw [push_last h hlt]
        simp [steps, close, fullBlock, Block.steps, next, h, hlt, hlength, matchedSteps]

theorem codes_foldl_push
    (f : Factorization sequence)
    (codes : List C) :
    (codes.foldl push f).codes = f.codes ++ codes := by
  induction codes generalizing f with
  | nil => simp
  | cons code codes ih => rw [List.foldl_cons, ih, codes_push, List.append_assoc]; rfl

theorem steps_foldl_push
    (f : Factorization sequence)
    (codes : List C) :
    (codes.foldl push f).steps = f.steps ++ f.nexts codes := by
  induction codes generalizing f with
  | nil => simp [nexts]
  | cons code codes ih => rw [List.foldl_cons, ih, steps_push, List.append_assoc]; rfl

end Pushing

section Uniqueness

/-- A whole attempt in which every code is the expected one comes to lie in the
remainder, unless it is the whole sequence. -/
theorem foldl_push_front
    {f : Factorization sequence}
    (hf : f.remainder = [])
    {front : List C}
    (hlt : front.length < sequence.length)
    (hagree : Agree front (sequence.take front.length)) :
    front.foldl push f =
      { blocks := f.blocks, remainder := front, short := hlt, agrees := hagree } := by
  induction front using List.reverseRecOn with
  | nil => exact Factorization.ext rfl hf
  | append_singleton front code ih =>
      rw [List.length_append, List.length_singleton] at hlt
      have hshort : front.length < sequence.length := by omega
      rw [List.length_append, List.length_singleton, agree_take_succ_iff hshort] at hagree
      obtain ⟨hfront, hcode⟩ := hagree
      rw [List.foldl_append, ih hshort hfront, List.foldl_cons, List.foldl_nil,
        push_expected hcode hlt]
      rfl

/-- Adding the codes of a block adds the block. -/
theorem foldl_push_block
    {f : Factorization sequence}
    (hf : f.remainder = [])
    (block : Block sequence) :
    block.codes.foldl push f = f.close block := by
  cases block with
  | broken front wrong short agrees differs =>
      simp only [Block.codes]
      rw [List.foldl_append, foldl_push_front hf short agrees, List.foldl_cons, List.foldl_nil,
        push_wrong differs]
      rfl
  | full codes agrees =>
      simp only [Block.codes]
      have hlength : codes.length = sequence.length := agrees.length_eq
      have hpos : 0 < sequence.length := Nat.lt_of_le_of_lt (Nat.zero_le _) f.short
      -- the block ends with the last code of the sequence
      obtain ⟨front, code, rfl⟩ : ∃ front code, codes = front ++ [code] := by
        rcases List.eq_nil_or_concat codes with hnil | ⟨front, code, hconcat⟩
        · rw [hnil, List.length_nil] at hlength
          omega
        · exact ⟨front, code, by rw [hconcat, List.concat_eq_append]⟩
      rw [List.length_append, List.length_singleton] at hlength
      have hshort : front.length < sequence.length := by omega
      have hagree : Agree (front ++ [code]) (sequence.take (front.length + 1)) := by
        rw [hlength, List.take_length]
        exact agrees
      obtain ⟨hfront, hcode⟩ := (agree_take_succ_iff hshort).mp hagree
      have hlast : ¬ front.length + 1 < sequence.length := by omega
      rw [List.foldl_append, foldl_push_front hf hshort hfront, List.foldl_cons, List.foldl_nil,
        push_last hcode hlast]
      rfl

theorem foldl_push_blocks
    {f : Factorization sequence}
    (hf : f.remainder = [])
    (blocks : List (Block sequence)) :
    ((blocks.flatMap Block.codes).foldl push f).blocks = f.blocks ++ blocks ∧
      ((blocks.flatMap Block.codes).foldl push f).remainder = [] := by
  induction blocks generalizing f with
  | nil => exact ⟨(List.append_nil _).symm, hf⟩
  | cons block blocks ih =>
      rw [List.flatMap_cons, List.foldl_append, foldl_push_block hf]
      obtain ⟨hblocks, hremainder⟩ := ih (f := f.close block) rfl
      refine ⟨?_, hremainder⟩
      rw [hblocks]
      exact List.append_assoc _ _ _

/-- Adding the codes of a factorization one by one builds that factorization. -/
theorem foldl_push_codes
    (h : sequence ≠ [])
    (f : Factorization sequence) :
    f.codes.foldl push (empty h) = f := by
  obtain ⟨hblocks, hremainder⟩ := foldl_push_blocks (f := empty h) rfl f.blocks
  rw [codes, List.foldl_append, foldl_push_front hremainder f.short f.agrees]
  exact Factorization.ext hblocks rfl

/-- A stream has exactly one factorization. -/
theorem existsUnique_factorization
    (h : sequence ≠ [])
    (codes : List C) :
    ∃! f : Factorization sequence, f.codes = codes := by
  refine ⟨codes.foldl push (empty h), codes_foldl_push (empty h) codes, ?_⟩
  rintro f rfl
  exact (foldl_push_codes h f).symm

/-- The steps of a factorization are those that its codes are answered with one by
one. -/
theorem steps_eq_nexts
    (h : sequence ≠ [])
    (f : Factorization sequence) :
    f.steps = (empty h).nexts f.codes := by
  have hsteps := steps_foldl_push (empty h) f.codes
  rwa [foldl_push_codes h f] at hsteps

end Uniqueness
end Factorization
end ButtonCombo
