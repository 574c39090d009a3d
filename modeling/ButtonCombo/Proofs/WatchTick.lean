import ButtonCombo.Script
import ButtonCombo.Watch
import Mathlib.Data.List.Forall2

/-!
# The ticks of a watch

The events of a tick come in some order, but a tick is read without regard to it: a key
that quits ends the watch wherever it stands, and otherwise the buttons of all keys are
taken together.  A group of events without such a key is one frame, so a watch that ends
with a key that quits depends on the frames of its groups alone.

Main facts:

* `quit_readTick`, `pressed_readTick`: what is read from a group of events;
* `frameOf_perm`, `framesOf_perm`: the order of the events makes no difference;
* `follow_congr`: a watch up to a key that quits depends on the frames alone.
-/

namespace ButtonCombo
namespace Watch

/-- The event strikes a key that quits. -/
def TerminalEvent.isQuit (event : TerminalEvent) : Bool :=
  event.struck?.any KeyEvent.isQuit

/-- The buttons that the event presses, if it strikes a bound key. -/
def TerminalEvent.presses?
    (map : KeyMap)
    (event : TerminalEvent) : Option Mask :=
  event.struck?.bind map.lookup

/-- The buttons that all keys of a group press together. -/
def frameOf
    (map : KeyMap)
    (group : List TerminalEvent) : Mask :=
  (group.filterMap (·.presses? map)).foldl (· ||| ·) .empty

/-- The frames of groups of events. -/
def framesOf
    (map : KeyMap)
    (groups : List (List TerminalEvent)) : List Frame :=
  groups.map fun group => some (frameOf map group)

section Reading

variable {map : KeyMap} {group : List TerminalEvent}

theorem quit_readTick
    (map : KeyMap)
    (pressed : Mask)
    (group : List TerminalEvent) :
    (readTick map pressed group).quit = group.any TerminalEvent.isQuit := by
  induction group generalizing pressed with
  | nil => rfl
  | cons event group ih =>
      rw [List.any_cons]
      cases hstruck : event.struck? with
      | none =>
          have hquit : event.isQuit = false := by rw [TerminalEvent.isQuit, hstruck]; rfl
          rw [readTick_cons_other hstruck, ih, hquit, Bool.false_or]
      | some key =>
          have hevent : event.isQuit = key.isQuit := by rw [TerminalEvent.isQuit, hstruck]; rfl
          cases hquit : key.isQuit with
          | true => rw [readTick_cons_quit hstruck hquit, hevent, hquit, Bool.true_or]
          | false => rw [readTick_cons_key hstruck hquit, ih, hevent, hquit, Bool.false_or]

/-- A group without a key that quits adds its buttons to those pressed before. -/
theorem pressed_readTick
    (hgroup : ∀ event ∈ group, event.isQuit = false)
    (pressed : Mask) :
    (readTick map pressed group).pressed =
      (group.filterMap (·.presses? map)).foldl (· ||| ·) pressed := by
  induction group generalizing pressed with
  | nil => rfl
  | cons event group ih =>
      have hevent : event.isQuit = false := hgroup event List.mem_cons_self
      have hrest := ih fun later hlater => hgroup later (List.mem_cons_of_mem event hlater)
      cases hstruck : event.struck? with
      | none =>
          have hpresses : event.presses? map = none := by
            rw [TerminalEvent.presses?, hstruck]
            rfl
          rw [readTick_cons_other hstruck, hrest, List.filterMap_cons_none hpresses]
      | some key =>
          have hquit : key.isQuit = false := by
            rw [TerminalEvent.isQuit, hstruck] at hevent
            exact hevent
          have hpresses : event.presses? map = map.lookup key := by
            rw [TerminalEvent.presses?, hstruck]
            rfl
          rw [readTick_cons_key hstruck hquit, hrest]
          cases hlookup : map.lookup key with
          | none =>
              rw [List.filterMap_cons_none (hpresses.trans hlookup), Option.getD_none,
                Mask.or_empty]
          | some mask =>
              rw [List.filterMap_cons_some (hpresses.trans hlookup), Option.getD_some,
                List.foldl_cons]

/-- A group without a key that quits is one frame. -/
theorem readTick_eq
    (map : KeyMap)
    (hgroup : ∀ event ∈ group, event.isQuit = false) :
    (readTick map .empty group).quit = false ∧
      (readTick map .empty group).pressed = frameOf map group := by
  refine ⟨?_, pressed_readTick hgroup .empty⟩
  rw [quit_readTick, List.any_eq_false]
  exact fun event hevent => Bool.eq_false_iff.mp (hgroup event hevent)

theorem quit_readTick_of_mem
    (map : KeyMap)
    (hgroup : ∃ event ∈ group, event.isQuit = true) :
    (readTick map .empty group).quit = true := by
  rw [quit_readTick, List.any_eq_true]
  exact hgroup

/-- The order of the events makes no difference to their frame. -/
theorem frameOf_perm
    {first second : List TerminalEvent}
    (h : first.Perm second) :
    frameOf map first = frameOf map second := by
  refine (h.filterMap (·.presses? map)).foldl_eq' ?_ Mask.empty
  intro a _ b _ pressed
  rw [Mask.or_assoc, Mask.or_comm a b, ← Mask.or_assoc]

/-- The order of the events within each group makes no difference to the frames. -/
theorem framesOf_perm
    (map : KeyMap)
    {groups others : List (List TerminalEvent)}
    (h : List.Forall₂ List.Perm groups others) :
    framesOf map groups = framesOf map others := by
  induction h with
  | nil => rfl
  | cons hgroup hrest ih =>
      rw [framesOf, List.map_cons, frameOf_perm hgroup]
      exact congrArg (some _ :: ·) ih

/-- The groups have no key that quits in any order of their events. -/
theorem not_isQuit_perm
    {groups others : List (List TerminalEvent)}
    (h : List.Forall₂ List.Perm groups others)
    (hgroups : ∀ group ∈ groups, ∀ event ∈ group, event.isQuit = false) :
    ∀ other ∈ others, ∀ event ∈ other, event.isQuit = false := by
  induction h with
  | nil => exact hgroups
  | cons hgroup hrest ih =>
      rw [List.forall_mem_cons] at hgroups ⊢
      exact ⟨fun event hevent => hgroups.1 event (hgroup.mem_iff.mpr hevent), ih hgroups.2⟩

end Reading

section Loop

variable {config : Config} {map : KeyMap}

/-- A tick with its group of events, and the watch that is left. -/
theorem follow_cons
    {s next last : State}
    {group : List TerminalEvent}
    {groups : List (List TerminalEvent)}
    {acts more : List Act}
    (hgroup : ∀ event ∈ group, event.isQuit = false)
    (hfirst : tick config s (frameOf map group) = .ok (next, acts))
    (hrest : follow config map next groups = .ok (last, more)) :
    follow config map s (group :: groups) = .ok (last, acts ++ more) := by
  obtain ⟨hquit, hpressed⟩ := readTick_eq map hgroup
  rw [← hpressed] at hfirst
  rw [follow_tick hquit hfirst, hrest]
  rfl

/-- A watch up to a key that quits depends on the frames of the groups before it: not on
how the frames came about, nor on what else comes with that key or after it. -/
theorem follow_congr
    {groups others : List (List TerminalEvent)}
    {last final : List TerminalEvent}
    (hgroups : ∀ group ∈ groups, ∀ event ∈ group, event.isQuit = false)
    (hothers : ∀ group ∈ others, ∀ event ∈ group, event.isQuit = false)
    (hlast : ∃ event ∈ last, event.isQuit = true)
    (hfinal : ∃ event ∈ final, event.isQuit = true)
    (hframes : framesOf map groups = framesOf map others)
    (s : State)
    (rest after : List (List TerminalEvent)) :
    follow config map s (groups ++ last :: rest) =
      follow config map s (others ++ final :: after) := by
  induction groups generalizing others s with
  | nil =>
      have hnil : others = [] := List.map_eq_nil_iff.mp hframes.symm
      subst others
      rw [List.nil_append, List.nil_append, follow_quit config s (quit_readTick_of_mem map hlast),
        follow_quit config s (quit_readTick_of_mem map hfinal)]
  | cons group groups ih =>
      cases others with
      | nil => cases hframes
      | cons other others =>
          obtain ⟨hsome, hmore⟩ := List.cons_eq_cons.mp hframes
          have hframe : frameOf map group = frameOf map other := Option.some.inj hsome
          obtain ⟨hquit, hpressed⟩ :=
            readTick_eq map (hgroups group List.mem_cons_self)
          obtain ⟨hquit', hpressed'⟩ :=
            readTick_eq map (hothers other List.mem_cons_self)
          have hrest := ih
            (fun later hlater => hgroups later (List.mem_cons_of_mem group hlater))
            (fun later hlater => hothers later (List.mem_cons_of_mem other hlater)) hmore
          simp only [List.cons_append, follow, hquit, hquit', hpressed, hpressed', hframe, hrest]

end Loop

end Watch
end ButtonCombo
