import Mathlib.Data.List.Basic
import WidgetTemplate.Context

/-!
# Scopes of a script

A script sees one current parent, which a scope overwrites while it lasts and
puts back when it ends.  `Tells` says what a script notes without a parent that
is overwritten: every part of the script is given the parent that it stands
under.  `runAll_follows` proves that running a script comes to the same,
however deep its scopes are and wherever a step gives up.

What the notes look like from outside is read off them with a stack of the
parents that the open scopes will put back.
-/

namespace WidgetTemplate

namespace ScopeStep

variable {η : Type}

/-- The current parent at a moment of a script. -/
abbrev Note (η : Type) := Moment × Option η

/-! ## What a script notes -/

/--
What a script notes under a current parent, and whether it gives up.  The steps
of a scope stand under the widget of the scope.  Behind a scope, and behind a
scope in which a step has given up, the parent is noted that the scope itself
stands under.
-/
inductive Tells : Option η → List (ScopeStep η) → List (Note η) → Bool → Prop where
  | done {current : Option η} : Tells current [] [] false
  | look {current : Option η} {script : List (ScopeStep η)} {notes : List (Note η)}
      {failed : Bool} (later : Tells current script notes failed) :
      Tells current (.look :: script) ((.look, current) :: notes) failed
  | fail {current : Option η} {script : List (ScopeStep η)} :
      Tells current (.fail :: script) [(.fail, current)] true
  | scope {current : Option η} {parent : η} {steps script : List (ScopeStep η)}
      {inside notes : List (Note η)} {failed : Bool}
      (inner : Tells (some parent) steps inside false)
      (later : Tells current script notes failed) :
      Tells current (.scope parent steps :: script)
        ((.enter, some parent) :: (inside ++ (.leave, current) :: notes)) failed
  | broken {current : Option η} {parent : η} {steps script : List (ScopeStep η)}
      {inside : List (Note η)} (inner : Tells (some parent) steps inside true) :
      Tells current (.scope parent steps :: script)
        ((.enter, some parent) :: (inside ++ [(.leave, current)])) true

/--
The parent that was noted last, if any was noted since `current` was the parent.
-/
def lastNoted (current : Option η) : List (Note η) → Option η
  | [] => current
  | (_, noted) :: rest => lastNoted noted rest

/-- The records that scopes leave when their parents are noted. -/
def recordsOf (current : Option η) : List (Note η) → List (LogRecord η)
  | [] => []
  | (.enter, some parent) :: rest =>
      .entered parent :: recordsOf (some parent) rest
  | (.leave, restored) :: rest => .left current restored :: recordsOf restored rest
  | (_, noted) :: rest => recordsOf noted rest

@[simp]
theorem lastNoted_append (current : Option η) (first second : List (Note η)) :
    lastNoted current (first ++ second) =
      lastNoted (lastNoted current first) second := by
  induction first generalizing current with
  | nil => rfl
  | cons note rest induction => exact induction note.2

theorem recordsOf_append (current : Option η) (first second : List (Note η)) :
    recordsOf current (first ++ second) =
      recordsOf current first ++ recordsOf (lastNoted current first) second := by
  induction first generalizing current with
  | nil => rfl
  | cons note rest induction =>
      rcases note with ⟨_ | _ | _ | _, _ | noted⟩
      all_goals
        simp only [List.cons_append, recordsOf, lastNoted, induction]

theorem Tells.lastNoted_eq {current : Option η} {script : List (ScopeStep η)}
    {notes : List (Note η)} {failed : Bool}
    (tells : Tells current script notes failed) :
    lastNoted current notes = current := by
  induction tells with
  | done => rfl
  | look later induction => exact induction
  | fail => rfl
  | scope inner later _ induction =>
      simp only [lastNoted, lastNoted_append]
      exact induction
  | broken inner induction => simp only [lastNoted, lastNoted_append]

/-! ## Running a script -/

/-- Running a script has led from one outcome to another as it tells. -/
structure Follows (before after : Outcome η)
    (script : List (ScopeStep η)) : Prop where
  restored : after.context.parent = before.context.parent
  told :
    ∃ notes,
      Tells before.context.parent script notes after.failed ∧
        after.notes.toList = before.notes.toList ++ notes ∧
        after.context.log.toList =
          before.context.log.toList ++ recordsOf before.context.parent notes

/-- The outcome just inside a scope. -/
def Outcome.inside (outcome : Outcome η) (parent : η) : Outcome η :=
  { outcome with context := outcome.context.enter parent }.note .enter

/-- The outcome just behind a scope that was entered under a parent. -/
def Outcome.outside (outcome : Outcome η) (above : Option η) : Outcome η :=
  { outcome with context := outcome.context.leave above }.note .leave

theorem run_scope (outcome : Outcome η) (parent : η) (steps : List (ScopeStep η)) :
    run outcome (.scope parent steps) =
      (runAll (outcome.inside parent) steps).outside outcome.context.parent := by
  rw [run]
  rfl

namespace Follows

variable {outcome inner after : Outcome η} {script steps : List (ScopeStep η)}

theorem done (going : outcome.failed = false) : Follows outcome outcome [] where
  restored := rfl
  told := by
    refine ⟨[], ?_, ?_, ?_⟩
    · rw [going]
      exact .done
    · exact (List.append_nil _).symm
    · exact (List.append_nil _).symm

theorem look (later : Follows (outcome.note .look) after script) :
    Follows outcome after (.look :: script) where
  restored := later.restored
  told := by
    rcases later.told with ⟨notes, tells, noted, logged⟩
    refine ⟨_, .look tells, ?_, ?_⟩
    · rw [noted]
      simp [Outcome.note]
    · exact logged

theorem fail :
    Follows outcome { outcome.note .fail with failed := true }
      (.fail :: script) where
  restored := rfl
  told := by
    refine ⟨_, .fail, ?_, ?_⟩
    · simp [Outcome.note]
    · simp [Outcome.note, recordsOf]

/-- What is noted and recorded from in front of a scope up to behind it. -/
theorem around {parent : η}
    (inside : Follows (outcome.inside parent) inner steps) :
    ∃ notes,
      Tells (some parent) steps notes inner.failed ∧
        (inner.outside outcome.context.parent).notes.toList =
          outcome.notes.toList ++
            (.enter, some parent) ::
                (notes ++ [(.leave, outcome.context.parent)]) ∧
        (inner.outside outcome.context.parent).context.log.toList =
          outcome.context.log.toList ++
            recordsOf outcome.context.parent
              ((.enter, some parent) ::
                (notes ++ [(.leave, outcome.context.parent)])) := by
  rcases inside with ⟨restored, notes, tells, noted, logged⟩
  have here : (outcome.inside parent).context.parent = some parent := rfl
  rw [here] at restored tells logged
  refine ⟨notes, tells, ?_, ?_⟩
  · simp only [Outcome.outside, Outcome.note, Array.toList_push, noted]
    simp [Outcome.inside, Outcome.note, Context.enter, Context.leave]
  · rw [recordsOf, recordsOf_append, tells.lastNoted_eq]
    simp only [Outcome.outside, Outcome.note, Context.leave, Context.note,
      Array.toList_push, logged, restored]
    simp [Outcome.inside, Outcome.note, Context.enter, Context.note, recordsOf]

theorem broken {parent : η} (inside : Follows (outcome.inside parent) inner steps)
    (failed : inner.failed = true) :
    Follows outcome (inner.outside outcome.context.parent)
      (.scope parent steps :: script) where
  restored := rfl
  told := by
    rcases inside.around with ⟨notes, tells, noted, logged⟩
    refine ⟨_, ?_, noted, logged⟩
    have stopped : (inner.outside outcome.context.parent).failed = true := failed
    rw [stopped]
    rw [failed] at tells
    exact .broken tells

theorem scope {parent : η} (inside : Follows (outcome.inside parent) inner steps)
    (going : inner.failed = false)
    (later : Follows (inner.outside outcome.context.parent) after script) :
    Follows outcome after (.scope parent steps :: script) where
  restored := later.restored
  told := by
    rcases inside.around with ⟨notes, tells, noted, logged⟩
    rcases later.told with ⟨rest, tellsRest, notedRest, loggedRest⟩
    have here :
        (inner.outside outcome.context.parent).context.parent =
          outcome.context.parent := rfl
    rw [here] at tellsRest loggedRest
    rw [going] at tells
    refine ⟨_, .scope tells tellsRest, ?_, ?_⟩
    · rw [notedRest, noted]
      simp
    · rw [loggedRest, logged, List.append_assoc]
      simp only [recordsOf, recordsOf_append, tells.lastNoted_eq,
        List.append_assoc, List.cons_append, List.nil_append]

end Follows

theorem runAll_follows (outcome : Outcome η) (going : outcome.failed = false) :
    (script : List (ScopeStep η)) → Follows outcome (runAll outcome script) script
  | [] => .done going
  | .look :: rest => by
      have goesOn : (run outcome .look).failed = false := going
      have later := runAll_follows (run outcome .look) goesOn rest
      rw [runAll, goesOn]
      exact .look later
  | .fail :: rest => .fail
  | .scope parent steps :: rest => by
      have inside := runAll_follows (outcome.inside parent) going steps
      rw [runAll, run_scope]
      cases stopped : (runAll (outcome.inside parent) steps).failed with
      | true =>
          have broken :
              ((runAll (outcome.inside parent) steps).outside
                outcome.context.parent).failed =
                true := stopped
          rw [broken]
          exact inside.broken stopped
      | false =>
          have goesOn :
              ((runAll (outcome.inside parent) steps).outside
                outcome.context.parent).failed =
                false := stopped
          rw [goesOn]
          exact inside.scope stopped (runAll_follows _ goesOn rest)

/-! ## Scopes in notes -/

/--
Notes between which no scope is left open, and none is left that
was not entered.
-/
inductive Closed : List (Note η) → Prop where
  | nil : Closed []
  | look {current : Option η} {rest : List (Note η)} (later : Closed rest) :
      Closed ((.look, current) :: rest)
  | fail {current : Option η} {rest : List (Note η)} (later : Closed rest) :
      Closed ((.fail, current) :: rest)
  | scope {entered restored : Option η} {inside rest : List (Note η)}
      (inner : Closed inside) (later : Closed rest) :
      Closed ((.enter, entered) :: (inside ++ (.leave, restored) :: rest))

/--
The parents in force behind a note: the current one, and those that open
scopes put back.
-/
def stand (parents : List (Option η)) : Note η → List (Option η)
  | (.enter, entered) => entered :: parents
  | (.leave, _) => parents.tail
  | (.look, _) => parents
  | (.fail, _) => parents

/-- The parents in force behind notes, innermost first. -/
def standing (parents : List (Option η)) (notes : List (Note η)) :
    List (Option η) :=
  notes.foldl stand parents

/-- Every note tells the innermost of the parents in force. -/
def Agrees : List (Option η) → List (Note η) → Prop
  | _, [] => True
  | parents, note :: rest =>
      (stand parents note).head? = some note.2 ∧ Agrees (stand parents note) rest

theorem standing_append (parents : List (Option η))
    (first second : List (Note η)) :
    standing parents (first ++ second) =
      standing (standing parents first) second :=
  List.foldl_append

theorem Closed.standing_eq {notes : List (Note η)} (closed : Closed notes)
    (parents : List (Option η)) :
    standing parents notes = parents := by
  induction closed generalizing parents with
  | nil => rfl
  | look _ induction => exact induction parents
  | fail _ induction => exact induction parents
  | @scope entered restored inside rest _ _ inner later =>
      show standing (entered :: parents) (inside ++ (.leave, restored) :: rest) =
        parents
      rw [standing_append, inner]
      exact later parents

theorem agrees_append (parents : List (Option η)) (first second : List (Note η)) :
    Agrees parents (first ++ second) ↔
      Agrees parents first ∧ Agrees (standing parents first) second := by
  induction first generalizing parents with
  | nil => exact (iff_of_eq (true_and _)).symm
  | cons note rest induction =>
      show _ ∧ Agrees _ (rest ++ second) ↔ (_ ∧ Agrees _ rest) ∧ _
      rw [induction, and_assoc]
      rfl

/-- The parent that was noted last is the innermost one in force. -/
theorem Agrees.head?_standing {parents : List (Option η)} {notes : List (Note η)}
    {current : Option η} (agrees : Agrees parents notes)
    (innermost : parents.head? = some current) :
    (standing parents notes).head? = some (lastNoted current notes) := by
  induction notes generalizing parents current with
  | nil => exact innermost
  | cons note rest induction => exact induction agrees.2 agrees.1

namespace Tells

variable {current : Option η} {script : List (ScopeStep η)} {notes : List (Note η)}
variable {failed : Bool}

theorem closed (tells : Tells current script notes failed) : Closed notes := by
  induction tells with
  | done => exact .nil
  | look _ induction => exact .look induction
  | fail => exact .fail .nil
  | scope _ _ inner later => exact .scope inner later
  | broken _ inner => exact .scope inner .nil

theorem agrees (tells : Tells current script notes failed)
    (outer : List (Option η)) :
    Agrees (current :: outer) notes := by
  induction tells generalizing outer with
  | done => trivial
  | look _ induction => exact ⟨rfl, induction outer⟩
  | fail => exact ⟨rfl, trivial⟩
  | @scope current parent _ _ inside notes _ inner _ innerAgrees later =>
      refine ⟨rfl,
        (agrees_append _ inside _).mpr ⟨innerAgrees (current :: outer), ?_⟩⟩
      show Agrees (standing (some parent :: current :: outer) inside) _
      rw [inner.closed.standing_eq]
      exact ⟨rfl, later outer⟩
  | @broken current parent _ _ inside inner innerAgrees =>
      refine ⟨rfl,
        (agrees_append _ inside _).mpr ⟨innerAgrees (current :: outer), ?_⟩⟩
      show Agrees (standing (some parent :: current :: outer) inside) _
      rw [inner.closed.standing_eq]
      exact ⟨rfl, trivial⟩

/-- Nothing is noted of a step that gives up if none does. -/
theorem fail_notMem (tells : Tells current script notes failed)
    (going : failed = false) :
    ∀ note ∈ notes, note.1 ≠ .fail := by
  induction tells with
  | done => exact List.forall_mem_nil _
  | look _ induction =>
      exact List.forall_mem_cons.mpr ⟨nofun, induction going⟩
  | fail => cases going
  | scope _ _ inner later =>
      refine List.forall_mem_cons.mpr
        ⟨nofun, List.forall_mem_append.mpr ⟨inner rfl, ?_⟩⟩
      exact List.forall_mem_cons.mpr ⟨nofun, later going⟩
  | broken => cases going

/--
A script that gives up notes that once, and then only puts back what open
scopes put back.
-/
theorem unwinds (tells : Tells current script notes failed)
    (gaveUp : failed = true) (outer : List (Option η)) :
    ∃ before noted restored,
      notes = before ++ (.fail, noted) :: restored.map (.leave, ·) ∧
        (∀ note ∈ before, note.1 ≠ .fail) ∧
        standing (current :: outer) before = noted :: (restored ++ outer) := by
  induction tells generalizing outer with
  | done => cases gaveUp
  | @look current _ _ _ _ induction =>
      rcases induction gaveUp outer with
        ⟨before, noted, restored, rfl, none, stands⟩
      refine ⟨(.look, current) :: before, noted, restored, rfl, ?_, stands⟩
      exact List.forall_mem_cons.mpr ⟨nofun, none⟩
  | @fail current _ => exact ⟨[], current, [], rfl, List.forall_mem_nil _, rfl⟩
  | @scope current parent _ _ inside _ _ inner _ _ later =>
      rcases later gaveUp outer with ⟨before, noted, restored, rfl, none, stands⟩
      refine
        ⟨(.enter, some parent) :: (inside ++ (.leave, current) :: before), noted,
          restored, ?_, ?_, ?_⟩
      · simp
      · refine List.forall_mem_cons.mpr
          ⟨nofun, List.forall_mem_append.mpr ⟨?_, ?_⟩⟩
        · exact inner.fail_notMem rfl
        · exact List.forall_mem_cons.mpr ⟨nofun, none⟩
      · show standing (some parent :: current :: outer) (inside ++ _) = _
        rw [standing_append, inner.closed.standing_eq]
        exact stands
  | @broken current parent _ _ _ _ induction =>
      rcases induction gaveUp (current :: outer) with
        ⟨before, noted, restored, rfl, none, stands⟩
      refine
        ⟨(.enter, some parent) :: before, noted, restored ++ [current], ?_, ?_, ?_⟩
      · simp
      · exact List.forall_mem_cons.mpr ⟨nofun, none⟩
      · show standing (some parent :: current :: outer) before = _
        rw [stands, List.append_assoc]
        rfl

/-- Behind a step that gives up, the open scopes are left, innermost first. -/
theorem leaves_behind_fail {before after : List (Note η)} {noted : Option η}
    (tells : Tells current script notes failed)
    (split : notes = before ++ (.fail, noted) :: after) :
    after = (standing [current] before).tail.map (.leave, ·) := by
  cases failed with
  | false =>
      have noFail := tells.fail_notMem rfl (.fail, noted)
      rw [split] at noFail
      exact absurd rfl (noFail List.mem_append_cons_self)
  | true =>
      rcases tells.unwinds rfl [] with
        ⟨front, found, restored, same, noFail, stands⟩
      -- There is one step that gives up, so the notes can be split
      -- in one way only.
      rw [same, List.append_cons_inj_of_notMem] at split
      · rcases split with ⟨rfl, -, rfl⟩
        rw [stands, List.append_nil]
        rfl
      · exact fun member => noFail _ member rfl
      · intro member
        rcases List.mem_map.mp member with ⟨_, _, different⟩
        cases different

/-- Behind a scope, the parent from in front of it is noted. -/
theorem restored_eq {before inside after : List (Note η)}
    {entered restored : Option η} (tells : Tells current script notes failed)
    (split : notes =
      before ++ (.enter, entered) :: (inside ++ (.leave, restored) :: after))
    (closed : Closed inside) :
    restored = lastNoted current before := by
  have agrees := tells.agrees []
  rw [split, agrees_append] at agrees
  rcases agrees with ⟨front, -, back⟩
  have behind := ((agrees_append _ inside _).mp back).2
  rw [closed.standing_eq] at behind
  have same : some (lastNoted current before) = some restored :=
    (front.head?_standing rfl).symm.trans behind.1
  exact (Option.some.inj same).symm

/--
Inside a scope, the widget of the scope is noted wherever no
inner scope is open.
-/
theorem lastNoted_inside {before inside after : List (Note η)} {entered : Option η}
    (tells : Tells current script notes failed)
    (split : notes = before ++ (.enter, entered) :: (inside ++ after))
    (closed : Closed inside) :
    lastNoted entered inside = entered := by
  have agrees := tells.agrees []
  rw [split, agrees_append] at agrees
  rcases agrees with ⟨-, -, back⟩
  have within := ((agrees_append _ inside _).mp back).1
  have top : (entered :: standing [current] before).head? = some entered := rfl
  have innermost := within.head?_standing top
  rw [closed.standing_eq] at innermost
  exact (Option.some.inj innermost).symm

end Tells

/--
Scopes keep the current parent, whatever a script does and wherever it gives
up:

- The parent at the end is the one from the start.
- What is noted is what the script tells if each of its steps is given the
  parent it stands under.
- The parent behind a scope is the one from right in front of the scope.
- Inside a scope, behind any scopes that have ended in it, the parent is the
  widget that was entered.
- Behind a step that gives up, nothing is noted but that the open scopes are
  left, innermost first.
- The records are those of the scopes that are entered and left in the notes.
-/
theorem outcomeOf_keeps_scopes (parent : Option η) (script : List (ScopeStep η)) :
    let outcome := outcomeOf parent script
    let notes := outcome.notes.toList
    outcome.context.parent = parent ∧
      Tells parent script notes outcome.failed ∧
      (∀ before entered inside restored after,
        notes = before ++
            (.enter, entered) :: (inside ++ (.leave, restored) :: after) →
          Closed inside → restored = lastNoted parent before) ∧
      (∀ before entered inside after,
        notes = before ++ (.enter, entered) :: (inside ++ after) →
          Closed inside → lastNoted entered inside = entered) ∧
      (∀ before noted after,
        notes = before ++ (.fail, noted) :: after →
          after = (standing [parent] before).tail.map (.leave, ·)) ∧
      outcome.context.log.toList = recordsOf parent notes := by
  intro outcome notes
  have follows : Follows _ outcome script := runAll_follows _ rfl script
  rcases follows with ⟨restored, told, tells, noted, logged⟩
  have all : notes = told := noted
  rw [all]
  refine ⟨restored, tells, ?_, ?_, ?_, logged⟩
  · intro before entered inside restored after split closed
    exact tells.restored_eq split closed
  · intro before entered inside after split closed
    exact tells.lastNoted_inside split closed
  · intro before noted after split
    exact tells.leaves_behind_fail split

/-- A scope ends, another is entered, and in a scope inside it a step gives up. -/
theorem outcomeOf_keeps_scopes_around_failure :
    let script : List (ScopeStep Nat) :=
      [.scope 5 [.scope 6 [], .look],
        .scope 7 [.scope 8 [.fail, .look], .look], .look]
    let inside : List (Note Nat) :=
      [(.enter, some 6), (.leave, some 5), (.look, some 5)]
    let opening : List (Note Nat) := [(.enter, some 7), (.enter, some 8)]
    let leaves : List (Note Nat) := [(.leave, some 7), (.leave, some 3)]
    let before := (.enter, some 5) :: (inside ++ (.leave, some 3) :: opening)
    let outcome := outcomeOf (some 3) script
    outcome.notes.toList = before ++ (.fail, some 8) :: leaves ∧
      Closed inside ∧
      some 3 = lastNoted (some 3) ([] : List (Note Nat)) ∧
      lastNoted (some 5) inside = some 5 ∧
      leaves = (standing [some 3] before).tail.map (.leave, ·) ∧
      outcome.context.parent = some 3 := by
  intro script inside opening leaves before outcome
  rcases outcomeOf_keeps_scopes (some 3) script with
    ⟨ends, -, behind, within, unwinds, -⟩
  have noted : outcome.notes.toList = before ++ (.fail, some 8) :: leaves := rfl
  have closed : Closed inside := .scope .nil (.look .nil)
  refine ⟨noted, closed, ?_, ?_, unwinds _ _ _ noted, ends⟩
  · exact behind [] (some 5) inside (some 3)
      (opening ++ (.fail, some 8) :: leaves) noted closed
  · exact within [] (some 5) inside _ noted closed

end ScopeStep

end WidgetTemplate
