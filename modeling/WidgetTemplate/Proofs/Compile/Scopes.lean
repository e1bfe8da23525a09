import WidgetTemplate.Proofs.Compile.Ledger

/-!
# Scopes

A toplevel or container that a toolkit has built becomes the current parent
while its body is compiled.  The scope is entered and left with a record each,
and it is left however the body ends.  `Bracketed` says of a list of records
that its scopes are brackets: what is entered is left, with the parent from
before the scope put back.

A compile leaves bracketed records under every toolkit, and the scopes in them
are those of the toplevels and containers that the toolkit has granted.
-/

namespace WidgetTemplate

variable {σ η ε α β : Type}

/-! ## Records of scopes -/

namespace LogRecord

/-- The widget of the scope that a record opens. -/
def entered? : LogRecord η → Option η
  | .entered parent => some parent
  | _ => none

/--
A record that a compile leaves within a scope.  If it tells of an element that
is about to be built, it tells the current parent.
-/
def NotedUnder (current : Option η) : LogRecord η → Prop
  | .building _ _ parent => parent = current
  | .leafText _ _ => True
  | .spliced _ => True
  | _ => False

theorem NotedUnder.entered?_eq_none
    {current : Option η} {entry : LogRecord η}
    (noted : entry.NotedUnder current) :
    entry.entered? = none := by
  cases entry with
  | entered parent => exact noted.elim
  | _ => rfl

end LogRecord

/--
Records whose scopes are brackets, with `current` as the current parent before
and after each of them.  A scope is closed by the record that gives up the
widget it was opened with and puts back the parent from before.
-/
inductive Bracketed : Option η → List (LogRecord η) → Prop where
  | nil {current : Option η} : Bracketed current []
  | note {current : Option η} {entry : LogRecord η} {rest : List (LogRecord η)}
      (noted : entry.NotedUnder current) (later : Bracketed current rest) :
      Bracketed current (entry :: rest)
  | scope {current : Option η} {inside rest : List (LogRecord η)} (handle : η)
      (inner : Bracketed (some handle) inside) (later : Bracketed current rest) :
      Bracketed current
        (.entered handle :: (inside ++ .left (some handle) current :: rest))

theorem Bracketed.append
    {current : Option η} {first second : List (LogRecord η)}
    (head : Bracketed current first) (tail : Bracketed current second) :
    Bracketed current (first ++ second) := by
  induction head with
  | nil => exact tail
  | note noted later induction => exact .note noted (induction tail)
  | scope handle inner later _ induction =>
      rw [List.cons_append, List.append_assoc, List.cons_append]
      exact .scope handle inner (induction tail)

/-- The widget of a toplevel or container that was granted. -/
def Answered.opened? : Answered η ε → Option η
  | { request := .toplevel _, reply := .ok handle } => some handle
  | { request := .container _ _, reply := .ok handle } => some handle
  | _ => none

theorem Answered.opened?_of_error (request : Request η) (cause : ε) :
    ({ request, reply := .error cause } : Answered η ε).opened? = none := by
  cases request with
  | toplevel kind => rfl
  | container kind parent => rfl
  | leaf kind parent text => rfl

/-! ## Parts of a compile that account for their scopes -/

/--
What happened between two states of a toolkit with a ledger is accounted for:
the current parent is as before, the records in between are bracketed, and the
scopes in them are those of the granted toplevels and containers, in order.
-/
structure Account (parent : Option η)
    (before after : BuildState (σ × List (Answered η ε)) η) : Prop where
  restored : after.context.parent = parent
  told :
    ∃ records answers,
      after.context.log.toList = before.context.log.toList ++ records ∧
        after.toolkit.2 = before.toolkit.2 ++ answers ∧
        Bracketed parent records ∧
        records.filterMap LogRecord.entered? =
          answers.filterMap Answered.opened?

namespace Account

variable {parent : Option η}
variable {first second third : BuildState (σ × List (Answered η ε)) η}

theorem refl (under : first.context.parent = parent) :
    Account parent first first where
  restored := under
  told := ⟨[], [], by simp, by simp, .nil, rfl⟩

theorem trans (head : Account parent first second)
    (tail : Account parent second third) :
    Account parent first third where
  restored := tail.restored
  told := by
    rcases head.told with ⟨records, answers, logged, kept, bracketed, scopes⟩
    rcases tail.told with
      ⟨recordsToo, answersToo, loggedToo, keptToo, bracketedToo, scopesToo⟩
    refine ⟨records ++ recordsToo, answers ++ answersToo, ?_, ?_,
      bracketed.append bracketedToo, ?_⟩
    · rw [loggedToo, logged, List.append_assoc]
    · rw [keptToo, kept, List.append_assoc]
    · rw [List.filterMap_append, List.filterMap_append, scopes, scopesToo]

/-- An answer that opens no scope leaves no record. -/
theorem closed {toolkit after : σ} {ledger : List (Answered η ε)}
    {context : Context η} {answered : Answered η ε}
    (closed : answered.opened? = none) (under : context.parent = parent) :
    Account parent
      { toolkit := (toolkit, ledger)
        context }
      { toolkit := (after, ledger ++ [answered])
        context } where
  restored := under
  told := ⟨[], [answered], by simp, rfl, .nil, by simp [closed]⟩

end Account

/-- A part of a compile that accounts for its scopes under a current parent. -/
def Accounts (parent : Option η)
    (part : Build (σ × List (Answered η ε)) η ε α) : Prop :=
  ∀ state : BuildState (σ × List (Answered η ε)) η,
    state.context.parent = parent →
      Account parent state (Effect.runFrom part state).2

namespace Accounts

variable {parent : Option η}

theorem pure (value : α) :
    Accounts parent (pure value : Build (σ × List (Answered η ε)) η ε α) :=
  fun _ under => .refl under

theorem throw (error : CompileError ε) :
    Accounts parent (throw error : Build (σ × List (Answered η ε)) η ε α) :=
  fun _ under => .refl under

theorem afterParent
    {next : Option η → Build (σ × List (Answered η ε)) η ε α}
    (accounts : Accounts parent (next parent)) :
    Accounts parent (Build.parent >>= next) := by
  rintro state rfl
  exact accounts state rfl

theorem record (entry : LogRecord η) (noted : entry.NotedUnder parent) :
    Accounts parent
      (Build.record entry : Build (σ × List (Answered η ε)) η ε Unit) := by
  intro state under
  constructor
  · exact under
  · refine ⟨[entry], [], ?_, ?_, .note noted .nil, ?_⟩
    · exact Array.toList_push
    · exact (List.append_nil _).symm
    · rw [List.filterMap_cons, noted.entered?_eq_none]
      rfl

theorem bind
    {part : Build (σ × List (Answered η ε)) η ε α}
    {next : α → Build (σ × List (Answered η ε)) η ε β}
    (first : Accounts parent part)
    (second : ∀ value, Accounts parent (next value)) :
    Accounts parent (part >>= next) := by
  intro state under
  have head := first state under
  rw [Effect.runFrom_bind]
  rcases ran : Effect.runFrom part state with ⟨result, middle⟩
  rw [ran] at head
  cases result with
  | error error => exact head
  | ok value => exact head.trans (second value middle head.restored)

variable {factory : WidgetFactory σ η ε}

/-- A leaf is built without a scope of its own. -/
theorem leaf (kind : LeafKind) (above : Option η) (text : String) :
    Accounts parent
      (Build.request ((Request.leaf kind above text).ask factory.withLedger)) := by
  intro state under
  rw [Build.runFrom_request, Request.ask_withLedger]
  exact .closed rfl under

/--
The scope of a widget that was granted last.  The answer that granted it is
part of the account, since it opened the scope.
-/
theorem within {inner : Build (σ × List (Answered η ε)) η ε α}
    {handle : η} {answered : Answered η ε}
    (opened : answered.opened? = some handle)
    (inside : Accounts (some handle) inner)
    (toolkit after : σ) (ledger : List (Answered η ε)) {context : Context η}
    (under : context.parent = parent) :
    Account parent
      { toolkit := (toolkit, ledger)
        context }
      (Effect.runFrom (Build.within handle inner)
        { toolkit := (after, ledger ++ [answered])
          context }).2 := by
  rw [Build.runFrom_within]
  have account :=
    inside
      { toolkit := (after, ledger ++ [answered])
        context := context.enter handle } rfl
  rcases account with ⟨restored, records, answers, logged, kept, bracketed, scopes⟩
  constructor
  · exact under
  · refine ⟨.entered handle :: (records ++ [.left (some handle) parent]),
      answered :: answers, ?_, ?_, .scope handle bracketed .nil, ?_⟩
    · simp only [Context.leave, Context.note, Array.toList_push, logged, restored,
        under]
      simp [Context.enter, Context.note]
    · simp only [kept, List.append_assoc, List.singleton_append]
    · simp [LogRecord.entered?, opened, scopes]

/-- A toplevel or container is built, and its body is compiled in its scope. -/
theorem scope (request : Request η)
    (opens : ∀ handle,
      ({ request, reply := .ok handle } : Answered η ε).opened? = some handle)
    {inner : Build (σ × List (Answered η ε)) η ε α}
    (inside : ∀ handle, Accounts (some handle) inner)
    (next : η → Compiled η) :
    Accounts parent
      (do let handle ← Build.request (request.ask factory.withLedger)
          let _ ← Build.within handle inner
          return next handle) := by
  rintro ⟨⟨toolkit, ledger⟩, context⟩ under
  rw [Effect.runFrom_bind, Build.runFrom_request, request.ask_withLedger]
  rcases request.ask factory toolkit with ⟨reply, after⟩
  cases reply with
  | error cause => exact .closed (Answered.opened?_of_error request cause) under
  | ok handle =>
      have account :=
        within (opens handle) (inside handle) toolkit after ledger under
      have granted :
          (Except.ok handle : Except ε η).mapError CompileError.factory =
            .ok handle := rfl
      rw [granted]
      simp only [Effect.runFrom_bind]
      rcases ran :
          Effect.runFrom (Build.within handle inner)
            { toolkit := (after, ledger ++ [{ request, reply := .ok handle }])
              context } with ⟨result, last⟩
      rw [ran] at account
      cases result with
      | error error => exact account
      | ok value => exact account

theorem leafText (name : String) (result : Compiled η) :
    Accounts parent
      (leafText name result : Build (σ × List (Answered η ε)) η ε String) := by
  unfold WidgetTemplate.leafText
  cases result.single with
  | text content =>
      exact
        (record (.leafText name content) trivial).bind fun _ => pure content
  | widget handle => exact throw _
  | sequence items => exact throw _

theorem recordSplice (result : Compiled η) :
    Accounts parent
      (recordSplice result : Build (σ × List (Answered η ε)) η ε Unit) := by
  cases result with
  | text content => exact pure ()
  | widget handle => exact pure ()
  | sequence items => exact record (.spliced items.length) trivial

end Accounts

/-! ## The scopes of a compile -/

mutual

/-- A compile accounts for its scopes under every current parent. -/
theorem compile_accounts (factory : WidgetFactory σ η ε) (parent : Option η) :
    (node : Node) → Accounts parent (compile factory.withLedger node)
  | .text content => Accounts.pure _
  | .sequence [] => sequence_accounts factory parent []
  | .sequence [only] => by
      unfold compile
      exact compile_accounts factory parent only
  | .sequence (first :: second :: rest) =>
      sequence_accounts factory parent (first :: second :: rest)
  | .tag name _ body => by
      -- The body is compiled in the scope of the element if it is no leaf.
      have inside := fun above => compile_accounts factory above body
      unfold compile
      refine Accounts.afterParent ?_
      rcases Element.named? name with _ | (kind | kind | kind)
      · exact Accounts.throw _
      · refine (Accounts.record (.building _ name parent) rfl).bind fun _ => ?_
        exact
          Accounts.scope (.toplevel kind) (fun _ => rfl)
            (fun handle => inside (some handle)) Compiled.widget
      · refine (Accounts.record (.building _ name parent) rfl).bind fun _ => ?_
        exact
          Accounts.scope (.container kind parent) (fun _ => rfl)
            (fun handle => inside (some handle)) Compiled.widget
      · refine (Accounts.record (.building _ name parent) rfl).bind fun _ => ?_
        refine (inside parent).bind fun result => ?_
        refine (Accounts.leafText name result).bind fun text => ?_
        exact (Accounts.leaf kind parent text).bind fun _ => Accounts.pure _

theorem sequence_accounts (factory : WidgetFactory σ η ε) (parent : Option η)
    (children : List Node) :
    Accounts parent
      (do let results ← compileAll factory.withLedger children
          return (Compiled.sequence results).single) :=
  (compileAll_accounts factory parent children).bind fun _ => Accounts.pure _

theorem compileAll_accounts (factory : WidgetFactory σ η ε) (parent : Option η) :
    (children : List Node) →
      Accounts parent (compileAll factory.withLedger children)
  | [] => Accounts.pure _
  | child :: rest => by
      unfold compileAll
      refine (compile_accounts factory parent child).bind fun result => ?_
      refine (Accounts.recordSplice result).bind fun _ => ?_
      exact (compileAll_accounts factory parent rest).bind fun _ =>
        Accounts.pure _

end

/--
Every scope of a compile is closed, however the compile ends.  For every
toolkit, which may refuse any request, and from every state:

- A ledger of the requests and replies makes no difference to the compile.
- The current parent after the compile is the one from before.
- The records of the compile are bracketed.  What is entered is left exactly
  once, the record that leaves it puts back the parent from before the scope,
  and an element about to be built is recorded with the parent of the scope
  that it stands in.
- The widgets that are entered are the toplevels and containers that the
  toolkit has built, in the order in which it built them.
-/
theorem compile_closes_scopes (factory : WidgetFactory σ η ε) (node : Node)
    (state : BuildState σ η) :
    let run := Effect.runFrom (compile factory node) state
    let kept :=
      Effect.runFrom (compile factory.withLedger node)
        (state.mapToolkit (·, []))
    run = (kept.1, kept.2.mapToolkit Prod.fst) ∧
      run.2.context.parent = state.context.parent ∧
      ∃ records,
        run.2.context.log.toList = state.context.log.toList ++ records ∧
          Bracketed state.context.parent records ∧
          records.filterMap LogRecord.entered? =
            kept.2.toolkit.2.filterMap Answered.opened? := by
  intro run kept
  have same : run = (kept.1, kept.2.mapToolkit Prod.fst) :=
    compile_withLedger factory node state []
  have account : Account state.context.parent (state.mapToolkit (·, [])) kept.2 :=
    compile_accounts factory state.context.parent node _ rfl
  rcases account with
    ⟨restored, records, answers, logged, ledger, bracketed, scopes⟩
  have all : kept.2.toolkit.2 = answers := ledger
  refine ⟨same, ?_, records, ?_, bracketed, ?_⟩
  · rw [same]
    exact restored
  · rw [same]
    exact logged
  · rw [all]
    exact scopes

end WidgetTemplate
