import WidgetTemplate.Proofs.Compile.Flattening

/-!
# Sequences compile part by part

A sequence can be cut anywhere.  Compiling the nodes in front of the cut and
then, where that has led, the nodes behind it comes to the same as compiling
all of them at once, although an empty sequence, a sequence of one node and a
longer one are compiled in different ways.  If the front part fails, nothing
behind the cut leaves a trace, not even in the records.
-/

namespace WidgetTemplate

variable {σ η ε : Type}

/-! ## Where a sequence fails -/

theorem compileAll_append (factory : WidgetFactory σ η ε)
    (left right : List Node) :
    compileAll factory (left ++ right) =
      (do let results ← compileAll factory left
          let later ← compileAll factory right
          return results ++ later) := by
  induction left with
  | nil => simp [compileAll]
  | cons child rest induction =>
      simp only [List.cons_append, compileAll, induction, bind_assoc, pure_bind,
        List.append_assoc]

/-- Splicing a result leaves a record at most; it does not fail. -/
theorem runFrom_recordSplice (ε : Type) (result : Compiled η)
    (state : BuildState σ η) :
    ∃ after,
      Effect.runFrom (recordSplice result : Build σ η ε Unit) state =
        (.ok (), after) := by
  cases result with
  | text content => exact ⟨state, rfl⟩
  | widget handle => exact ⟨state, rfl⟩
  | sequence items => exact ⟨_, rfl⟩

/-- A sequence fails where its nodes fail, and as they do. -/
theorem compile_sequence_eq_error_iff
    {factory : WidgetFactory σ η ε} {children : List Node}
    {state after : BuildState σ η} {error : CompileError ε} :
    Effect.runFrom (compile factory (.sequence children)) state =
        (.error error, after) ↔
      Effect.runFrom (compileAll factory children) state =
        (.error error, after) := by
  have several :
      Effect.runFrom
            (do let results ← compileAll factory children
                return (Compiled.sequence results).single) state =
          (.error error, after) ↔
        Effect.runFrom (compileAll factory children) state =
          (.error error, after) := by
    rw [Effect.runFrom_bind]
    rcases Effect.runFrom (compileAll factory children) state with ⟨result, last⟩
    cases result with
    | error failure => simp
    | ok results => simp
  match children with
  | [] => exact several
  | [only] =>
      -- The node is compiled by itself, and its result is not spliced.
      unfold compile
      simp only [compileAll, Effect.runFrom_bind]
      rcases Effect.runFrom (compile factory only) state with ⟨result, last⟩
      cases result with
      | error failure => simp
      | ok result =>
          rcases runFrom_recordSplice ε result last with ⟨spliced, ran⟩
          simp [ran]
  | _ :: _ :: _ => exact several

/-- Nodes behind the cut do nothing if the sequence in front of it fails. -/
theorem compile_append_of_error
    {factory : WidgetFactory σ η ε} {left : List Node}
    {state after : BuildState σ η} {error : CompileError ε}
    (failed :
      Effect.runFrom (compile factory (.sequence left)) state =
        (.error error, after))
    (right : List Node) :
    Effect.runFrom (compile factory (.sequence (left ++ right))) state =
      (.error error, after) := by
  rw [compile_sequence_eq_error_iff] at failed ⊢
  rw [compileAll_append, Effect.runFrom_bind, failed]

/-! ## What a cut sequence comes to -/

/--
Behind a sequence that compiles, the construction goes on with the nodes behind
the cut.
-/
theorem construct_append_of_ok
    {factory : WidgetFactory σ η ε} {parent : Option η} {left : List Node}
    {toolkit after : σ} {pieces : List (Piece η)}
    (built :
      (construct factory parent (.sequence left)).runFrom toolkit =
        (.ok pieces, after))
    (right : List Node) :
    (construct factory parent (.sequence (left ++ right))).runFrom toolkit =
      let later := (construct factory parent (.sequence right)).runFrom after
      (later.1.map (pieces ++ ·), later.2) := by
  simp only [construct] at built ⊢
  rw [constructAll_append, Effect.runFrom_bind, built]
  exact Effect.runFrom_map _ (pieces ++ ·) after

theorem Compiled.ofPieces_eq_of_map_eq {pieces : List (Piece η)}
    {only : Compiled η} (single : pieces.map Piece.compiled = [only]) :
    ofPieces pieces = only := by
  rcases List.map_eq_singleton_iff.mp single with ⟨piece, rfl, same⟩
  exact same

/--
Sequences compile part by part, for every toolkit, from every state, and
wherever a sequence is cut:

- If the part in front of the cut fails, the whole fails in the same way: with
  the same error, in the same state of the toolkit, with the same records.
- If only the part behind the cut fails, once the front part has left its state
  of the toolkit, the whole fails with that error and leaves what the part
  behind the cut leaves.
- If both parts compile, so does the whole.  It leaves what the part behind the
  cut leaves, its elements are those of the two parts, and if there is just one
  of them then that is the result.
-/
theorem compile_sequence_append (factory : WidgetFactory σ η ε)
    (left right : List Node) (state : BuildState σ η) :
    let first := Effect.runFrom (compile factory (.sequence left)) state
    let whole := Effect.runFrom (compile factory (.sequence (left ++ right))) state
    (∀ error, first.1 = .error error → whole = first) ∧
      ∀ result, first.1 = .ok result →
        ∀ context : Context η, context.parent = state.context.parent →
          let second :=
            Effect.runFrom (compile factory (.sequence right))
              { toolkit := first.2.toolkit
                context }
          (∀ error, second.1 = .error error →
            observed whole =
              (.error error, second.2.toolkit, state.context.parent)) ∧
            ∀ other, second.1 = .ok other →
              ∃ joined,
                observed whole =
                    (.ok joined, second.2.toolkit, state.context.parent) ∧
                  joined.elements = result.elements ++ other.elements ∧
                  ∀ only, result.elements ++ other.elements = [only] →
                    joined = only := by
  intro first whole
  constructor
  · intro error failed
    have same : first = (.error error, first.2) := Prod.ext failed rfl
    rw [same]
    exact compile_append_of_error same right
  · intro result compiled context under second
    have ran : first = (.ok result, first.2) := Prod.ext compiled rfl
    rcases compile_ok ran with ⟨pieces, built, rfl⟩
    have seen : observed second = _ := observed_compile factory (.sequence right) _
    have joined : observed whole = _ :=
      observed_compile factory (.sequence (left ++ right)) state
    rw [construct_append_of_ok built right] at joined
    rw [joined]
    rcases after :
      (construct factory state.context.parent (.sequence right)).runFrom
        first.2.toolkit with ⟨ending, last⟩
    simp only [under, after, observed, Prod.mk.injEq] at seen ⊢
    rcases seen with ⟨came, leaves, -⟩
    rw [came, leaves]
    cases ending with
    | error failure => simp [Except.map]
    | ok later =>
        refine ⟨by simp [Except.map], fun other same => ?_⟩
        obtain rfl : Compiled.ofPieces later = other := Except.ok.inj same
        refine ⟨Compiled.ofPieces (pieces ++ later),
          ⟨rfl, rfl, trivial⟩, by simp, ?_⟩
        intro only single
        refine Compiled.ofPieces_eq_of_map_eq ?_
        simpa using single

/--
A name that stands for nothing, in front of a button and behind it, and a
button in front of and behind nothing.
-/
theorem compile_sequence_append_around_button :
    let button : Node := .tag "push_button" .empty (.text "ok")
    let slider : Node := .tag "slider" .empty (.sequence [])
    let state : BuildState Recording Handle :=
      { toolkit := Recording.empty
        context := Context.start none }
    let run (nodes : List Node) :=
      Effect.runFrom (compile Recording.factory (.sequence nodes)) state
    let asked : Recording :=
      { calls := #[.leaf .pushButton none "ok"]
        refusing := none }
    (run [slider]).1 = .error (.classification "slider") ∧
      run ([slider] ++ [button]) = run [slider] ∧
      (run [button]).1 = .ok (.widget ⟨0⟩) ∧
      observed (run ([button] ++ [slider])) =
        (.error (.classification "slider"), asked, none) ∧
      (run [.sequence []]).1 = .ok (.sequence []) ∧
      observed (run ([.sequence []] ++ [button])) =
        (.ok (.widget ⟨0⟩), asked, none) := by
  intro button slider state run asked
  have front := compile_sequence_append Recording.factory [slider] [button] state
  have behind := compile_sequence_append Recording.factory [button] [slider] state
  have both :=
    compile_sequence_append Recording.factory [.sequence []] [button] state
  rcases (both.2 _ rfl (Context.start none) rfl).2 _ rfl with
    ⟨joined, seen, -, bare⟩
  obtain rfl : joined = .widget ⟨0⟩ := bare _ rfl
  exact
    ⟨rfl, front.1 _ rfl, rfl,
      (behind.2 _ rfl (Context.start none) rfl).1 _ rfl, rfl, seen⟩

end WidgetTemplate
