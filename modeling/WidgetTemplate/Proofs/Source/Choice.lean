import Mathlib.Data.List.TakeWhile
import WidgetTemplate.Proofs.Precedence
import WidgetTemplate.Proofs.Text.Lines
import WidgetTemplate.Source.Document

/-!
# How a text comes to its reader

A document says at last whether it is read as JSON or as YAML.  A format that
was asked for by name has the first say, and the last one asked for stands.
Without one, the extension of the path decides if it names a format, and
otherwise the first character of the text that is not blank.

That character never keeps a template from being read.  A template in JSON is
an object, whatever is in it, so its text starts with a brace, behind blanks
that are blank in every script.
-/

namespace WidgetTemplate

/-! ## Extensions of paths -/

namespace PathName

/--
An extension stands behind the last dot of a name that does not start with it.
-/
theorem extensionOf?_eq_some_iff {name extension : String} :
    extensionOf? name = some extension ↔
      ∃ stem, stem ≠ "" ∧ '.' ∉ extension.toList ∧
        name = stem ++ "." ++ extension := by
  unfold extensionOf?
  constructor
  · intro found
    have whole :=
      List.takeWhile_append_dropWhile (p := (· != '.')) (l := name.toList.reverse)
    have dotted := List.head?_dropWhile_not (· != '.') name.toList.reverse
    have plain : '.' ∉ name.toList.reverse.takeWhile (· != '.') := fun member => by
      simpa using List.mem_takeWhile_imp member
    rcases behind : name.toList.reverse.dropWhile (· != '.') with
      _ | ⟨dot, _ | ⟨char, front⟩⟩
    · simp [behind] at found
    · simp [behind] at found
    · rw [behind] at whole dotted
      have isDot : dot = '.' := by simpa using dotted
      simp only [behind, Option.some.injEq] at found
      subst found isDot
      refine ⟨String.ofList (char :: front).reverse, by simp,
        by simpa using plain, ?_⟩
      rw [← String.toList_inj]
      simpa using (congrArg List.reverse whole).symm
  · rintro ⟨stem, present, plain, rfl⟩
    have backwards : (stem ++ "." ++ extension).toList.reverse =
        extension.toList.reverse ++ '.' :: stem.toList.reverse := by
      simp
    have letters : ∀ char ∈ extension.toList.reverse, (char != '.') = true := by
      intro char member
      exact bne_iff_ne.mpr
        (ne_of_mem_of_not_mem (List.mem_reverse.mp member) plain)
    -- The last dot comes first when a name is read backwards.
    have parts :=
      Text.cut_at_end letters (bne_self_eq_false '.') stem.toList.reverse
    have inFront : stem.toList.reverse ≠ [] := by simpa using present
    rcases List.exists_cons_of_ne_nil inFront with ⟨char, front, named⟩
    rw [named] at backwards parts
    simp only [backwards, parts.1, parts.2]
    simp

end PathName

/-! ## Detection of JSON -/

namespace Json

theorem isBlank_of_isGap {char : Char} (gap : isGap char) : Text.isBlank char := by
  simp only [isGap, Bool.or_eq_true, beq_iff_eq] at gap
  rcases gap with ((rfl | rfl) | rfl) | rfl <;> rfl

/-- What a text starts with behind its gaps is its first visible character. -/
theorem find?_of_skipGaps {text rest : List Char} {char : Char}
    (start : skipGaps text = char :: rest) (visible : Text.isBlank char = false) :
    text.find? (!Text.isBlank ·) = some char := by
  induction text with
  | nil => cases start
  | cons first later induction =>
      rw [skipGaps, List.dropWhile_cons] at start
      split at start
      · rename_i gap
        rw [List.find?_cons_of_neg (by simp [isBlank_of_isGap gap])]
        exact induction start
      · cases start
        exact List.find?_cons_of_pos (by simp [visible])

end Json

namespace Node

open Json

/-- A node is read only where an object is opened. -/
theorem skipGaps_of_readOver {budget : Nat} {child : Reader Node}
    {text : List Char} {node : Node} {rest : List Char}
    (read : readOver budget child text = .ok (node, rest)) :
    ∃ later, skipGaps text = '\x7b' :: later := by
  unfold readOver at read
  split at read
  · cases read
  · rename_i later start
    exact ⟨later, start⟩
  · split at read <;> cases read
  · cases read

theorem skipGaps_of_readWithin {budget : Nat} {text : List Char} {node : Node}
    {rest : List Char} (read : readWithin budget text = .ok (node, rest)) :
    ∃ later, skipGaps text = '\x7b' :: later := by
  match budget with
  | 0 | 1 | _ + 2 => exact skipGaps_of_readOver read

/-- The first visible character of a template in JSON is a brace. -/
theorem firstVisible?_of_ofJsonText {source : String} {node : Node}
    (read : ofJsonText source = .ok node) :
    Text.firstVisible? source = some '\x7b' := by
  unfold ofJsonText at read
  cases outcome : readWithin maxNesting source.toList with
  | error failure =>
      simp only [outcome] at read
      cases read
  | ok result =>
      rcases skipGaps_of_readWithin outcome with ⟨later, start⟩
      exact find?_of_skipGaps start rfl

end Node

/--
Detection leads every template in JSON to the right reader.  If a text is read
as JSON, its first visible character opens an object; so it is detected as
JSON, and it is read as the same node when no format is asked for.
-/
theorem detect_of_readTemplate_json {source : String} {node : Node}
    (read : readTemplate source .json = .ok node) :
    Text.firstVisible? source = some '\x7b' ∧
      SourceFormat.detect source = .json ∧
      readTemplate source .auto = .ok node := by
  have whole : Node.ofJsonText source = .ok node := by
    cases outcome : Node.ofJsonText source with
    | error report =>
        simp [readTemplate, SourceFormat.resolve, outcome, Except.mapError] at read
    | ok held =>
        simpa [readTemplate, SourceFormat.resolve, outcome, Except.mapError] using
          read
  have brace := Node.firstVisible?_of_ofJsonText whole
  have detected : SourceFormat.detect source = .json := by
    rw [SourceFormat.detect, brace]
    rfl
  refine ⟨brace, detected, ?_⟩
  rw [← read, readTemplate, SourceFormat.resolve, detected]
  rfl

/-- Any blanks may stand in front, but only those that JSON knows. -/
theorem detect_of_readTemplate_json_behind_blanks :
    let source := "\r\n\t \x7b\"static\": \"[\"\x7d"
    readTemplate source .json = .ok (.text "[") ∧
      SourceFormat.detect source = .json ∧
      readTemplate source .auto = .ok (.text "[") := by
  intro source
  have read : readTemplate "\r\n\t \x7b\"static\": \"[\"\x7d" .json =
    .ok (.text "[") := by rfl
  exact ⟨read, (detect_of_readTemplate_json read).2⟩

namespace SourceDocument

/-! ## Documents with adjusted settings -/

/-- A change to the settings of a document. -/
inductive Adjustment where
  | format (wanted : SourceFormat)
  | flatten (wanted : Bool)
  deriving DecidableEq

/-- The document with its settings changed. -/
def adjust (document : SourceDocument) : Adjustment → SourceDocument
  | .format wanted => document.withFormat wanted
  | .flatten wanted => document.withFlatten wanted

/-- The document with its settings changed again and again. -/
def adjustAll (document : SourceDocument) (adjustments : List Adjustment) :
    SourceDocument :=
  adjustments.foldl adjust document

/-- The format that a change asks for by name. -/
def Adjustment.asked? : Adjustment → Option SourceFormat
  | .format .json => some .json
  | .format .yaml => some .yaml
  | _ => none

/-- The format that changes ask for by name, the last of them at that. -/
def lastAsked? (adjustments : List Adjustment) : Option SourceFormat :=
  (adjustments.filterMap Adjustment.asked?).getLast?

@[simp]
theorem text_withFormat (document : SourceDocument) (format : SourceFormat) :
    (document.withFormat format).text = document.text := by
  cases format <;> rfl

theorem format_adjust (document : SourceDocument) (adjustment : Adjustment) :
    (document.adjust adjustment).format =
      adjustment.asked?.getD document.format := by
  cases adjustment with
  | format wanted => cases wanted <;> rfl
  | flatten wanted => rfl

theorem text_adjustAll (document : SourceDocument)
    (adjustments : List Adjustment) :
    (document.adjustAll adjustments).text = document.text := by
  induction adjustments generalizing document with
  | nil => rfl
  | cons adjustment rest induction =>
      rw [adjustAll, List.foldl_cons, ← adjustAll, induction]
      cases adjustment with
      | format wanted => exact text_withFormat document wanted
      | flatten wanted => rfl

/-- The last format asked for stands, and without one the format stays. -/
theorem format_adjustAll (document : SourceDocument)
    (adjustments : List Adjustment) :
    (document.adjustAll adjustments).format =
      (lastAsked? adjustments).getD document.format := by
  have last : some (document.adjustAll adjustments).format =
      (lastAsked? adjustments).or (some document.format) :=
    foldl_last_set (fun document => some document.format) Adjustment.asked?
      (fun adjustment _ document => by rw [format_adjust, Option.or_some]) document
  rw [Option.or_some] at last
  exact Option.some.inj last

theorem lastAsked?_filter (adjustments : List Adjustment) :
    lastAsked? (adjustments.filter (·.asked?.isSome)) =
      lastAsked? adjustments := by
  unfold lastAsked?
  rw [List.filterMap_filter]
  congr 2
  funext adjustment
  cases adjustment.asked? <;> rfl

/-! ## The reader of a document -/

/--
The template of a document, flattened or not, if reading its
text came to a node.
-/
def piped (document : SourceDocument) (outcome : Except ReadError Node) :
    Except PipelineError Node :=
  (outcome.mapError fun error => .stage "read-ir" (.reading error)).map fun node =>
    if document.flattens then node.flatten else node

/-- A document gives and builds what reading its text came to. -/
def Follows (document : SourceDocument) (outcome : Except ReadError Node) : Prop :=
  document.template = document.piped outcome ∧
    ∀ {σ η ε : Type} (factory : WidgetFactory σ η ε) (toolkit : σ),
      document.build factory toolkit =
        match document.piped outcome with
        | .error error =>
            (.error (.pipeline error),
              { toolkit
                context := Context.start none })
        | .ok node =>
            let (result, after) := compileDocument factory node toolkit
            (result.mapError .compile, after)

theorem follows_readTemplate (document : SourceDocument) :
    document.Follows (readTemplate document.text document.format) := by
  have template :
      document.template =
        document.piped (readTemplate document.text document.format) := by
    unfold SourceDocument.template Stage.standard piped
    cases document.flattens <;>
      cases read : readTemplate document.text document.format <;>
      simp [Stage.andThen, Stage.read, read, Except.mapError, bind, Except.bind,
        Stage.flatten, Except.map]
  refine ⟨template, fun factory toolkit => ?_⟩
  rw [← template]
  rfl

theorem follows_json {document : SourceDocument}
    (resolved : document.format.resolve document.text = .json) :
    document.Follows ((Node.ofJsonText document.text).mapError .json) := by
  have follows := follows_readTemplate document
  rwa [readTemplate, resolved] at follows

theorem follows_yaml {document : SourceDocument}
    (resolved : document.format.resolve document.text = .yaml) :
    document.Follows ((Node.ofYamlText document.text).mapError .yaml) := by
  have follows := follows_readTemplate document
  rwa [readTemplate, resolved] at follows

/--
A text is read as JSON or as YAML, as the format that was asked for by name
says.  If there is none, it is read as the extension says, in lower case, and
if that names no format, as the first visible character says.
-/
structure FollowsChoice
    (document : SourceDocument)
    (asked : Option SourceFormat)
    (extension : Option String)
    (text : String) : Prop where
  askedJson :
    asked = some .json → document.Follows ((Node.ofJsonText text).mapError .json)
  askedYaml :
    asked = some .yaml → document.Follows ((Node.ofYamlText text).mapError .yaml)
  namedJson :
    asked = none → extension = some "json" →
      document.Follows ((Node.ofJsonText text).mapError .json)
  namedYaml :
    asked = none → extension = some "yaml" ∨ extension = some "yml" →
      document.Follows ((Node.ofYamlText text).mapError .yaml)
  looksJson :
    asked = none → extension ∉ [some "json", some "yaml", some "yml"] →
      Text.firstVisible? text ∈ [some '\x7b', some '['] →
        document.Follows ((Node.ofJsonText text).mapError .json)
  looksYaml :
    asked = none → extension ∉ [some "json", some "yaml", some "yml"] →
      Text.firstVisible? text ∉ [some '\x7b', some '['] →
        document.Follows ((Node.ofYamlText text).mapError .yaml)

theorem detect_eq_json {text : String}
    (looks : Text.firstVisible? text ∈ [some '\x7b', some '[']) :
    SourceFormat.detect text = .json := by
  rw [SourceFormat.detect]
  simp only [List.mem_cons, List.not_mem_nil, or_false] at looks
  rcases looks with brace | bracket
  · rw [brace]
    rfl
  · rw [bracket]
    rfl

theorem detect_eq_yaml {text : String}
    (looks : Text.firstVisible? text ∉ [some '\x7b', some '[']) :
    SourceFormat.detect text = .yaml := by
  rw [SourceFormat.detect]
  split
  · simp_all
  · simp_all
  · rfl

/-- What was asked for comes first, then the extension, then the text itself. -/
theorem followsChoice_of_format {document : SourceDocument} {text : String}
    {asked : Option SourceFormat} {extension : Option String}
    {named : SourceFormat} (same : document.text = text)
    (settled : document.format = asked.getD named)
    (json : extension = some "json" → named = .json)
    (yaml : extension = some "yaml" ∨ extension = some "yml" → named = .yaml)
    (neither : extension ∉ [some "json", some "yaml", some "yml"] →
      named = .auto) :
    document.FollowsChoice asked extension text := by
  subst same
  constructor
  case askedJson =>
    rintro rfl
    exact follows_json (by rw [settled]; rfl)
  case askedYaml =>
    rintro rfl
    exact follows_yaml (by rw [settled]; rfl)
  case namedJson =>
    rintro rfl ending
    exact follows_json (by rw [settled, json ending]; rfl)
  case namedYaml =>
    rintro rfl ending
    exact follows_yaml (by rw [settled, yaml ending]; rfl)
  case looksJson =>
    rintro rfl other looks
    exact follows_json (by rw [settled, neither other]; exact detect_eq_json looks)
  case looksYaml =>
    rintro rfl other looks
    exact follows_yaml (by rw [settled, neither other]; exact detect_eq_yaml looks)

theorem format_ofFile (path text : String) :
    (ofFile path text).format = formatOf path := by
  rw [ofFile]
  cases formatOf path <;> rfl

/--
A text that was found under a path is read in the format of its
extension at least.
-/
theorem followsChoice_ofFile (path text : String) (adjustments : List Adjustment) :
    ((ofFile path text).adjustAll adjustments).FollowsChoice
      (lastAsked? adjustments)
      ((PathName.extension? path).map String.toLower) text := by
  have same : ((ofFile path text).adjustAll adjustments).text = text := by
    rw [text_adjustAll, ofFile, text_withFormat, ofText]
  have settled := format_adjustAll (ofFile path text) adjustments
  rw [format_ofFile, formatOf, SourceFormat.ofExtension?] at settled
  refine followsChoice_of_format same settled ?_ ?_ ?_
  · intro ending
    rw [ending]
    rfl
  · rintro (ending | ending)
    all_goals
      rw [ending]
      rfl
  · intro other
    split <;> simp_all

theorem followsChoice_ofText (text : String) (adjustments : List Adjustment) :
    ((ofText text).adjustAll adjustments).FollowsChoice
      (lastAsked? adjustments) none text := by
  have same : ((ofText text).adjustAll adjustments).text = text :=
    text_adjustAll _ _
  refine followsChoice_of_format same
    (format_adjustAll (ofText text) adjustments) ?_ ?_ ?_
  all_goals simp [ofText]

/--
The reader of a loaded document is settled by the last format that was asked
for by name, and otherwise by the extension of the path, and otherwise by the
text.  Whatever changes are made to the settings of a document, one after
another:

- A text that is found under a path is read as this order of precedence says,
  for its template and when it is built.  The extension is what stands behind
  the last dot of the file name, if something stands in front of that dot, and
  it counts in letters of either case.
- A text without a path is read likewise, but it has no extension.
- Changes that ask for no format by name do not matter: without them, the same
  format is settled.
-/
theorem load_follows_choice {m : Type → Type} [Monad m] [LawfulMonad m]
    (files : FileAccess m) (path text : String)
    (readable : files.read path = pure (.ok text))
    (adjustments : List Adjustment) :
    (∃ document, load files path = pure (.ok document) ∧
      (document.adjustAll adjustments).FollowsChoice (lastAsked? adjustments)
        ((PathName.extension? path).map String.toLower) text ∧
      (document.adjustAll adjustments).format =
        (document.adjustAll (adjustments.filter (·.asked?.isSome))).format) ∧
    (∀ extension, PathName.extension? path = some extension ↔
      ∃ stem, stem ≠ "" ∧ '.' ∉ extension.toList ∧
        PathName.fileName? path = some (stem ++ "." ++ extension)) ∧
    ((ofText text).adjustAll adjustments).FollowsChoice
        (lastAsked? adjustments) none text ∧
    ((ofText text).adjustAll adjustments).format =
      ((ofText text).adjustAll (adjustments.filter (·.asked?.isSome))).format := by
  have idle (document : SourceDocument) :
      (document.adjustAll adjustments).format =
        (document.adjustAll (adjustments.filter (·.asked?.isSome))).format := by
    rw [format_adjustAll, format_adjustAll, lastAsked?_filter]
  refine ⟨⟨ofFile path text, ?_, followsChoice_ofFile path text adjustments,
    idle _⟩, ?_, followsChoice_ofText text adjustments, idle _⟩
  · rw [load, readable, pure_bind]
  · intro extension
    simp only [PathName.extension?, Option.bind_eq_some_iff,
      PathName.extensionOf?_eq_some_iff]
    constructor
    · rintro ⟨name, named, stem, present, plain, rfl⟩
      exact ⟨stem, present, plain, named⟩
    · rintro ⟨stem, present, plain, named⟩
      exact ⟨_, named, stem, present, plain, rfl⟩

/--
An extension in capitals makes the text of an object YAML, and no change that
leaves the format open takes that back.  Asking for JSON does.
-/
theorem load_follows_choice_of_extension :
    let text := "\x7b\"static\": \"x\"\x7d"
    let files : FileAccess Id :=
      { read := fun _ => .ok text
        isFile := fun _ => true }
    let leaving : List Adjustment := [.flatten false, .format .auto]
    ∃ document, load files "forms/login.old.YML" = .ok document ∧
      (document.adjustAll leaving).Follows
          ((Node.ofYamlText text).mapError .yaml) ∧
      (document.adjustAll (.format .json :: leaving)).Follows
        ((Node.ofJsonText text).mapError .json) := by
  intro text files leaving
  have ending : (PathName.extension? "forms/login.old.YML").map String.toLower =
    some "yml" := by
    decide +kernel
  rcases load_follows_choice files "forms/login.old.YML" text rfl leaving with
    ⟨⟨document, loaded, left, -⟩, -⟩
  rcases load_follows_choice files "forms/login.old.YML" text rfl
    (.format .json :: leaving) with
    ⟨⟨again, same, asked, -⟩, -⟩
  have alike : document = again := Except.ok.inj (loaded.symm.trans same)
  subst alike
  exact ⟨document, loaded, left.namedYaml rfl (.inr ending), asked.askedJson rfl⟩

end SourceDocument

end WidgetTemplate
