import Mathlib.Data.List.Basic
import WidgetTemplate.Text.Entity

/-!
# Entities can be read back

A text that is written with entities has no character left that means something
in markup, except for the ampersands that the entities start with.  Reading the
entities gives the text back, also if the text looks like an entity itself.

The text is written in one pass.  Replacing the five characters one after the
other in the whole text comes to the same, because the ampersand is replaced
first: `toList_replaceEach` asks of an order of replacements only that nothing
that is put in is replaced later.
-/

namespace WidgetTemplate

namespace Text

/-- The characters that a text with entities stands for. -/
def readEntities : List Char → List Char
  | '&' :: 'a' :: 'm' :: 'p' :: ';' :: rest => '&' :: readEntities rest
  | '&' :: 'l' :: 't' :: ';' :: rest => '<' :: readEntities rest
  | '&' :: 'g' :: 't' :: ';' :: rest => '>' :: readEntities rest
  | '&' :: 'q' :: 'u' :: 'o' :: 't' :: ';' :: rest => '"' :: readEntities rest
  | '&' :: 'a' :: 'p' :: 'o' :: 's' :: ';' :: rest => '\'' :: readEntities rest
  | char :: rest => char :: readEntities rest
  | [] => []

theorem readEntities_cons {char : Char} (plain : char ≠ '&') (rest : List Char) :
    readEntities (char :: rest) = char :: readEntities rest := by
  rw [readEntities]
  all_goals
    intros
    contradiction

/-- A character is read back from the way it is written in markup. -/
theorem readEntities_entityChar (char : Char) (rest : List Char) :
    readEntities (entityChar char ++ rest) = char :: readEntities rest := by
  unfold entityChar
  split
  iterate 5 rfl
  next notAmpersand _ _ _ _ => exact readEntities_cons notAmpersand rest

@[simp]
theorem toList_withEntities (text : String) :
    (withEntities text).toList = text.toList.flatMap entityChar := by
  rw [withEntities, String.toList_ofList]

theorem readEntities_withEntities (text : String) :
    readEntities (withEntities text).toList = text.toList := by
  rw [toList_withEntities]
  induction text.toList with
  | nil => rfl
  | cons char chars induction =>
      rw [List.flatMap_cons, readEntities_entityChar, induction]

/-- No character that opens or closes a tag or a quote is left. -/
theorem mem_entityChar {char written : Char} (member : written ∈ entityChar char) :
    written ≠ '<' ∧ written ≠ '>' ∧ written ≠ '"' ∧ written ≠ '\'' := by
  -- As statements on one special character, the five entities are decided.
  have apart {special : Char} (absent : special ∉ entityChar char) :
      written ≠ special := by
    rintro rfl
    exact absent member
  refine ⟨apart ?_, apart ?_, apart ?_, apart ?_⟩
  all_goals
    unfold entityChar
    split
    iterate 5 decide
    rw [List.mem_singleton]
    rintro rfl
    contradiction

theorem mem_withEntities {text : String} {written : Char}
    (member : written ∈ (withEntities text).toList) :
    written ≠ '<' ∧ written ≠ '>' ∧ written ≠ '"' ∧ written ≠ '\'' := by
  rw [toList_withEntities] at member
  rcases List.mem_flatMap.mp member with ⟨char, _, inside⟩
  exact mem_entityChar inside

/-! ## One replacement after another -/

/-- A text with a character replaced wherever it stands in the text. -/
def replaceChar (text : String) (special : Char) (entity : String) : String :=
  String.ofList (text.toList.flatMap fun char =>
    if char = special then entity.toList else [char])

/--
A text that is gone over once for each character that is replaced, so that a
later replacement also sees what the earlier ones put in.
-/
def replaceEach (replacements : List (Char × String)) (text : String) : String :=
  replacements.foldl
    (fun replaced replacement =>
      replaceChar replaced replacement.1 replacement.2) text

/--
The entities of markup, with the ampersand that all of them start with first.
-/
def entities : List (Char × String) :=
  [('&', "&amp;"), ('<', "&lt;"), ('>', "&gt;"), ('"', "&quot;"), ('\'', "&apos;")]

/-- What replacements make of a character when they are all made at once. -/
def replacementOf (replacements : List (Char × String))
    (char : Char) : List Char :=
  match replacements.lookup char with
  | some entity => entity.toList
  | none => [char]

theorem replacementOf_cons (special : Char) (entity : String)
    (rest : List (Char × String)) (char : Char) :
    replacementOf ((special, entity) :: rest) char =
      if char = special then entity.toList else replacementOf rest char := by
  rw [replacementOf, List.lookup_cons]
  by_cases same : char = special
  · rw [if_pos same, beq_iff_eq.mpr same]
  · rw [if_neg same, beq_false_of_ne same]
    rfl

/-- Characters that are not replaced stay as they are. -/
theorem flatMap_replacementOf {replacements : List (Char × String)}
    {chars : List Char}
    (kept : ∀ replacement ∈ replacements, replacement.1 ∉ chars) :
    chars.flatMap (replacementOf replacements) = chars := by
  have alone : ∀ char ∈ chars, replacementOf replacements char = [char] := by
    intro char member
    have absent : replacements.lookup char = none := by
      apply List.lookup_eq_none_iff.mpr
      intro replacement inside
      apply bne_iff_ne.mpr
      rintro rfl
      exact kept replacement inside member
    rw [replacementOf, absent]
  rw [List.flatMap_congr alone, List.flatMap_singleton']

/--
Replacing one character after another does the same as replacing all of them at
once, provided that nothing that is put in is replaced later.
-/
theorem toList_replaceEach {replacements : List (Char × String)}
    (order : replacements.Pairwise fun earlier later => later.1 ∉ earlier.2.toList)
    (text : String) :
    (replaceEach replacements text).toList =
      text.toList.flatMap (replacementOf replacements) := by
  induction replacements generalizing text with
  | nil =>
      exact (flatMap_replacementOf
        (fun _ member => absurd member List.not_mem_nil)).symm
  | cons replacement rest induction =>
      rcases replacement with ⟨special, entity⟩
      rcases List.pairwise_cons.mp order with ⟨kept, later⟩
      have head := induction later (replaceChar text special entity)
      rw [replaceEach, List.foldl_cons]
      apply head.trans
      rw [replaceChar, String.toList_ofList, List.flatMap_assoc]
      apply List.flatMap_congr
      intro char _
      rw [replacementOf_cons]
      split
      · exact flatMap_replacementOf kept
      · exact List.flatMap_singleton _ _

theorem replacementOf_entities (char : Char) :
    replacementOf entities char = entityChar char := by
  unfold entityChar
  split
  iterate 5 rfl
  next noAmp noLt noGt noQuote noApos =>
    have absent : entities.lookup char = none := by
      apply List.lookup_eq_none_iff.mpr
      simp only [entities, List.forall_mem_cons, bne_iff_ne]
      exact ⟨noAmp, noLt, noGt, noQuote, noApos, List.forall_mem_nil _⟩
    rw [replacementOf, absent]

/--
The ampersand comes first, so the five replacements do not get in
each other's way.
-/
theorem replaceEach_entities (text : String) :
    replaceEach entities text = withEntities text := by
  apply String.toList_inj.mp
  rw [toList_replaceEach (by decide), toList_withEntities]
  apply List.flatMap_congr
  intro char _
  exact replacementOf_entities char

/-! ## Where entities start -/

/-- Some entity of markup is at the start of these characters. -/
def StartsEntity (chars : List Char) : Prop :=
  ∃ replacement ∈ entities, replacement.2.toList <+: chars

theorem suffix_of_notMem {char : Char} {front back rest : List Char}
    (absent : char ∉ front) (found : char :: rest <:+ front ++ back) :
    char :: rest <:+ back := by
  induction front with
  | nil => exact found
  | cons head front induction =>
      rw [List.mem_cons, not_or] at absent
      rw [List.cons_append] at found
      rcases List.suffix_cons_iff.mp found with same | later
      · cases same
        exact absurd rfl absent.1
      · exact induction absent.2 later

/-- Every entity has one ampersand, with which it starts. -/
theorem toList_of_mem_entities :
    ∀ replacement ∈ entities,
      replacement.2.toList = '&' :: replacement.2.toList.tail ∧
        '&' ∉ replacement.2.toList.tail := by
  decide

/-- An ampersand in a character as it is written is the start of an entity. -/
theorem ampersand_in_entityChar {char : Char} {written rest : List Char}
    (found : '&' :: rest <:+ entityChar char ++ written) :
    StartsEntity ('&' :: rest) ∨ '&' :: rest <:+ written := by
  rw [← replacementOf_entities, replacementOf] at found
  cases replaced : entities.lookup char with
  | none =>
      rw [replaced] at found
      have other : '&' ≠ char := by
        rintro rfl
        cases replaced
      exact Or.inr (suffix_of_notMem (by simpa using other) found)
  | some entity =>
      rw [replaced] at found
      rcases List.lookup_eq_some_iff.mp replaced with ⟨before, after, split, _⟩
      have member : (char, entity) ∈ entities := by
        rw [split]
        exact List.mem_append_cons_self
      rcases toList_of_mem_entities _ member with ⟨spelled, absent⟩
      dsimp only at spelled absent found
      rw [spelled, List.cons_append] at found
      rcases List.suffix_cons_iff.mp found with same | later
      · refine Or.inl ⟨_, member, written, ?_⟩
        rw [same]
        exact congrArg (· ++ written) spelled
      · exact Or.inr (suffix_of_notMem absent later)

/-- An ampersand in a text with entities is the start of an entity. -/
theorem startsEntity_of_suffix {chars rest : List Char}
    (found : '&' :: rest <:+ chars.flatMap entityChar) :
    StartsEntity ('&' :: rest) := by
  induction chars with
  | nil => cases List.suffix_nil.mp found
  | cons char chars induction =>
      rw [List.flatMap_cons] at found
      rcases ampersand_in_entityChar found with starts | later
      · exact starts
      · exact induction later

theorem withEntities_injective : Function.Injective withEntities := by
  intro left right same
  apply String.toList_inj.mp
  rw [← readEntities_withEntities left, same, readEntities_withEntities]

/--
A text that is written with entities can be read back, and nothing in it means
something else in markup:

- Going over the whole text once for each of the five characters, with the
  ampersand first, is the same as writing each character of the text by itself.
- No angle bracket and no quote is left.
- Wherever an ampersand is left, one of the five entities starts.
- Reading the entities gives the text back, so that different texts are
  written differently, whether or not they have entities in them.
-/
theorem withEntities_reads_back (text : String) :
    replaceEach entities text = withEntities text ∧
      (withEntities text).toList = text.toList.flatMap entityChar ∧
      (∀ char ∈ (withEntities text).toList,
        char ≠ '<' ∧ char ≠ '>' ∧ char ≠ '"' ∧ char ≠ '\'') ∧
      (∀ rest, '&' :: rest <:+ (withEntities text).toList →
        ∃ replacement ∈ entities, replacement.2.toList <+: '&' :: rest) ∧
      String.ofList (readEntities (withEntities text).toList) = text ∧
      ∀ other, withEntities other = withEntities text → other = text := by
  refine ⟨replaceEach_entities text, toList_withEntities text, ?_, ?_, ?_, ?_⟩
  · intro char member
    exact mem_withEntities member
  · intro rest found
    rw [toList_withEntities] at found
    exact startsEntity_of_suffix found
  · rw [readEntities_withEntities, String.ofList_toList]
  · intro other same
    exact withEntities_injective same

/--
A text that has an entity in it already, and the text that it would stand for.
-/
theorem withEntities_reads_back_from_entities :
    let text := "&lt;b>"
    let written := "&amp;lt;b&gt;"
    withEntities text = written ∧
      replaceEach entities text = written ∧
      ('b' ∈ written.toList ∧ 'b' ≠ '<') ∧
      (['&', 'g', 't', ';'] <:+ written.toList ∧
        ∃ replacement ∈ entities, replacement.2.toList <+: ['&', 'g', 't', ';']) ∧
      String.ofList (readEntities written.toList) = text ∧
      withEntities "<b>" ≠ written := by
  intro text written
  have shown : withEntities text = written := by decide
  rcases withEntities_reads_back text with
    ⟨passes, -, plain, starts, undone, apart⟩
  rw [shown] at passes plain starts undone apart
  have letter : 'b' ∈ written.toList := by decide
  have last : ['&', 'g', 't', ';'] <:+ written.toList := by decide
  refine ⟨shown, passes, ⟨letter, (plain 'b' letter).1⟩,
    ⟨last, starts _ last⟩, undone, ?_⟩
  intro same
  exact absurd (apart "<b>" same) (by decide)

end Text

end WidgetTemplate
