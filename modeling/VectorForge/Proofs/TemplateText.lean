import VectorForge.Formatter
import VectorForge.Proofs.TemplateGrammar

/-! Templates that are known in advance. Such a template is cut into literal text and
slots once, and from then on its filled-in text is a concatenation. -/

namespace VectorForge.Proofs.TemplateText
open Template TemplateGrammar

inductive Segment where
  | text (literal : String)
  | slot (name : String)

namespace Segment

def tokens : Segment → List Token
  | .text literal => literal.toList.map .literal
  | .slot name => [.placeholder name]

def fill (bindings : Bindings) : Segment → Option String
  | .text literal => some literal
  | .slot name => bindings.resolve name

end Segment

/-- Texts one after another, without an empty text in front of the first. -/
def joined : List String → String
  | [] => ""
  | first :: rest => rest.foldl (· ++ ·) first

theorem joined_eq (texts : List String) : joined texts = String.join texts := by
  cases texts with
  | nil => rfl
  | cons first rest => simp [joined, String.join]

theorem Spells.literals {bindings tokens text} (chars : List Char)
    (further : Spells bindings tokens text) :
    Spells bindings (chars.map Token.literal ++ tokens) (String.ofList chars ++ text) := by
  induction chars with
  | nil => simpa using further
  | cons char chars ih =>
    have split : String.ofList (char :: chars) ++ text =
        String.singleton char ++ (String.ofList chars ++ text) := by
      apply String.toList_inj.mp
      simp
    rw [split]
    exact .literal ih

theorem spells_segments {bindings : Bindings} {segments : List Segment} {values : List String}
    (filled : segments.mapM (Segment.fill bindings) = some values) :
    Spells bindings (segments.flatMap Segment.tokens) (String.join values) := by
  induction segments generalizing values with
  | nil =>
    obtain rfl := Option.some.inj filled
    exact .done
  | cons segment segments ih =>
    simp only [List.mapM_cons, Option.bind_eq_bind, Option.bind_eq_some_iff, Option.pure_def,
      Option.some.injEq] at filled
    obtain ⟨value, first, rest, further, rfl⟩ := filled
    rw [List.flatMap_cons, String.join_cons]
    cases segment with
    | text literal =>
      obtain rfl := Option.some.inj first
      simpa [Segment.tokens] using Spells.literals literal.toList (ih further)
    | slot name => exact .placeholder ((resolve_iff _ _ _).mp first) (ih further)

/-- A template that is cut correctly and whose slots are all bound gives the
concatenation of its parts. -/
theorem render_of_segments {template : String} {bindings : Bindings} {text : String}
    (segments : List Segment) (cut : scan template = segments.flatMap Segment.tokens)
    (filled : (segments.mapM (Segment.fill bindings)).map joined = some text) :
    render template bindings = .ok text := by
  obtain ⟨values, found, rfl⟩ := Option.map_eq_some_iff.mp filled
  obtain ⟨pieces, rendered, same⟩ := (spells_segments found).rendered template
  simp [render, cut, rendered, same, joined_eq, bind, Except.bind, pure, Except.pure]

variable (formatter : Formatter) {template : String} {overrides : List (String × String)}
  {piece : Component → String}

theorem ofIndex_of_getElem? {index : Nat} {component : Component}
    (found : Component.all[index]? = some component) : Component.ofIndex index = .ok component := by
  simp [Component.ofIndex, found]

theorem pieces_eq (filled : ∀ component,
      formatter.formatAt component template overrides = .ok (piece component))
    (start count : Nat) (inside : start + count ≤ Component.all.length) :
    formatter.pieces template overrides start count =
      .ok (((Component.all.drop start).take count).map piece) := by
  induction count generalizing start with
  | zero => rfl
  | succ count ih =>
    have found : Component.all[start]? = some Component.all[start] :=
      List.getElem?_eq_getElem (by omega)
    have further := ih (start + 1) (by omega)
    rw [List.drop_eq_getElem_cons (by omega), List.take_succ_cons, List.map_cons]
    simp only [Formatter.pieces, ofIndex_of_getElem? found, filled, further, bind, Except.bind,
      pure, Except.pure]

theorem sequenceN_eq (filled : ∀ component,
      formatter.formatAt component template overrides = .ok (piece component))
    (separator : String) {count : Nat} (inside : count ≤ Component.all.length) :
    formatter.sequenceN template separator count overrides =
      .ok (separator.intercalate ((Component.all.take count).map piece)) := by
  have all := pieces_eq formatter filled 0 count (by omega)
  simp [Formatter.sequenceN, all, bind, Except.bind, pure, Except.pure]

theorem size_le (dimension : Dimension) : dimension.size ≤ Component.all.length := by
  cases dimension <;> decide

theorem sequence_eq (filled : ∀ component,
      formatter.formatAt component template overrides = .ok (piece component))
    (separator : String) :
    formatter.sequence template separator overrides =
      .ok (separator.intercalate (formatter.dimension.components.map piece)) :=
  sequenceN_eq formatter filled separator (size_le _)

end VectorForge.Proofs.TemplateText
