import VectorForge.Lookup
import VectorForge.Proofs.TemplateSpelling

/-! Filling in in two steps. A value that was made from a template of its own can be bound
to a name, or that template can be put in the places of the name: the text is the same,
because a token is read in the same way wherever it stands. -/

namespace VectorForge.Proofs.TemplateInlining
open Template TemplateGrammar TemplateSpelling

/-- What is written for a token when a name gives way to a template. -/
def replaced (name source : String) (token : Token) : List Char :=
  if token = .placeholder name then source.toList else spelling token

/-- A template with another one in each place of a name. Only what reading meets is a
place, and what is left where reading stops stays as it is. -/
def inline (name source template : String) : String :=
  let tokens := scan template
  String.ofList (tokens.flatMap (replaced name source) ++
    template.toList.drop (tokens.flatMap spelling).length)

example : inline "T" "{{{T}}}" "{{T}}{{{T}}}{}{T}" = "{{T}}{{{{{T}}}}}{}{T}" := by decide

/-- What is read for a token when a name gives way to a template with these tokens. -/
def expanded (name : String) (parts : List Token) (token : Token) : List Token :=
  if token = .placeholder name then parts else [token]

variable {name source template value text consumed front : String} {bindings : Bindings}
  {tokens parts : List Token} {rest : List Char}

theorem inline_toList (reading : TemplateGrammar.Reading template tokens consumed rest) :
    (inline name source template).toList = tokens.flatMap (replaced name source) ++ rest := by
  have written := scan_spelled reading.scan
  -- The token that says where reading stopped has no text.
  have unread (write : Token → List Char) (silent : ∀ position, write (.malformed position) = []) :
      (scan template).flatMap write = tokens.flatMap write := by
    rw [reading.scan_eq, List.flatMap_append]
    split <;> simp [silent]
  rw [inline, String.toList_ofList, unread _ fun _ => rfl, unread spelling fun _ => rfl, written,
    List.drop_left]

/-- In each place of the name the tokens of the other template are read. -/
theorem scan_replaced {chars : List Char} (inner : Scan source.toList parts [])
    (outer : Scan chars tokens rest) :
    Scan (tokens.flatMap (replaced name source) ++ rest) (tokens.flatMap (expanded name parts))
      rest := by
  induction outer with
  | here => exact .here
  | @step _ token _ tokens rest first _ ih =>
    rw [List.flatMap_cons, List.flatMap_cons, List.append_assoc]
    refine Scan.append ?_ ih
    by_cases place : token = .placeholder name
    · have written := scan_spelled inner
      rw [List.append_nil] at written
      rw [replaced, expanded, if_pos place, if_pos place, written]
      exact scan_before inner _
    · rw [replaced, expanded, if_neg place, if_neg place]
      exact .step (step_before first _) .here

theorem inline_reading (inner : TemplateGrammar.Reading source parts front [])
    (outer : TemplateGrammar.Reading template tokens consumed rest) :
    TemplateGrammar.Reading (inline name source template) (tokens.flatMap (expanded name parts))
      (String.ofList (tokens.flatMap (replaced name source))) rest where
  split := by
    rw [← String.toList_inj, inline_toList outer, ← String.ofList_append, String.toList_ofList]
  scan := by
    rw [inline_toList outer]
    exact scan_replaced inner.scan outer.scan
  ended := outer.ended

/-- The bindings of a call with one more behind them. -/
def bound (bindings : Bindings) (name value : String) : Bindings :=
  { bindings with overrides := bindings.overrides ++ [(name, value)] }

/-- The new binding hides the others of its name and no more. -/
theorem resolve_bound (other : String) :
    (bound bindings name value).resolve other =
      if other = name then some value else bindings.resolve other := by
  have found : (bound bindings name value).overrides.reverse.lookup other =
      if other = name then some value else bindings.overrides.reverse.lookup other := by
    rw [bound, List.reverse_append, List.reverse_singleton, List.singleton_append,
      lookup_cons_ite]
  rw [Bindings.resolve, found]
  by_cases same : other = name
  · rw [if_pos same, if_pos same]
  · rw [if_neg same, if_neg same]
    rfl

theorem spells_token (made : Spells bindings parts value) (token : Token) :
    Spells (bound bindings name value) [token] text ↔
      Spells bindings (expanded name parts token) text := by
  cases token with
  | malformed position =>
    simp only [expanded, reduceCtorEq, if_false]
    exact iff_of_false Spells.not_malformed Spells.not_malformed
  | literal char => simp [expanded, Spells.literal_iff, Spells.nil_iff]
  | placeholder other =>
    by_cases place : other = name
    · subst place
      rw [expanded, if_pos rfl, Spells.placeholder_iff]
      simp only [resolve_bound, if_pos, Option.some.injEq, Spells.nil_iff]
      constructor
      · rintro ⟨_, _, rfl, rfl, rfl⟩
        simpa using made
      · intro spelled
        exact ⟨value, "", rfl, rfl, by simpa using spelled.unique made⟩
    · simp [expanded, place, Spells.placeholder_iff, Spells.nil_iff, resolve_bound]

theorem spells_expanded (made : Spells bindings parts value) :
    Spells (bound bindings name value) tokens text ↔
      Spells bindings (tokens.flatMap (expanded name parts)) text := by
  induction tokens generalizing text with
  | nil => rw [List.flatMap_nil, Spells.nil_iff, Spells.nil_iff]
  | cons token tokens ih =>
    rw [← List.singleton_append, Spells.append_iff, List.singleton_append, List.flatMap_cons,
      Spells.append_iff]
    simp only [spells_token made, ih]

/-- To bind a name to what a template gives is to put the template in the places of the name. -/
theorem bound_iff_inline (made : render source bindings = .ok value) (name template text : String) :
    render template { bindings with overrides := bindings.overrides ++ [(name, value)] } =
        .ok text ↔
      render (inline name source template) bindings = .ok text := by
  obtain ⟨parts, front, left, inner⟩ := exists_reading source
  obtain ⟨rfl, spelled⟩ := inner.render_ok_iff.mp made
  obtain ⟨tokens, consumed, rest, outer⟩ := exists_reading template
  rw [outer.render_ok_iff, (inline_reading inner outer).render_ok_iff]
  exact and_congr_right fun _ => spells_expanded spelled

/-- The name is a reserved one, which the template in its places uses for itself. -/
theorem shadowed_iff_inline :
    render "{{{T}}}" {} = .ok "{Float3}" ∧
      render "{{T}}{{{T}}}" { overrides := [("T", "{Float3}")] } = .ok "{T}{{Float3}}" ∧
      render (inline "T" "{{{T}}}" "{{T}}{{{T}}}") {} = .ok "{T}{{Float3}}" := by
  have made : render "{{{T}}}" {} = .ok "{Float3}" := rfl
  have filled : render "{{T}}{{{T}}}" { overrides := [("T", "{Float3}")] } =
      .ok "{T}{{Float3}}" := rfl
  exact ⟨made, filled, (bound_iff_inline made "T" "{{T}}{{{T}}}" "{T}{{Float3}}").mp filled⟩

end VectorForge.Proofs.TemplateInlining
