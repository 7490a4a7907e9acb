import VectorForge.Proofs.TemplateText

/-! How tokens are written. A token is written in one way, and it is read back from there
whatever text stands behind it. Text without placeholders is therefore written in one way,
with every brace doubled. -/

namespace VectorForge.Proofs.TemplateSpelling
open Template TemplateGrammar
open TemplateText (Spells.literals)

/-- The text of a token. What is malformed was not read and has none. -/
def spelling : Token → List Char
  | .literal char => if char == '{' || char == '}' then [char, char] else [char]
  | .placeholder name => '{' :: (name.toList ++ ['}'])
  | .malformed _ => []

theorem step_spelled {chars token rest} (first : Step chars token rest) :
    chars = spelling token ++ rest := by
  cases first with
  | plain notOpening notClosing => simp [spelling, notOpening, notClosing]
  | opening | closing => rfl
  | named => simp [spelling]

/-- What stands behind a token has no part in how it is read. -/
theorem step_before {chars token rest} (first : Step chars token rest) (other : List Char) :
    Step (spelling token ++ other) token other := by
  cases first with
  | plain notOpening notClosing =>
    simpa [spelling, notOpening, notClosing] using Step.plain notOpening notClosing
  | opening => exact .opening
  | closing => exact .closing
  | named nonempty words => simpa [spelling] using Step.named nonempty words

theorem scan_spelled {chars tokens rest} (scan : Scan chars tokens rest) :
    chars = tokens.flatMap spelling ++ rest := by
  induction scan with
  | here => rfl
  | step first _ ih => rw [step_spelled first, ih, List.flatMap_cons, List.append_assoc]

theorem scan_before {chars tokens rest} (scan : Scan chars tokens rest) (other : List Char) :
    Scan (tokens.flatMap spelling ++ other) tokens other := by
  induction scan with
  | here => exact .here
  | step first _ ih =>
    rw [List.flatMap_cons, List.append_assoc]
    exact .step (step_before first _) ih

theorem literal_step (char : Char) (rest : List Char) :
    Step (spelling (.literal char) ++ rest) (.literal char) rest := by
  by_cases opening : char = '{'
  · subst opening
    exact .opening
  · by_cases closing : char = '}'
    · subst closing
      exact .closing
    · simpa [spelling, opening, closing] using Step.plain opening closing

theorem literals_scan (chars : List Char) :
    Scan ((chars.map Token.literal).flatMap spelling) (chars.map .literal) [] := by
  induction chars with
  | nil => exact .here
  | cons char chars ih =>
    rw [List.map_cons, List.flatMap_cons]
    exact .step (literal_step char _) ih

theorem escape_toList (text : String) :
    (escape text).toList = (text.toList.map Token.literal).flatMap spelling := by
  rw [escape, String.toList_ofList, List.flatMap_map]
  rfl

theorem escape_reading (text : String) :
    TemplateGrammar.Reading (escape text) (text.toList.map .literal) (escape text) [] where
  split := by simp
  scan := by
    rw [escape_toList]
    exact literals_scan text.toList
  ended := .inl rfl

theorem scan_literals {chars tokens rest} (scan : Scan chars tokens rest)
    (unnamed : ∀ name, .placeholder name ∉ tokens) :
    ∃ plain : List Char, tokens = plain.map .literal := by
  induction scan with
  | here => exact ⟨[], rfl⟩
  | step first _ ih =>
    obtain ⟨plain, rfl⟩ := ih fun name member => unnamed name (List.mem_cons_of_mem _ member)
    rcases first.literal_or_placeholder with ⟨char, rfl⟩ | ⟨name, rfl⟩
    · exact ⟨char :: plain, rfl⟩
    · exact absurd List.mem_cons_self (unnamed name)

theorem spells_literals {bindings : Bindings} {chars : List Char} {text : String}
    (spelled : Spells bindings (chars.map Token.literal) text) : text = String.ofList chars := by
  induction chars generalizing text with
  | nil =>
    cases spelled
    rfl
  | cons char chars ih =>
    cases spelled with
    | literal further =>
      obtain rfl := ih further
      rw [String.ofList_cons]

/-- The templates without placeholders that can be filled in are the escaped texts, and each
gives back the text that was escaped. -/
theorem escaped_iff (bindings : Bindings) (template text : String) :
    template = escape text ↔
      (∀ name, .placeholder name ∉ scan template) ∧ render template bindings = .ok text := by
  constructor
  · rintro rfl
    constructor
    · intro name
      simp [(escape_reading text).scan_eq]
    · have ended : Spells bindings [] "" := .done
      have spelled := Spells.literals text.toList ended
      rw [List.append_nil, String.ofList_toList, String.append_empty] at spelled
      exact (escape_reading text).render_spelled spelled
  · rintro ⟨unnamed, rendered⟩
    obtain ⟨tokens, consumed, rest, reading⟩ := exists_reading template
    obtain ⟨rfl, spelled⟩ := reading.render_ok_iff.mp rendered
    obtain ⟨plain, rfl⟩ := scan_literals reading.scan (by simpa [reading.scan_eq] using unnamed)
    obtain rfl := spells_literals spelled
    have written := scan_spelled reading.scan
    rw [List.append_nil, ← String.toList_ofList (l := plain), ← escape_toList] at written
    exact String.toList_inj.mp written

end VectorForge.Proofs.TemplateSpelling
